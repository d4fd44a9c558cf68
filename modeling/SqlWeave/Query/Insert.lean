import SqlWeave.Query.Projection
import SqlWeave.Sql.Fragment

/-!
# Insert and upsert

One row or a batch of rows goes into a table.  The rows of a batch may have
different columns: the statement lists the union of them, and a row that lacks
a column gets the column's default there, never a null.  An upsert is the same
statement with a conflict clause.
-/

namespace SqlWeave.Query

variable {Value : Type}

/-- The rows of an insert: a single row yields an object, a batch an array. -/
inductive Rows (Value : Type) where
  | one (record : Record Value)
  | many (records : List (Record Value))

def Rows.shape : Rows Value → ResultShape
  | .one _ => .first
  | .many _ => .all

/-- The records of an insert, in batch order. -/
def Rows.records : Rows Value → List (Record Value)
  | .one record => [record]
  | .many records => records

def columnUnion (records : List (Record Value)) : NameSet :=
  records.foldl (fun columns record => columns.addNames record.columns) ∅

/-- Set a column to its default, unless the record has a cell there. -/
def fillDefault (record : Record Value) (column : String) : Record Value :=
  if record.contains column then record else record.setDefault column

/-- Fill the gaps that a record has among the columns. -/
def fillDefaults (columns : NameSet) (record : Record Value) : Record Value :=
  columns.keys.foldl fillDefault record

/-- What follows the table name of an insert. -/
inductive TupleSource (Value : Type) where
  /-- There is no row to insert. -/
  | nothing
  /-- So many rows, made of column defaults only. -/
  | defaults (count : Nat)
  /-- Rows that all have exactly these columns. -/
  | tuples (columns : List String) (rows : List (Record Value))

/-- Line the rows up under one column list. -/
def Rows.source : Rows Value → TupleSource Value
  | .one record =>
    if record.isEmpty then .defaults 1 else .tuples record.columns [record]
  | .many records =>
    let columns := columnUnion records
    if records.isEmpty then .nothing
    else if columns.isEmpty then .defaults records.length
    else .tuples columns.keys (records.map (fillDefaults columns))

namespace TupleSource

/-- The columns that receive a value from the caller. -/
def columns : TupleSource Value → List String
  | .tuples columns _ => columns
  | .nothing | .defaults _ => []

/-- One row as a parenthesised tuple. -/
def tuple (row : Record Value) : Node Value :=
  .seq [.raw "(", .valuesOf row, .raw ")"]

/-- Append the column list and the tuples. -/
def pushOnto (statement : Fragment Value) : TupleSource Value → Fragment Value
  | .nothing => statement
  | .defaults 1 => statement.push " DEFAULT VALUES"
  | .defaults count =>
    ((statement.push " SELECT FROM generate_series(1, ").pushRaw (toString count)).push ")"
  | .tuples columns rows =>
    (((statement.push " (").pushNode (.columns columns)).push ") VALUES ").pushNode
      (.join (rows.map tuple) ", ")

end TupleSource

/-- The statement of an empty batch: it returns no row and writes nothing. -/
def nothingInserted : Fragment Value :=
  (Fragment.ofText "SELECT NULL::jsonb AS result WHERE false").withShape .all

/-- The part of an insert before its conflict clause and its result. -/
def insertInto (table : String) (source : TupleSource Value) : Fragment Value :=
  source.pushOnto ((Fragment.ofText "INSERT INTO ").pushIdent table)

/-- Insert rows and return them. -/
def insert (table : String) (rows : Rows Value) : Fragment Value :=
  match rows.source with
  | .nothing => nothingInserted
  | source =>
    ((((insertInto table source).push " RETURNING ").pushNode (rowJson table)).push
      " AS result").withShape rows.shape

/-- The incoming value of a column in a conflict clause. -/
def excluded (column : String) : Node Value :=
  .seq [.raw "EXCLUDED.", .ident column]

/-- The stored value where the incoming one is null, else the incoming one. -/
def excludedUnlessNull (table column : String) : Node Value :=
  .seq [.raw "CASE WHEN ", excluded column, .raw " IS NULL THEN ", qualified table column,
    .raw " ELSE ", excluded column, .raw " END"]

/-- The columns that a conflict updates: the inserted ones outside the key, or
else the key itself, so that the conflicting row is returned in any case. -/
def updatedColumns (inserted : List String) (unique : NameSet) : List String :=
  match inserted.filter fun column => !unique.contains column with
  | [] => unique.keys
  | columns => columns

def updatedValue (table : String) (noNull : List String) (column : String) : Node Value :=
  if noNull.contains column then excludedUnlessNull table column else excluded column

/-- Insert rows, or update the stored row on a conflict over the unique columns.

Columns in `noNull` keep their stored value when the incoming one is null.
Each returned object says under `$action` which of the two happened. -/
def upsert (table : String) (rows : Rows Value) (uniqueColumns noNull : List String) :
    Fragment Value :=
  match rows.source with
  | .nothing => nothingInserted
  | source =>
    let unique := NameSet.ofNames uniqueColumns
    let updated := updatedColumns source.columns unique
    let conflict := ((insertInto table source).push " ON CONFLICT (").pushNode (.columns unique.keys)
    let assignment := ((conflict.push ") DO UPDATE SET (").pushNode (.columns updated)).push ") = ROW("
    let statement := assignment.pushNode (.join (updated.map (updatedValue table noNull)) ", ")
    (((statement.push ") RETURNING ").pushNode (rowJson table)).push
      " || jsonb_build_object('$action', CASE xmax WHEN 0 THEN 'INSERT' ELSE 'UPDATE' END) AS result").withShape
        rows.shape

end SqlWeave.Query
