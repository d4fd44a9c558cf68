import SqlWeave.Query.Condition
import SqlWeave.Query.Lateral

/-!
# Select and count

One query shape in three modes: all matching rows as an array, the first one
as an object, or their number.  An array is aggregated in an outer query, so
that ordering and paging apply to the rows and not to the single aggregate.
-/

namespace SqlWeave.Query

variable {Value : Type}

/-- What a select returns. -/
inductive SelectMode where
  /-- An array of row objects. -/
  | many
  /-- The first row object, or null. -/
  | one
  /-- The number of rows. -/
  | count
  deriving DecidableEq, Repr, Inhabited

inductive Direction where
  | ascending
  | descending
  deriving DecidableEq, Repr

def Direction.sql : Direction → String
  | .ascending => "ASC"
  | .descending => "DESC"

/-- Where an ordering item puts nulls. -/
inductive Nulls where
  | first
  | last
  deriving DecidableEq, Repr

def Nulls.sql : Nulls → String
  | .first => "NULLS FIRST"
  | .last => "NULLS LAST"

/-- One item of an ordering. -/
structure OrderItem (Value : Type) where
  expression : Node Value
  direction : Direction
  nulls : Option Nulls := none

namespace OrderItem

def asc (column : String) : OrderItem Value := ⟨.ident column, .ascending, none⟩

def desc (column : String) : OrderItem Value := ⟨.ident column, .descending, none⟩

def withNulls (item : OrderItem Value) (nulls : Nulls) : OrderItem Value :=
  { item with nulls := some nulls }

/-- The item as it stands after `ORDER BY`. -/
def node (item : OrderItem Value) : Node Value :=
  let nulls := match item.nulls with
    | some nulls => [.raw " ", .raw nulls.sql]
    | none => []
  .seq ([item.expression, .raw " ", .raw item.direction.sql] ++ nulls)

end OrderItem

/-- What a select may be told besides its table and filter. -/
structure SelectOptions (Value : Type) where
  order : List (OrderItem Value) := []
  limit : Option Nat := none
  offset : Option Nat := none
  /-- The columns to return instead of the whole row. -/
  columns : Option (List String) := none
  /-- Computed values, added to every row object under their keys. -/
  extras : KeyMap (Fragment Value) := ∅
  /-- Sub-selects, whose results are nested under their keys. -/
  laterals : KeyMap (Fragment Value) := ∅
  /-- Another name for the table, for statements that use it twice. -/
  tableAlias : Option String := none

namespace SelectOptions

def orderBy (options : SelectOptions Value) (item : OrderItem Value) : SelectOptions Value :=
  { options with order := options.order ++ [item] }

def withLimit (options : SelectOptions Value) (limit : Nat) : SelectOptions Value :=
  { options with limit := some limit }

def withOffset (options : SelectOptions Value) (offset : Nat) : SelectOptions Value :=
  { options with offset := some offset }

def withColumns (options : SelectOptions Value) (columns : List String) : SelectOptions Value :=
  { options with columns := some columns }

/-- Add a computed value under a key. -/
def extra (options : SelectOptions Value) (key : String) (expression : Fragment Value) :
    SelectOptions Value :=
  { options with extras := options.extras.insert key expression }

/-- Nest the result of a sub-select under a key. -/
def lateral (options : SelectOptions Value) (key : String) (subselect : Fragment Value) :
    SelectOptions Value :=
  { options with laterals := options.laterals.insert key subselect }

def withAlias (options : SelectOptions Value) (tableAlias : String) : SelectOptions Value :=
  { options with tableAlias := some tableAlias }

/-- The options as a mode understands them: a single row is a limit of one, and
ordering and paging would apply to the aggregate of a count. -/
def forMode (options : SelectOptions Value) : SelectMode → SelectOptions Value
  | .many => options
  | .one => { options with limit := some 1 }
  | .count => { options with order := [], limit := none, offset := none }

/-- The name that the rest of the statement knows the table by. -/
def tableRef (options : SelectOptions Value) (table : String) : String :=
  options.tableAlias.getD table

end SelectOptions

/-- What a count may be told besides its table and filter. -/
structure CountOptions where
  /-- Count only rows where none of these columns is null. -/
  columns : Option (List String) := none
  tableAlias : Option String := none
  deriving DecidableEq, Repr

def CountOptions.toSelect (options : CountOptions) : SelectOptions Value :=
  { columns := options.columns, tableAlias := options.tableAlias }

/-- The row object: the whole row, or the listed columns. -/
def rowProjection (tableRef : String) : Option (List String) → Node Value
  | none => rowJson tableRef
  | some columns => jsonObject (columns.map fun column => (column, qualified tableRef column))

/-- The number of rows, or of those where the listed columns are not null. -/
def countProjection : Option (List String) → Node Value
  | none | some [] => .raw "count(*)"
  | some [column] => .seq [.raw "count(", .ident column, .raw ")"]
  | some columns =>
    .seq [.raw "count(*) FILTER (WHERE ",
      .join (columns.map fun column => .seq [.ident column, .raw " IS NOT NULL"]) " AND ",
      .raw ")"]

/-- The computed values merged into the row object. -/
def extrasProjection (extras : KeyMap (Fragment Value)) : Node Value :=
  jsonMerge (extras.toList.map fun entry => (entry.1, .fragment entry.2))

/-- Append what the query returns. -/
def pushProjection (statement : Fragment Value) (tableRef : String)
    (options : SelectOptions Value) : SelectMode → Fragment Value
  | .count => statement.pushNode (countProjection options.columns)
  | .many | .one =>
    ((statement.pushNode (rowProjection tableRef options.columns)).pushNode
      (mergeLaterals options.laterals)).pushNode (extrasProjection options.extras)

/-- Append the table and the joins; a count has no use for joins that keep every row. -/
def pushSource (statement : Fragment Value) (table : String)
    (options : SelectOptions Value) (mode : SelectMode) : Fragment Value :=
  let named := (statement.push " AS result FROM ").pushIdent table
  let aliased := match options.tableAlias with
    | some tableAlias => (named.push " AS ").pushIdent tableAlias
    | none => named
  match mode with
  | .count => aliased
  | .many | .one => aliased.pushNode (joinLaterals (options.tableRef table) options.laterals)

def pushFilter (statement : Fragment Value) : Filter Value → Fragment Value
  | .all => statement
  | .only condition => (statement.push " WHERE ").pushNode condition.node

def pushOrder (statement : Fragment Value) : List (OrderItem Value) → Fragment Value
  | [] => statement
  | item :: items =>
    (statement.push " ORDER BY ").pushNode (.join ((item :: items).map OrderItem.node) ", ")

/-- Append a keyword and a number, if there is one. -/
def pushNumber (statement : Fragment Value) (keyword : String) : Option Nat → Fragment Value
  | some number => (statement.push keyword).pushRaw (toString number)
  | none => statement

/-- The query over the rows themselves, for options that fit the mode. -/
def selectRows (table : String) (filter : Filter Value) (options : SelectOptions Value)
    (mode : SelectMode) : Fragment Value :=
  let projected := pushProjection (.ofText "SELECT ") (options.tableRef table) options mode
  let filtered := pushFilter (pushSource projected table options mode) filter
  let ordered := pushOrder filtered options.order
  pushNumber (pushNumber ordered " LIMIT " options.limit) " OFFSET " options.offset

/-- Aggregate the results of a query into one array. -/
def aggregate (tableRef : String) (rows : Fragment Value) : Fragment Value :=
  (((Fragment.ofText "SELECT coalesce(jsonb_agg(result), '[]') AS result FROM (").pushFragment
    rows).push ") AS ").pushIdent ("sq_" ++ tableRef)

def selectMode (table : String) (filter : Filter Value) (options : SelectOptions Value)
    (mode : SelectMode) : Fragment Value :=
  let rows := selectRows table filter (options.forMode mode) mode
  match mode with
  | .many => (aggregate (options.tableRef table) rows).withShape .first
  | .one => rows.withShape .first
  | .count => rows.withShape .count

/-- All matching rows as an array. -/
def select (table : String) (filter : Filter Value) (options : SelectOptions Value) :
    Fragment Value :=
  selectMode table filter options .many

/-- The first matching row as an object, or null. -/
def selectOne (table : String) (filter : Filter Value) (options : SelectOptions Value) :
    Fragment Value :=
  selectMode table filter options .one

/-- The number of matching rows. -/
def count (table : String) (filter : Filter Value) (options : CountOptions) : Fragment Value :=
  selectMode table filter options.toSelect .count

end SqlWeave.Query
