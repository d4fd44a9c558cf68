import SqlWeave.Connection.Statement
import SqlWeave.Sql.Tree

/-!
# Results of rows

Every row carries its result in one column.  How the content of a column
becomes a value is up to the driver, so a reader of rows is a parameter here.
All rows are read before the result is shaped, so a row that cannot be read
fails the whole, also where the shape would have dropped it.
-/

namespace SqlWeave

def resultColumn : String := "result"

namespace Connection

/-- How a driver takes values out of a row: from the columns of the reply, the
content of the row and the name of a column, a value or the text of an error. -/
structure RowReader where
  /-- Take an integer of 64 bits. -/
  integer : List Column → List Datum → String → Except String Int
  /-- Take a JSON document. -/
  document : List Column → List Datum → String → Except String Json

/-- Whether two names are equal up to the case of their ASCII letters. -/
def sameIgnoringCase (left right : String) : Bool :=
  left.toList.map Char.toLower == right.toList.map Char.toLower

/-- A row has content of a type in the column of a name, where the driver looks it up. -/
def Holds (lookup : List Column → String → Option Nat) (columns : List Column)
    (row : List Datum) (name : String) (type : ColumnType) (datum : Datum) : Prop :=
  ∃ index column, lookup columns name = some index ∧ columns[index]? = some column ∧
    sameIgnoringCase column.name name ∧ column.type = type ∧ row[index]? = some datum

namespace RowReader

/-- What is documented of a driver: an integer of 64 bits is what a column of
`bigint` holds unless it is null, and a document is what a column of `jsonb` or
`json` holds, unless it is null or the driver cannot decode its text. -/
structure Documented (reader : RowReader) (lookup : List Column → String → Option Nat)
    (parse : String → Option Json) : Prop where
  integer_eq_ok_iff : ∀ columns row name number,
    reader.integer columns row name = .ok number ↔
      Holds lookup columns row name .int8 (.integer number)
  document_eq_ok_iff : ∀ columns row name value,
    reader.document columns row name = .ok value ↔
      ∃ type text, (type = .jsonb ∨ type = .json) ∧
        Holds lookup columns row name type (.json text) ∧ parse text = some value

variable (reader : RowReader) (shape : ResultShape) (columns : List Column) (row : List Datum)

/-- Take the result of a row: a count is an integer, and all else is a document. -/
def result : Except String Json :=
  match shape with
  | .count => (reader.integer columns row resultColumn).map .ofInt
  | .all | .first => reader.document columns row resultColumn

/-- The result of a row, or the error of the driver under the name of the column. -/
def rowResult : Except Error Json :=
  (reader.result shape columns row).mapError (.decode resultColumn)

/-- The result of every row, or the error of the first that has none. -/
def rowResults (reply : Reply) : Except Error (List Json) :=
  reply.rows.mapM (reader.rowResult shape reply.columns)

end RowReader

end Connection

/-- Shape the results of all rows into one value. -/
def ResultShape.apply : ResultShape → List Json → Json
  | .all, results => .array results
  | .first, results => results.headD .null
  | .count, results => results.headD (.ofInt 0)

end SqlWeave
