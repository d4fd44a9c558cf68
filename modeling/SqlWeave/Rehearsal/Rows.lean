import SqlWeave.Connection.Rows
import SqlWeave.Json.Reader

/-!
# Rows of a rehearsal

The reader of rows that rehearsals run with.  A column is looked up by its
name, and its type decides which values may be taken from it.
-/

namespace SqlWeave.Rehearsal

open Connection

/-- The place of a column: the first of exactly that name, else the first that
differs only in case. -/
def columnIndex? (columns : List Column) (name : String) : Option Nat :=
  columns.findIdx? (fun column => column.name == name) <|>
    columns.findIdx? fun column => sameIgnoringCase column.name name

/-- The depth up to which the JSON text of a row is read. -/
def greatestDepth : Nat := 127

/-- The value of the JSON text of a row, unless it is too deep. -/
def readDocument? (text : String) : Option Json := do
  let value ← Json.read? text
  if value.depth ≤ greatestDepth then return value else none

def integer? : ColumnType → Datum → Option Int
  | .int8, .integer number => some number
  | _, _ => none

def document? : ColumnType → Datum → Option Json
  | .jsonb, .json text | .json, .json text => readDocument? text
  | _, _ => none

/-- Take a value out of the column of a name, if the column has one to take. -/
def take {Kind : Type} (take? : ColumnType → Datum → Option Kind) (columns : List Column)
    (row : List Datum) (name : String) : Except String Kind :=
  match columnIndex? columns name with
  | none => .error ("invalid column \x60" ++ name ++ "\x60")
  | some index =>
    let taken := do take? (← columns[index]?).type (← row[index]?)
    taken.elim (.error ("error deserializing column " ++ toString index)) .ok

/-- The reader of rows that rehearsals run with. -/
def rowReader : RowReader where
  integer := take integer?
  document := take document?

end SqlWeave.Rehearsal
