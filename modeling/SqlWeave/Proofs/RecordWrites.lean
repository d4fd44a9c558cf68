import SqlWeave.KeyMap.Lemmas
import SqlWeave.Sql.Record

/-!
# Writes into records

The ways to write into a record, and what they leave behind.  Main statement:
under every column stands the cell that was written there last, and nothing
else is left of the order of the writes.
-/

namespace SqlWeave.Record

variable {Value : Type}

/-- One step of building a record. -/
inductive Write (Value : Type) where
  | set (column : String) (cell : Cell Value)
  | setDefault (column : String)
  /-- Set a column and hand back the cell that was there. -/
  | replace (column : String) (cell : Cell Value)
  /-- Start again with the record of these pairs. -/
  | collect (pairs : List (String × Cell Value))

namespace Write

def apply (record : Record Value) : Write Value → Record Value
  | .set column cell => record.set column cell
  | .setDefault column => record.setDefault column
  | .replace column cell => (record.replace column cell).2
  | .collect pairs => KeyMap.ofList pairs

/-- The pairs that were written since the last start, if so many were before. -/
def note (pairs : List (String × Cell Value)) : Write Value → List (String × Cell Value)
  | .set column cell | .replace column cell => pairs ++ [(column, cell)]
  | .setDefault column => pairs ++ [(column, .default)]
  | .collect others => others

end Write

/-- The record that is built by writes, from the record without columns. -/
def written (writes : List (Write Value)) : Record Value := writes.foldl Write.apply ∅

/-- All pairs that were written since the last start, in order. -/
def notes (writes : List (Write Value)) : List (String × Cell Value) := writes.foldl Write.note []

/-- The cell that was written last for a column. -/
def lastCell? (writes : List (Write Value)) (column : String) : Option (Cell Value) :=
  KeyMap.lastValue? (notes writes) column

theorem ofList_note (pairs : List (String × Cell Value)) (write : Write Value) :
    KeyMap.ofList (write.note pairs) = write.apply (KeyMap.ofList pairs) := by
  have hpush : ∀ column cell, KeyMap.ofList (pairs ++ [(column, cell)]) =
      (KeyMap.ofList pairs).insert column cell := by
    intro column cell
    rw [KeyMap.ofList, KeyMap.ofList, KeyMap.insertAll, List.foldl_append]
    rfl
  cases write with
  | set column cell => exact hpush column cell
  | setDefault column => exact hpush column .default
  | replace column cell => exact hpush column cell
  | collect others => rfl

/-- A record that is built by writes is the record of the pairs that were written. -/
theorem written_eq_ofList (writes : List (Write Value)) :
    written writes = KeyMap.ofList (notes writes) := by
  have hfrom : ∀ pairs : List (String × Cell Value),
      writes.foldl Write.apply (KeyMap.ofList pairs) =
        KeyMap.ofList (writes.foldl Write.note pairs) := by
    induction writes with
    | nil => intro pairs; rfl
    | cons write rest ih =>
        intro pairs
        rw [List.foldl_cons, List.foldl_cons, ← ofList_note, ih]
  exact hfrom []

/-- Under every column stands the cell that was written there last. -/
theorem get?_written (writes : List (Write Value)) (column : String) :
    (written writes).get? column = lastCell? writes column := by
  rw [written_eq_ofList, KeyMap.get?_ofList, lastCell?]

theorem mem_columns_written_iff (writes : List (Write Value)) (column : String) :
    column ∈ (written writes).columns ↔ (lastCell? writes column).isSome := by
  rw [columns, KeyMap.mem_keys_iff, get?_written]

/-- Writes that end with the same cells build the same record. -/
theorem written_eq_of_lastCell? {left right : List (Write Value)}
    (hlast : ∀ column, lastCell? left column = lastCell? right column) :
    written left = written right :=
  KeyMap.ext_get? fun column => by rw [get?_written, get?_written, hlast]

end SqlWeave.Record
