import SqlWeave.Proofs.ByteOrder
import SqlWeave.Proofs.RecordWrites

/-!
# Records as finite maps

A record is a table of the cells that its writes left behind, in the order of the
bytes of the columns.  Main statement: there is one such table for every sequence
of writes, whatever is asked of the record is answered from it, and a cell that is
replaced is handed back as the table had it.
-/

namespace SqlWeave.Record

open Text

variable {Value : Type}

/-- The cell was written for the column since the last start, and none after it. -/
def WrittenLast (writes : List (Write Value)) (column : String) (cell : Cell Value) : Prop :=
  ∃ front back, notes writes = front ++ (column, cell) :: back ∧ ∀ pair ∈ back, pair.1 ≠ column

/-- No cell was written for the column since the last start. -/
def Unwritten (writes : List (Write Value)) (column : String) : Prop :=
  ∀ pair ∈ notes writes, pair.1 ≠ column

theorem get?_written_eq_some_iff (writes : List (Write Value)) (column : String)
    (cell : Cell Value) :
    (written writes).get? column = some cell ↔ WrittenLast writes column cell := by
  rw [get?_written, lastCell?, KeyMap.lastValue?_eq_some_iff, WrittenLast]

theorem get?_written_eq_none_iff (writes : List (Write Value)) (column : String) :
    (written writes).get? column = none ↔ Unwritten writes column := by
  rw [get?_written, lastCell?, KeyMap.lastValue?_eq_none_iff, Unwritten]

/-- The pairs are what the writes left behind, in ascending order of the bytes of the
columns. -/
structure Tabulates (pairs : List (String × Cell Value)) (writes : List (Write Value)) :
    Prop where
  ascending : pairs.Pairwise fun before after => utf8Bytes before.1 < utf8Bytes after.1
  mem_iff : ∀ column cell, (column, cell) ∈ pairs ↔ WrittenLast writes column cell

/-- Whatever is asked of the record is answered from the pairs. -/
structure Shows (record : Record Value) (pairs : List (String × Cell Value)) : Prop where
  toList : record.toList = pairs
  columns : record.columns = pairs.map Prod.fst
  columnsOf : Node.columnsOf record = .columns (pairs.map Prod.fst)
  size : record.size = pairs.length
  isEmpty_iff : record.isEmpty ↔ pairs = []
  contains_iff : ∀ column, record.contains column ↔ column ∈ pairs.map Prod.fst
  get?_eq_some_iff : ∀ column cell, record.get? column = some cell ↔ (column, cell) ∈ pairs

theorem shows_toList (record : Record Value) : Shows record record.toList where
  toList := rfl
  columns := rfl
  columnsOf := rfl
  size := rfl
  isEmpty_iff := List.isEmpty_iff
  contains_iff := KeyMap.contains_iff_mem_keys record
  get?_eq_some_iff column cell := (KeyMap.mem_toList_iff record column cell).symm

theorem tabulates_toList (writes : List (Write Value)) :
    Tabulates (written writes).toList writes where
  ascending := (written writes).ascending.imp fun hless => (utf8Bytes_lt_utf8Bytes_iff _ _).2 hless
  mem_iff column cell := by rw [KeyMap.mem_toList_iff, get?_written_eq_some_iff]

/-- There is no other table of the same writes. -/
theorem Tabulates.eq_toList {pairs : List (String × Cell Value)} {writes : List (Write Value)}
    (htable : Tabulates pairs writes) : pairs = (written writes).toList := by
  let table : Record Value :=
    ⟨pairs, htable.ascending.imp fun hbytes => (utf8Bytes_lt_utf8Bytes_iff _ _).1 hbytes⟩
  have hrecord : table = written writes := by
    refine KeyMap.ext_get? fun column => Option.ext fun cell => ?_
    rw [get?_written_eq_some_iff, ← htable.mem_iff]
    exact (KeyMap.mem_toList_iff table column cell).symm
  exact congrArg KeyMap.toList hrecord

theorem written_concat (writes : List (Write Value)) (write : Write Value) :
    written (writes ++ [write]) = write.apply (written writes) :=
  List.foldl_concat Write.apply ∅ write writes

/-- A record is the finite map of the cells that were written last.

Its table is determined by the writes alone: strictly ascending in the bytes of the
columns, with the last cell that was written for each of them since the record was last
started, and with nothing else.  All views of the record show this table.  A replacement
hands back the cell that was found before, and changes nothing under other columns; and
different columns can be set in either order. -/
theorem written_is_finite_map_of_last_cells (writes : List (Write Value)) :
    let record := written writes
    (∃! pairs, Tabulates pairs writes) ∧
    (∀ pairs, Tabulates pairs writes → Shows record pairs) ∧
    (record.columns.map utf8Bytes).Pairwise (· < ·) ∧
    record.columns.Nodup ∧
    (∀ column cell, record.get? column = some cell ↔ WrittenLast writes column cell) ∧
    (∀ column, record.get? column = none ↔ Unwritten writes column) ∧
    (∀ column cell,
      let replaced := record.replace column cell
      replaced.1 = record.get? column ∧
      (∀ old, replaced.1 = some old ↔ WrittenLast writes column old) ∧
      replaced.2 = written (writes ++ [.replace column cell]) ∧
      replaced.2.get? column = some cell ∧
      ∀ other, other ≠ column → replaced.2.get? other = record.get? other) ∧
    ∀ column other cell otherCell, column ≠ other →
      (record.set column cell).set other otherCell =
        (record.set other otherCell).set column cell := by
  intro record
  refine ⟨⟨record.toList, tabulates_toList writes, fun pairs htable => htable.eq_toList⟩,
    ?_, ?_, KeyMap.nodup_keys record, get?_written_eq_some_iff writes,
    get?_written_eq_none_iff writes, ?_, ?_⟩
  · intro pairs htable
    rw [htable.eq_toList]
    exact shows_toList record
  · rw [columns, KeyMap.keys, List.map_map]
    exact List.pairwise_map.2 (tabulates_toList writes).ascending
  · intro column cell
    refine ⟨rfl, get?_written_eq_some_iff writes column,
      (written_concat writes (.replace column cell)).symm,
      KeyMap.get?_insert_self record column cell, fun other hne => ?_⟩
    exact KeyMap.get?_insert_of_ne record cell hne
  · intro column other cell otherCell hne
    exact KeyMap.insert_comm record hne cell otherCell

/-- Writes before and after a start; the last two columns would change places in UTF-16. -/
theorem written_is_finite_map_of_last_cells_of_four_columns :
    let writes : List (Write Nat) :=
      [.set "lost" (.value 0),
        .collect [("b", .value 1), ("😀", .value 2), ("b", .value 3), ("\uffff", .default)],
        .replace "\uffff" (.value 4), .setDefault "é"]
    let pairs : List (String × Cell Nat) :=
      [("b", .value 3), ("é", .default), ("\uffff", .value 4), ("😀", .value 2)]
    Tabulates pairs writes ∧
    Shows (written writes) pairs ∧
    "é" ≠ "b" ∧
    ((written writes).set "é" (.value 5)).set "b" .default =
      ((written writes).set "b" .default).set "é" (.value 5) ∧
    "b" ≠ "é" ∧
    ((written writes).replace "é" (.value 6)).2.get? "b" = some (.value 3) := by
  intro writes pairs
  have hentries : (written writes).toList = pairs := rfl
  have htable : Tabulates pairs writes := hentries ▸ tabulates_toList writes
  have hne : "é" ≠ "b" := by decide
  obtain ⟨-, hshows, -, -, -, -, hreplace, hset⟩ := written_is_finite_map_of_last_cells writes
  refine ⟨htable, hshows pairs htable, hne, hset "é" "b" (.value 5) .default hne, hne.symm, ?_⟩
  obtain ⟨-, -, -, -, hothers⟩ := hreplace "é" (.value 6)
  exact (hothers "b" hne.symm).trans rfl

end SqlWeave.Record
