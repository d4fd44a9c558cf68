import Mathlib.Data.List.Nodup
import SqlWeave.Proofs.BatchRows

/-!
# The conflict clause of an upsert

Which columns an upsert names as its key, which ones it updates on a conflict,
and what it assigns to each of them.  The clause stands between the two halves
of an insert and binds nothing.  Main statement: an upsert goes on where an
insert of the same rows returns, and its lists of columns and of assigned values
line up.
-/

namespace SqlWeave.Query

open Reading

variable {Value : Type}

section Columns

variable (inserted : List String) (unique : NameSet)

/-- An updated column is an inserted one outside the key, unless there is none of them. -/
theorem updatedColumns_eq_ite :
    updatedColumns inserted unique =
      if ∀ column ∈ inserted, column ∈ unique.keys then unique.keys
      else inserted.filter (· ∉ unique.keys) := by
  have houtside : (inserted.filter fun column => !unique.contains column) =
      inserted.filter (· ∉ unique.keys) := by
    refine List.filter_congr fun column _ => ?_
    rw [Bool.eq_iff_iff, Bool.not_eq_true', Bool.eq_false_iff, ne_eq,
      KeyMap.contains_iff_mem_keys, decide_eq_true_iff]
  have hnone : inserted.filter (· ∉ unique.keys) = [] ↔
      ∀ column ∈ inserted, column ∈ unique.keys := by
    simp [List.filter_eq_nil_iff]
  rw [updatedColumns, houtside]
  split
  next hnil => rw [if_pos (hnone.1 hnil)]
  next hsome => rw [if_neg fun hall => hsome (hnone.2 hall)]

variable {inserted}

/-- Each column is updated once, in the order of the column list. -/
theorem pairwise_updatedColumns (hinserted : inserted.Pairwise (· < ·)) :
    (updatedColumns inserted unique).Pairwise (· < ·) := by
  rw [updatedColumns_eq_ite]
  split
  · exact KeyMap.pairwise_keys unique
  · exact hinserted.filter _

/-- Something is updated unless nothing is inserted and there is no key. -/
theorem updatedColumns_eq_nil_iff :
    updatedColumns inserted unique = [] ↔ inserted = [] ∧ unique.keys = [] := by
  rw [updatedColumns_eq_ite]
  split
  next hall =>
    refine ⟨fun hkeys => ⟨?_, hkeys⟩, And.right⟩
    rw [hkeys] at hall
    exact List.eq_nil_iff_forall_not_mem.2 fun column hcolumn =>
      List.not_mem_nil (hall column hcolumn)
  next hsome =>
    constructor
    · intro hnil
      simp only [List.filter_eq_nil_iff, decide_eq_true_eq, not_not] at hnil
      exact absurd hnil hsome
    · rintro ⟨rfl, -⟩
      rfl

end Columns

/-- What it means that the columns of a conflict clause are those that it needs. -/
structure ConflictColumns (rows : Rows Value) (uniqueColumns inserted key updated : List String) :
    Prop where
  inserted_ascend : inserted.Pairwise (· < ·)
  mem_inserted_iff : ∀ column, column ∈ inserted ↔ ∃ record ∈ rows.records, column ∈ record.columns
  key_ascends : key.Pairwise (· < ·)
  mem_key_iff : ∀ column, column ∈ key ↔ column ∈ uniqueColumns
  updated_ascend : updated.Pairwise (· < ·)
  /-- The key itself is updated if nothing else is inserted. -/
  updated_eq : updated =
    if ∀ column ∈ inserted, column ∈ uniqueColumns then key
    else inserted.filter (· ∉ uniqueColumns)
  updated_once : ∀ column ∈ inserted, column ∉ uniqueColumns → updated.count column = 1
  key_updated : ∀ column ∈ updated, column ∈ uniqueColumns →
    ∀ other ∈ inserted, other ∈ uniqueColumns
  updated_eq_nil_iff : updated = [] ↔ inserted = [] ∧ uniqueColumns = []

theorem conflictColumns_updatedColumns (rows : Rows Value) (uniqueColumns : List String) :
    ConflictColumns rows uniqueColumns (columnUnion rows.records).keys
      (NameSet.ofNames uniqueColumns).keys
      (updatedColumns (columnUnion rows.records).keys (NameSet.ofNames uniqueColumns)) := by
  have hascend : (columnUnion rows.records).keys.Pairwise (· < ·) := KeyMap.pairwise_keys _
  have hupdated : updatedColumns (columnUnion rows.records).keys (NameSet.ofNames uniqueColumns) =
      if ∀ column ∈ (columnUnion rows.records).keys, column ∈ uniqueColumns then
        (NameSet.ofNames uniqueColumns).keys
      else (columnUnion rows.records).keys.filter (· ∉ uniqueColumns) := by
    simp only [updatedColumns_eq_ite, NameSet.mem_keys_ofNames]
  have hkey : (NameSet.ofNames uniqueColumns).keys = [] ↔ uniqueColumns = [] := by
    simp only [List.eq_nil_iff_forall_not_mem, NameSet.mem_keys_ofNames]
  refine ⟨hascend, mem_keys_columnUnion rows.records, KeyMap.pairwise_keys _,
    NameSet.mem_keys_ofNames uniqueColumns, pairwise_updatedColumns _ hascend, hupdated, ?_, ?_, ?_⟩
  · intro column hinserted houtside
    have hmem : column ∈ updatedColumns (columnUnion rows.records).keys
        (NameSet.ofNames uniqueColumns) := by
      rw [hupdated, if_neg fun hall => houtside (hall column hinserted), List.mem_filter]
      exact ⟨hinserted, by simpa using houtside⟩
    exact List.count_eq_one_of_mem
      (KeyMap.nodup_of_pairwise_lt (pairwise_updatedColumns _ hascend)) hmem
  · intro column hmem hunique
    rw [hupdated] at hmem
    split at hmem
    next hall => exact hall
    next => simp [hunique] at hmem
  · rw [updatedColumns_eq_nil_iff, hkey]

/-- The incoming value of a column. -/
def readingOfIncoming (column : String) : Reading Value := literal "EXCLUDED." ++ name column

/-- The stored value of a column where the incoming one is null, else the incoming one. -/
def readingOfIncomingUnlessNull (table column : String) : Reading Value :=
  literal "CASE WHEN " ++ readingOfIncoming column ++ literal " IS NULL THEN " ++
    (name table ++ literal "." ++ name column) ++ literal " ELSE " ++ readingOfIncoming column ++
    literal " END"

/-- What a conflict assigns to a column. -/
def readingOfAssigned (table : String) (noNull : List String) (column : String) : Reading Value :=
  if column ∈ noNull then readingOfIncomingUnlessNull table column else readingOfIncoming column

/-- A protected column is not assigned as others are. -/
theorem readingOfIncomingUnlessNull_ne (Value : Type) (table column : String) :
    (readingOfIncomingUnlessNull table column : Reading Value) ≠ readingOfIncoming column := by
  intro heq
  -- the two texts differ in their first letter
  have hfirst := congrArg (fun reading => (reading.text 0).toList.head?) heq
  simp [readingOfIncomingUnlessNull, readingOfIncoming] at hfirst

theorem sites_readingOfAssigned (table : String) (noNull : List String) (column : String) :
    (readingOfAssigned table noNull column : Reading Value).sites = [] := by
  rw [readingOfAssigned]
  split <;> simp [readingOfIncomingUnlessNull, readingOfIncoming]

theorem reading_updatedValue_eq (scope : Scope) (table : String) (noNull : List String)
    (column : String) :
    (updatedValue table noNull column : Node Value).reading scope =
      readingOfAssigned table noNull column := by
  rw [reading_updatedValue, readingOfAssigned]
  simp [readingOfIncomingUnlessNull, readingOfIncoming, append_assoc,
    literal_append_literal_append]

theorem Rows.records_ne_nil {rows : Rows Value} (hrows : rows ≠ .many []) : rows.records ≠ [] := by
  cases rows with
  | one record => exact List.cons_ne_nil record []
  | many records =>
      rintro rfl
      exact hrows rfl

/-- The columns that receive a value are those of the records. -/
theorem Rows.columns_source (rows : Rows Value) :
    rows.source.columns = (columnUnion rows.records).keys := by
  rw [source_eq_source_many, source]
  split
  next hrecords =>
    rw [List.isEmpty_iff.1 hrecords]
    rfl
  next =>
    split
    next hcolumns => exact ((KeyMap.isEmpty_iff_keys_eq_nil _).1 hcolumns).symm
    next => rfl

/-- The column list of an insert names the columns of the records. -/
theorem Rows.exists_reading_source (scope : Scope) {rows : Rows Value}
    (hcolumns : (columnUnion rows.records).keys ≠ []) :
    ∃ tuples, rows.source.reading scope =
      literal " " ++ parenthesized (separated ", " ((columnUnion rows.records).keys.map name)) ++
        literal " VALUES " ++ tuples := by
  have hsome : ∃ record ∈ rows.records, record.columns ≠ [] := by
    rw [ne_eq, ← KeyMap.isEmpty_iff_keys_eq_nil, isEmpty_columnUnion_iff] at hcolumns
    simpa using hcolumns
  rw [source_eq_source_many]
  exact ⟨_, reading_source_many scope hsome⟩

/-- An upsert updates on a conflict what its insert would have written, and
nothing else.  It is an insert of the same rows up to the place where that would
return, with the same values bound and the same faults.  There it names its key,
the updated columns, and for each of these in the same order what the row at
that place gets: the incoming value, or for a protected column the stored one
if the incoming one is null. -/
theorem upsert_aligns_conflict_clause (table : String) {rows : Rows Value}
    (hrows : rows ≠ .many []) (uniqueColumns noNull : List String) :
    let inserted := (columnUnion rows.records).keys
    let key := (NameSet.ofNames uniqueColumns).keys
    let updated := updatedColumns inserted (NameSet.ofNames uniqueColumns)
    ConflictColumns rows uniqueColumns inserted key updated ∧
    (∀ column : String,
      ((readingOfAssigned table noNull column : Reading Value) =
        readingOfIncomingUnlessNull table column ↔ column ∈ noNull) ∧
      ((readingOfAssigned table noNull column : Reading Value) =
        readingOfIncoming column ↔ column ∉ noNull)) ∧
    ∀ scope,
      let front := literal "INSERT INTO " ++ name table ++ rows.source.reading scope
      let conflict : Reading Value :=
        literal " ON CONFLICT " ++ parenthesized (separated ", " (key.map name)) ++
          literal " DO UPDATE SET " ++ parenthesized (separated ", " (updated.map name)) ++
          literal " = ROW" ++
          parenthesized (separated ", " (updated.map (readingOfAssigned table noNull)))
      let returning := front ++ literal " RETURNING to_jsonb(" ++ name table ++ literal ".*)" ++
        literal " AS result"
      let updating := front ++ conflict ++ literal " RETURNING to_jsonb(" ++ name table ++
        literal ".*)" ++ literal (" || jsonb_build_object('$action', " ++
          "CASE xmax WHEN 0 THEN 'INSERT' ELSE 'UPDATE' END) AS result")
      (inserted ≠ [] → ∃ tuples, front = literal "INSERT INTO " ++ name table ++ literal " " ++
        parenthesized (separated ", " (inserted.map name)) ++ literal " VALUES " ++ tuples) ∧
      ((insert table rows).weave scope).Writes returning ∧
      ((upsert table rows uniqueColumns noNull).weave scope).Writes updating ∧
      updating.values = returning.values ∧ updating.fault? = returning.fault? := by
  intro inserted key updated
  have hrecords := Rows.records_ne_nil hrows
  refine ⟨conflictColumns_updatedColumns rows uniqueColumns, fun column => ?_, ?_⟩
  · have hne := readingOfIncomingUnlessNull_ne Value table column
    rw [readingOfAssigned]
    split
    next hmem => simp [hmem, hne]
    next hmem => simp [hmem, hne.symm]
  · intro scope front conflict returning updating
    have hsites : updating.sites = returning.sites := by
      simp [updating, returning, conflict, sites_separated, List.flatMap_map,
        sites_readingOfAssigned]
    have hinsert : (insert table rows).reading scope = returning := by
      rw [reading_insert scope table rows hrecords]
      simp [returning, front, parenthesized, append_assoc, literal_append_literal_append,
        literal_append_literal]
    have hupsert : (upsert table rows uniqueColumns noNull).reading scope = updating := by
      rw [reading_upsert scope table rows uniqueColumns noNull hrecords]
      simp [updating, conflict, front, key, updated, inserted, parenthesized, append_assoc,
        literal_append_literal_append, literal_append_literal, reading_updatedValue_eq,
        Rows.columns_source]
    refine ⟨?_, hinsert ▸ Fragment.writes_weave scope _, hupsert ▸ Fragment.writes_weave scope _,
      ?_, ?_⟩
    · intro hcolumns
      obtain ⟨tuples, htuples⟩ := Rows.exists_reading_source scope hcolumns
      exact ⟨tuples, by simp only [front, htuples, inserted, append_assoc]⟩
    · rw [values, hsites, values]
    · rw [fault?, hsites, fault?]

/-- Two users under one key that is given twice; the key and the names are protected. -/
def twoUsers : Rows Nat :=
  .many [KeyMap.ofList [("id", .value 1), ("name", .value 2)],
    KeyMap.ofList [("note", .value 4), ("id", .value 3)]]

theorem upsert_aligns_conflict_clause_of_users :
    twoUsers ≠ .many [] ∧
    (upsert "users" twoUsers ["id", "id"] ["name", "id"]).compile =
      .ok { text := "INSERT INTO \"users\" (\"id\", \"name\", \"note\") " ++
              "VALUES ($1, $2, DEFAULT), ($3, DEFAULT, $4) " ++
              "ON CONFLICT (\"id\") DO UPDATE SET (\"name\", \"note\") = " ++
              "ROW(CASE WHEN EXCLUDED.\"name\" IS NULL THEN \"users\".\"name\" " ++
              "ELSE EXCLUDED.\"name\" END, EXCLUDED.\"note\") " ++
              "RETURNING to_jsonb(\"users\".*) || jsonb_build_object('$action', " ++
              "CASE xmax WHEN 0 THEN 'INSERT' ELSE 'UPDATE' END) AS result",
            params := #[1, 2, 3, 4] } ∧
    ["name", "note"].count "name" = 1 := by
  have hrows : twoUsers ≠ .many [] := nofun
  obtain ⟨hcolumns, -, hclauses⟩ :=
    upsert_aligns_conflict_clause "users" hrows ["id", "id"] ["name", "id"]
  obtain ⟨-, -, hupsert, -⟩ := hclauses Scope.root
  refine ⟨hrows, ?_, hcolumns.updated_once "name" (by decide) (by decide)⟩
  rw [Fragment.compile_of_writes hupsert (by decide)]
  exact congrArg Except.ok (by decide +kernel)

end SqlWeave.Query
