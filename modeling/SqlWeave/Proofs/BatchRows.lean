import Mathlib.Data.List.Forall2
import SqlWeave.KeyMap.Lemmas
import SqlWeave.Proofs.BuiltReadings

/-!
# Rows of an insert

The rows of a batch under the column list of the statement.  What a row gets
under a column is said by the row and the column alone, whatever the position
in which either stands.  Main statement: an insert lists the union of the
columns and gives every row one entry for each of them, in the same order.
-/

namespace SqlWeave.Query

open Reading

variable {Value : Type}

/-- The union holds the columns of every record and no others. -/
theorem mem_keys_columnUnion (records : List (Record Value)) (column : String) :
    column ∈ (columnUnion records).keys ↔ ∃ record ∈ records, column ∈ record.columns := by
  have hfold : ∀ (rest : List (Record Value)) (columns : NameSet),
      column ∈ (rest.foldl (fun columns record => columns.addNames record.columns) columns).keys ↔
        column ∈ columns.keys ∨ ∃ record ∈ rest, column ∈ record.columns := by
    intro rest
    induction rest with
    | nil => simp
    | cons record rest ih =>
        intro columns
        rw [List.foldl_cons, ih, NameSet.mem_keys_addNames, or_assoc]
        simp only [List.mem_cons, or_and_right, exists_or, exists_eq_left]
  have hempty : column ∉ KeyMap.keys (∅ : NameSet) := List.not_mem_nil
  rw [columnUnion, hfold, or_iff_right hempty]

theorem isEmpty_columnUnion_iff (records : List (Record Value)) :
    (columnUnion records).isEmpty ↔ ∀ record ∈ records, record.columns = [] := by
  simp only [KeyMap.isEmpty_iff_keys_eq_nil, List.eq_nil_iff_forall_not_mem, mem_keys_columnUnion]
  grind

theorem get?_fillDefault (record : Record Value) (column other : String) :
    (fillDefault record column).get? other =
      (record.get? other).or (if other = column then some .default else none) := by
  rw [fillDefault]
  by_cases hother : other = column
  · subst hother
    rw [if_pos rfl, KeyMap.contains]
    cases hcell : record.get? other with
    | none => exact KeyMap.get?_insert_self record other .default
    | some cell => exact hcell
  · rw [if_neg hother, Option.or_none]
    split
    · rfl
    · exact KeyMap.get?_insert_of_ne record .default hother

/-- A filled row holds what the record held, and defaults under all other columns. -/
theorem get?_fillDefaults (columns : NameSet) (record : Record Value) (column : String) :
    (fillDefaults columns record).get? column =
      (record.get? column).or (if column ∈ columns.keys then some .default else none) := by
  rw [fillDefaults]
  generalize columns.keys = names
  induction names generalizing record with
  | nil => simp
  | cons name names ih =>
      rw [List.foldl_cons, ih, get?_fillDefault, Option.or_assoc]
      by_cases hname : column = name
      · simp [hname]
      · simp [hname]

/-- A record without gaps among the columns is left as it is. -/
theorem fillDefaults_eq_self {columns : NameSet} {record : Record Value}
    (hcolumns : ∀ column ∈ columns.keys, column ∈ record.columns) :
    fillDefaults columns record = record := by
  refine KeyMap.ext_get? fun column => ?_
  rw [get?_fillDefaults]
  split
  next hmem =>
    obtain ⟨cell, hcell⟩ := (record.mem_keys_iff_exists column).1 (hcolumns column hmem)
    rw [hcell, Option.some_or]
  next => exact Option.or_none

/-- A row of a batch is filled by taking a cell or a default for every column. -/
theorem fillDefaults_eq_mapEntries {columns : NameSet} {record : Record Value}
    (hcolumns : ∀ column ∈ record.columns, column ∈ columns.keys) :
    fillDefaults columns record =
      columns.mapEntries fun column _ => (record.get? column).getD .default := by
  refine KeyMap.ext_get? fun column => ?_
  rw [get?_fillDefaults, KeyMap.get?_mapEntries]
  by_cases hmem : column ∈ columns.keys
  · obtain ⟨_, hcolumn⟩ := (columns.mem_keys_iff_exists column).1 hmem
    rw [if_pos hmem, hcolumn, Option.map_some]
    cases record.get? column <;> rfl
  · have hcell : record.get? column = none :=
      (record.get?_eq_none_iff column).2 (mt (hcolumns column) hmem)
    rw [if_neg hmem, (columns.get?_eq_none_iff column).2 hmem, hcell]
    rfl

/-- The columns of one record are their own union. -/
theorem columnUnion_singleton (record : Record Value) :
    columnUnion [record] = record.mapEntries fun _ _ => () := by
  refine NameSet.ext_mem_keys fun column => ?_
  rw [mem_keys_columnUnion, KeyMap.keys_mapEntries]
  simp [Record.columns]

/-- One row is lined up like a batch of one. -/
theorem Rows.source_one (record : Record Value) :
    (Rows.one record).source = (Rows.many [record]).source := by
  have hkeys : (columnUnion [record]).keys = record.columns := by
    rw [columnUnion_singleton, KeyMap.keys_mapEntries, Record.columns]
  have hfilled : fillDefaults (columnUnion [record]) record = record :=
    fillDefaults_eq_self fun column hmem => hkeys ▸ hmem
  have hempty : (columnUnion [record]).isEmpty = record.isEmpty := by
    rw [columnUnion_singleton, KeyMap.isEmpty_mapEntries]
  simp [source, hkeys, hfilled, hempty]

/-- Rows are lined up as a batch is. -/
theorem Rows.source_eq_source_many (rows : Rows Value) :
    rows.source = (Rows.many rows.records).source := by
  cases rows with
  | one record => exact source_one record
  | many records => rfl

/-- Tuples come from rows that are filled up to the union of their columns. -/
theorem Rows.eq_of_source_eq_tuples {rows : Rows Value} {columns : List String}
    {filled : List (Record Value)} (hsource : rows.source = .tuples columns filled) :
    columns = (columnUnion rows.records).keys ∧
      filled = rows.records.map (fillDefaults (columnUnion rows.records)) := by
  rw [source_eq_source_many] at hsource
  simp only [source] at hsource
  split at hsource
  · cases hsource
  · split at hsource
    · cases hsource
    · cases hsource
      exact ⟨rfl, rfl⟩

/-- What a filled row holds is its own or a default. -/
theorem mem_toList_fillDefaults {columns : NameSet} {record : Record Value}
    {entry : String × Cell Value} (hmem : entry ∈ (fillDefaults columns record).toList) :
    entry ∈ record.toList ∨ entry.1 ∈ columns.keys ∧ entry.2 = .default := by
  obtain ⟨column, cell⟩ := entry
  rw [KeyMap.mem_toList_iff, get?_fillDefaults, Option.or_eq_some_iff] at hmem
  obtain hcell | ⟨-, hdefault⟩ := hmem
  · exact .inl ((record.mem_toList_iff column cell).2 hcell)
  · split at hdefault
    next hcolumn =>
      cases hdefault
      exact .inr ⟨hcolumn, rfl⟩
    next => cases hdefault

/-- The rows of a batch with some column are filled up to the union of the columns. -/
theorem Rows.source_many {records : List (Record Value)}
    (hcolumns : ∃ record ∈ records, record.columns ≠ []) :
    (Rows.many records).source =
      .tuples (columnUnion records).keys (records.map (fillDefaults (columnUnion records))) := by
  obtain ⟨record, hmem, hcolumn⟩ := hcolumns
  have hrecords : records.isEmpty = false := by
    rw [List.isEmpty_eq_false_iff]
    exact List.ne_nil_of_mem hmem
  have hunion : (columnUnion records).isEmpty = false := by
    rw [← Bool.not_eq_true, isEmpty_columnUnion_iff]
    exact fun hall => hcolumn (hall record hmem)
  simp [source, hrecords, hunion]

/-- Rows without columns are only counted. -/
theorem Rows.source_many_of_columns_eq_nil {records : List (Record Value)}
    (hrecords : records ≠ []) (hcolumns : ∀ record ∈ records, record.columns = []) :
    (Rows.many records).source = .defaults records.length := by
  simp [source, hrecords, (isEmpty_columnUnion_iff records).2 hcolumns]

/-- What an insert writes for a row under a column: the row's own cell, in which the
column is current, or the keyword for the default. -/
def entryOf (scope : Scope) (column : String) (record : Record Value) : Reading Value :=
  (record.get? column).elim (literal "DEFAULT") fun cell => cell.reading (scope.withColumn column)

/-- A filled row writes one entry for every column, in the order of the columns. -/
theorem reading_valuesOf_fillDefaults (scope : Scope) {columns : NameSet}
    {record : Record Value} (hcolumns : ∀ column ∈ record.columns, column ∈ columns.keys) :
    (Node.valuesOf (fillDefaults columns record)).reading scope =
      separated ", " (columns.keys.map fun column => entryOf scope column record) := by
  have hentry : ∀ column : String,
      ((record.get? column).getD .default).reading (scope.withColumn column) =
        entryOf scope column record := by
    intro column
    cases hcell : record.get? column with
    | none => simp [entryOf, hcell, Cell.reading, Cell.pieces]
    | some cell => simp [entryOf, hcell]
  rw [Node.reading_valuesOf, fillDefaults_eq_mapEntries hcolumns, KeyMap.toList_mapEntries,
    List.map_map, KeyMap.keys, List.map_map]
  exact congrArg _ (List.map_congr_left fun entry _ => hentry entry.1)

/-- The tuples of a batch with some column, entry by entry. -/
theorem Rows.reading_source_many (scope : Scope) {records : List (Record Value)}
    (hcolumns : ∃ record ∈ records, record.columns ≠ []) :
    (Rows.many records).source.reading scope =
      literal " " ++ parenthesized (separated ", " ((columnUnion records).keys.map name)) ++
        literal " VALUES " ++ separated ", " (records.map fun record =>
          parenthesized (separated ", " ((columnUnion records).keys.map fun column =>
            entryOf scope column record))) := by
  have hentries : ∀ record ∈ records,
      (Node.valuesOf (fillDefaults (columnUnion records) record)).reading scope =
        separated ", " ((columnUnion records).keys.map fun column =>
          entryOf scope column record) :=
    fun record hmem => reading_valuesOf_fillDefaults scope fun column hcolumn =>
      (mem_keys_columnUnion records column).2 ⟨record, hmem, hcolumn⟩
  have htuples : (records.map fun record =>
      parenthesized ((Node.valuesOf (fillDefaults (columnUnion records) record)).reading scope)) =
        records.map fun record => parenthesized (separated ", "
          ((columnUnion records).keys.map fun column => entryOf scope column record)) :=
    List.map_congr_left fun record hmem => congrArg parenthesized (hentries record hmem)
  rw [Rows.source_many hcolumns, TupleSource.reading, List.map_map, ← htuples]
  rfl

/-- A record in which cells that are missing under some columns are spelled out as defaults. -/
def SpellsDefaults (columns : List String) (record spelled : Record Value) : Prop :=
  ∀ column, spelled.get? column = record.get? column ∨
    column ∈ columns ∧ record.get? column = none ∧ spelled.get? column = some .default

theorem spellsDefaults_setDefault {columns : List String} {record : Record Value}
    {column : String} (hmem : column ∈ columns) (hmissing : record.get? column = none) :
    SpellsDefaults columns record (record.setDefault column) := by
  intro other
  by_cases hother : other = column
  · subst hother
    exact .inr ⟨hmem, hmissing, KeyMap.get?_insert_self record other .default⟩
  · exact .inl (KeyMap.get?_insert_of_ne record .default hother)

/-- Gaps are filled alike, whether or not some of them were spelled out before. -/
theorem fillDefaults_eq_of_spellsDefaults {columns : NameSet} {record spelled : Record Value}
    (hspelled : SpellsDefaults columns.keys record spelled) :
    fillDefaults columns spelled = fillDefaults columns record := by
  refine KeyMap.ext_get? fun column => ?_
  rw [get?_fillDefaults, get?_fillDefaults]
  rcases hspelled column with hsame | ⟨hcolumn, hmissing, hdefault⟩
  · rw [hsame]
  · rw [hmissing, hdefault, if_pos hcolumn]
    rfl

/-- Filling spells out defaults and does nothing else. -/
theorem spellsDefaults_fillDefaults (columns : NameSet) (record : Record Value) :
    SpellsDefaults columns.keys record (fillDefaults columns record) := by
  intro column
  rw [get?_fillDefaults]
  cases hcell : record.get? column with
  | none =>
      split
      next hcolumn => exact .inr ⟨hcolumn, rfl, rfl⟩
      next => exact .inl rfl
  | some cell => exact .inl rfl

/-- Defaults that are spelled out keep all columns and add some of the given ones at most. -/
theorem mem_columns_of_spellsDefaults {among : List String} {record spelled : Record Value}
    (hspelled : SpellsDefaults among record spelled) (column : String) :
    (column ∈ record.columns → column ∈ spelled.columns) ∧
      (column ∈ spelled.columns → column ∈ record.columns ∨ column ∈ among) := by
  rw [Record.columns, Record.columns, KeyMap.mem_keys_iff, KeyMap.mem_keys_iff]
  rcases hspelled column with hsame | ⟨hmem, -, hdefault⟩
  · rw [hsame]
    exact ⟨id, .inl⟩
  · rw [hdefault]
    exact ⟨fun _ => rfl, fun _ => .inr hmem⟩

theorem exists_mem_columns_of_spellsDefaults {among : List String}
    {records spelled : List (Record Value)}
    (hspelled : List.Forall₂ (SpellsDefaults among) records spelled) (column : String) :
    ((∃ record ∈ records, column ∈ record.columns) →
      ∃ record ∈ spelled, column ∈ record.columns) ∧
    ((∃ record ∈ spelled, column ∈ record.columns) →
      (∃ record ∈ records, column ∈ record.columns) ∨ column ∈ among) := by
  induction hspelled with
  | nil => simp
  | cons hfirst _ ih =>
      obtain ⟨hkept, hadded⟩ := mem_columns_of_spellsDefaults hfirst column
      simp only [List.mem_cons, or_and_right, exists_or, exists_eq_left]
      refine ⟨Or.imp hkept ih.1, ?_⟩
      rintro (hcolumn | hcolumn)
      · exact (hadded hcolumn).imp_left .inl
      · exact (ih.2 hcolumn).imp_left .inr

/-- Defaults that are spelled out under columns of the union add none to it. -/
theorem columnUnion_eq_of_spellsDefaults {records spelled : List (Record Value)}
    (hspelled : List.Forall₂ (SpellsDefaults (columnUnion records).keys) records spelled) :
    columnUnion spelled = columnUnion records := by
  refine NameSet.ext_mem_keys fun column => ?_
  obtain ⟨hkept, hadded⟩ := exists_mem_columns_of_spellsDefaults hspelled column
  rw [mem_keys_columnUnion records] at hadded
  rw [mem_keys_columnUnion, mem_keys_columnUnion]
  exact ⟨fun hmem => (hadded hmem).elim id id, hkept⟩

theorem map_fillDefaults_eq_of_spellsDefaults {columns : NameSet}
    {records spelled : List (Record Value)}
    (hspelled : List.Forall₂ (SpellsDefaults columns.keys) records spelled) :
    spelled.map (fillDefaults columns) = records.map (fillDefaults columns) := by
  induction hspelled with
  | nil => rfl
  | cons hfirst _ ih =>
      rw [List.map_cons, List.map_cons, fillDefaults_eq_of_spellsDefaults hfirst, ih]

/-- Whether missing cells are spelled out as defaults makes no difference to an insert. -/
theorem insert_eq_of_spellsDefaults (table : String) {records spelled : List (Record Value)}
    (hspelled : List.Forall₂ (SpellsDefaults (columnUnion records).keys) records spelled) :
    insert table (.many spelled) = insert table (.many records) := by
  have hunion := columnUnion_eq_of_spellsDefaults hspelled
  have hfilled : spelled.map (fillDefaults (columnUnion records)) =
      records.map (fillDefaults (columnUnion records)) :=
    map_fillDefaults_eq_of_spellsDefaults hspelled
  have hempty : spelled.isEmpty = records.isEmpty := by
    cases hspelled <;> rfl
  have hsource : (Rows.many spelled).source = (Rows.many records).source := by
    simp only [Rows.source, hunion, hfilled, hspelled.length_eq, hempty]
  rw [insert, insert, hsource]
  rfl

/-- One row is inserted like a batch of one. -/
theorem insert_one (table : String) (record : Record Value) :
    insert table (.one record) = (insert table (.many [record])).withShape .first := by
  rw [insert, insert, Rows.source_one]
  cases hsource : (Rows.many [record]).source with
  | nothing => cases Rows.source_eq_nothing_iff.1 hsource
  | defaults count | tuples columns filled => rfl

/-- What an insert writes into a table comes from its rows alone.

For a batch with some column, the column list is the ascending union of the
records' columns, and there is one tuple for every record, in batch order, with
one entry for every column, in the order of the list: the record's own cell, in
which the column is current, or the keyword for the default if it has none.
The values are bound in the order of these entries.  Cells that are missing may
as well be spelled out as defaults, and the rows may as well be filled before.
A single row is inserted like a batch of one.  Without a column there is only
the number of rows, and without a row there is nothing to insert. -/
theorem insert_lines_rows_up (table : String) :
    (∀ records : List (Record Value), (∃ record ∈ records, record.columns ≠ []) →
      let columns := (columnUnion records).keys
      columns.Pairwise (· < ·) ∧
      (∀ column, column ∈ columns ↔ ∃ record ∈ records, column ∈ record.columns) ∧
      ∀ scope,
        let tuples := records.map fun record =>
          columns.map fun column => entryOf scope column record
        let written := literal "INSERT INTO " ++ name table ++
          literal " " ++ parenthesized (separated ", " (columns.map name)) ++
          literal " VALUES " ++ separated ", " (tuples.map fun entries =>
            parenthesized (separated ", " entries)) ++
          literal " RETURNING to_jsonb(" ++ name table ++ literal ".*) AS result"
        ((insert table (.many records)).weave scope).Writes written ∧
        written.values = tuples.flatten.flatMap values) ∧
    (∀ records spelled : List (Record Value),
      List.Forall₂ (SpellsDefaults (columnUnion records).keys) records spelled →
      insert table (.many spelled) = insert table (.many records)) ∧
    (∀ records : List (Record Value),
      insert table (.many (records.map (fillDefaults (columnUnion records)))) =
        insert table (.many records)) ∧
    (∀ record : Record Value,
      insert table (.one record) = (insert table (.many [record])).withShape .first) ∧
    (∀ records : List (Record Value), records ≠ [] →
      (∀ record ∈ records, record.columns = []) → ∀ scope,
      ((insert table (.many records)).weave scope).Writes
        (literal "INSERT INTO " ++ name table ++
          literal (if records.length = 1 then " DEFAULT VALUES"
            else " SELECT FROM generate_series(1, " ++ toString records.length ++ ")") ++
          literal " RETURNING to_jsonb(" ++ name table ++ literal ".*) AS result")) ∧
    (∀ scope, ((insert table (.many ([] : List (Record Value)))).weave scope).Writes
      (literal "SELECT NULL::jsonb AS result WHERE false")) := by
  have hreturned : ∀ (scope : Scope) (records : List (Record Value)), records ≠ [] →
      (insert table (.many records)).reading scope =
        literal "INSERT INTO " ++ name table ++ (Rows.many records).source.reading scope ++
          literal " RETURNING to_jsonb(" ++ name table ++ literal ".*) AS result" := by
    intro scope records hrecords
    rw [reading_insert scope table (.many records) hrecords]
    simp [parenthesized, append_assoc, literal_append_literal_append, literal_append_literal]
  refine ⟨?_, fun _ _ => insert_eq_of_spellsDefaults table, ?_, insert_one table, ?_, ?_⟩
  · intro records hcolumns columns
    refine ⟨KeyMap.pairwise_keys _, mem_keys_columnUnion records, ?_⟩
    intro scope tuples written
    obtain ⟨record, hmem, -⟩ := id hcolumns
    have hreading : (insert table (.many records)).reading scope = written := by
      rw [hreturned scope records (List.ne_nil_of_mem hmem), Rows.reading_source_many scope hcolumns]
      simp [written, tuples, columns, append_assoc, Function.comp_def]
    refine ⟨hreading ▸ Fragment.writes_weave scope _, ?_⟩
    rw [← List.flatMap_id, List.flatMap_assoc]
    simp [written, values_separated, List.flatMap_map]
  · intro records
    refine insert_eq_of_spellsDefaults table (List.forall₂_map_right_iff.2 ?_)
    exact List.forall₂_same.2 fun record _ => spellsDefaults_fillDefaults _ record
  · intro records hrecords hcolumns scope
    have hsource : (Rows.many records).source.reading scope =
        literal (if records.length = 1 then " DEFAULT VALUES"
          else " SELECT FROM generate_series(1, " ++ toString records.length ++ ")") := by
      rw [Rows.source_many_of_columns_eq_nil hrecords hcolumns]
      split
      · simp [TupleSource.reading, *]
      · simp [TupleSource.reading, *, parenthesized, literal_append_literal, ← String.append_assoc]
    rw [← hsource, ← hreturned scope records hrecords]
    exact Fragment.writes_weave scope _
  · intro scope
    rw [← reading_nothingInserted scope]
    exact Fragment.writes_weave scope _

/-- A name, an age that is counted up, and nothing. -/
def threeRecords : List (Record Nat) :=
  [KeyMap.ofList [("name", .value 7)],
    KeyMap.ofList [("age", .sql ((Fragment.empty.pushSelf.push " + ").pushBind 8))], ∅]

/-- The same with the age of the first and the name of the last record spelled out. -/
def threeRecordsSpelledOut : List (Record Nat) :=
  [Record.setDefault (KeyMap.ofList [("name", .value 7)]) "age",
    KeyMap.ofList [("age", .sql ((Fragment.empty.pushSelf.push " + ").pushBind 8))],
    Record.setDefault ∅ "name"]

theorem insert_lines_rows_up_of_three_records :
    (insert "users" (.many threeRecords)).compile =
      .ok { text := "INSERT INTO \"users\" (\"age\", \"name\") VALUES (DEFAULT, $1), " ++
              "(\"age\" + $2, DEFAULT), (DEFAULT, DEFAULT) " ++
              "RETURNING to_jsonb(\"users\".*) AS result",
            params := #[7, 8] } ∧
    insert "users" (.many threeRecordsSpelledOut) = insert "users" (.many threeRecords) ∧
    ((insert "users" (.many ([∅] : List (Record Nat)))).weave Scope.root).Writes
      (literal "INSERT INTO " ++ name "users" ++ literal " DEFAULT VALUES" ++
        literal " RETURNING to_jsonb(" ++ name "users" ++ literal ".*) AS result") := by
  obtain ⟨hbatch, hspelled, -, -, hcounted, -⟩ := @insert_lines_rows_up Nat "users"
  refine ⟨?_, hspelled _ _ ?_, hcounted [∅] (by decide) (by decide) Scope.root⟩
  · obtain ⟨-, -, hwrites⟩ := hbatch threeRecords (by decide)
    rw [Fragment.compile_of_writes (hwrites Scope.root).1 (by decide)]
    exact congrArg Except.ok (by decide +kernel)
  · exact .cons (spellsDefaults_setDefault (by decide) rfl)
      (.cons (fun _ => .inl rfl) (.cons (spellsDefaults_setDefault (by decide) rfl) .nil))

end SqlWeave.Query
