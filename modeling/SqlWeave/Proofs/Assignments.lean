import SqlWeave.KeyMap.Lemmas
import SqlWeave.Proofs.BuiltReadings
import SqlWeave.Proofs.ScopedPieces

/-!
# Assignments and conditions

What an update writes into which column, and which rows it and a delete touch.
Main statement: an update lists the columns of its values once as names and once
as cells, in one order and each cell under its own column, and its condition is
the caller's, which stands under none of these columns.
-/

namespace SqlWeave

open Reading

variable {Value : Type}

/-- What a cell that is assigned to a column comes down to: each self reference that it
leaves open names the column. -/
def Cell.assigned (scope : Scope) (column : String) (cell : Cell Value) : Reading Value :=
  Piece.read ((cell.pieces scope.withoutColumn).map (Piece.naming column))

/-- What the comparison of a column with a cell comes down to. -/
def Cell.compared (scope : Scope) (column : String) : Cell Value → Reading Value
  | .value bound => name column ++ literal " = " ++ (Site.bound bound).reading
  | .default => (Site.comparedDefault column).reading
  | .parentColumn referenced =>
    name column ++ literal " = " ++ (Site.enclosing scope.parent referenced).reading
  | .sql body =>
    parenthesized (Piece.read ((body.pieces scope.withoutColumn).map (Piece.naming column)))

theorem Cell.reading_withColumn (scope : Scope) (column : String) (cell : Cell Value) :
    cell.reading (scope.withColumn column) = cell.assigned scope column := by
  rw [reading, assigned, pieces_withColumn]

theorem Cell.conditionReading_withColumn (scope : Scope) (column : String) (cell : Cell Value) :
    cell.conditionReading (scope.withColumn column) column = cell.compared scope column := by
  cases cell with
  | value value => rw [conditionReading_value, compared]
  | default => rw [conditionReading_default, compared]
  | parentColumn referenced => rw [conditionReading_parentColumn, compared, Scope.withColumn]
  | sql body =>
      rw [conditionReading_sql, compared, Fragment.reading, Fragment.pieces_withColumn]

/-- A row reads like its cells, each under its own column. -/
theorem Node.reading_valuesOf_eq_assigned (scope : Scope) (record : Record Value) :
    (valuesOf record).reading scope =
      separated ", " (record.toList.map fun entry => entry.2.assigned scope entry.1) := by
  simp only [reading_valuesOf, Cell.reading_withColumn]

/-- A condition reads like the comparisons of its columns, or is always true. -/
theorem Node.reading_matching_eq_compared (scope : Scope) (record : Record Value) :
    (matching record).reading scope =
      if record.columns = [] then literal "TRUE"
      else parenthesized (separated " AND "
        (record.toList.map fun entry => entry.2.compared scope entry.1)) := by
  simp only [reading_matching, Cell.conditionReading_withColumn]
  exact if_congr (KeyMap.isEmpty_iff_keys_eq_nil record) rfl rfl

namespace Query

/-- A condition that holds a self reference of its own lets an update fail, whatever
columns the values have. -/
theorem exists_error_update_of_mem_sites {table : String} {values : Record Value}
    {condition : Condition Value} {scope : Scope}
    (hself : Site.current none ∈ (condition.node.reading scope).sites) (out : Compiled Value) :
    ∃ fault reached, ((update table values condition).weave scope).run out =
      .error fault reached := by
  have hmem : Site.current none ∈ ((update table values condition).reading scope).sites := by
    cases hvalues : values.isEmpty with
    | true =>
        rw [reading_update_of_isEmpty scope table values condition hvalues]
        simp [hself]
    | false =>
        rw [reading_update scope table values condition hvalues]
        simp [hself]
  exact (Fragment.writes_weave scope _).exists_error_of_mem_sites hmem rfl out

/-- An update assigns each of its values to the column that the value stands under, in
the rows that meet the caller's condition.

The names and the cells come in one order, that of the ascending columns, and a self
reference in a cell names the cell's column.  The values of the cells are bound first and
those of the condition next.  Without values nothing is assigned: the rows are only read.
Either way, and in a delete, the pieces of the condition stand behind `WHERE` as they are
in the scope of the statement, so that a self reference in it has no column there.  A
condition that is a record compares each of its columns once, in ascending order; one
without columns is always true. -/
theorem update_assigns_values_under_condition (table : String) (values : Record Value)
    (condition : Condition Value) (scope : Scope) :
    let matched := Piece.read (condition.node.pieces scope)
    let entries := values.toList.map fun entry => (entry.1, entry.2.assigned scope entry.1)
    let row := literal "to_jsonb(" ++ name table ++ literal ".*) AS result"
    (values.columns.Pairwise (· < ·) ∧
      ∀ column cell, (column, cell) ∈ values.toList ↔ values.get? column = some cell) ∧
    (values.columns ≠ [] →
      let written := literal "UPDATE " ++ name table ++ literal " SET " ++
        parenthesized (separated ", " (entries.map fun entry => name entry.1)) ++
        literal " = ROW" ++ parenthesized (separated ", " (entries.map Prod.snd)) ++
        literal " WHERE " ++ matched ++ literal " RETURNING " ++ row
      ((update table values condition).weave scope).Writes written ∧
      written.values = (entries.flatMap fun entry => entry.2.values) ++ matched.values) ∧
    (values.columns = [] →
      ((update table values condition).weave scope).Writes
        (literal "SELECT " ++ row ++ literal " FROM " ++ name table ++ literal " WHERE " ++
          matched)) ∧
    ((delete table condition).weave scope).Writes
      (literal "DELETE FROM " ++ name table ++ literal " WHERE " ++ matched ++
        literal " RETURNING " ++ row) ∧
    (Site.current none ∈ matched.sites → ∀ out, ∃ fault reached,
      ((update table values condition).weave scope).run out = .error fault reached) ∧
    (∀ fragment, condition = .sql fragment → matched = fragment.reading scope) ∧
    ∀ record, condition = .matching record →
      matched = if record.columns = [] then literal "TRUE"
        else parenthesized (separated " AND "
          (record.toList.map fun entry => entry.2.compared scope entry.1)) := by
  intro matched entries row
  have hmatched : condition.node.reading scope = matched := rfl
  refine ⟨⟨KeyMap.pairwise_keys values, KeyMap.mem_toList_iff values⟩, ?_, ?_, ?_,
    exists_error_update_of_mem_sites, ?_, ?_⟩
  · intro hcolumns written
    have hvalues : values.isEmpty = false := by
      rw [← Bool.not_eq_true, KeyMap.isEmpty_iff_keys_eq_nil]
      exact hcolumns
    have hreading : (update table values condition).reading scope = written := by
      rw [reading_update scope table values condition hvalues, hmatched,
        Node.reading_valuesOf_eq_assigned]
      simp [written, entries, row, Record.columns, KeyMap.keys, KeyMap.toList, parenthesized,
        append_assoc, literal_append_literal, literal_append_literal_append, Function.comp_def]
    refine ⟨hreading ▸ Fragment.writes_weave scope _, ?_⟩
    simp [written, row, values_separated, List.flatMap_map]
  · intro hcolumns
    have hvalues : values.isEmpty := (KeyMap.isEmpty_iff_keys_eq_nil values).2 hcolumns
    have hreading : (update table values condition).reading scope =
        literal "SELECT " ++ row ++ literal " FROM " ++ name table ++ literal " WHERE " ++
          matched := by
      rw [reading_update_of_isEmpty scope table values condition hvalues, hmatched]
      simp [row, parenthesized, append_assoc, literal_append_literal,
        literal_append_literal_append]
    exact hreading ▸ Fragment.writes_weave scope _
  · have hreading : (delete table condition).reading scope =
        literal "DELETE FROM " ++ name table ++ literal " WHERE " ++ matched ++
          literal " RETURNING " ++ row := by
      rw [reading_delete scope table condition, hmatched]
      simp [row, parenthesized, append_assoc, literal_append_literal,
        literal_append_literal_append]
    exact hreading ▸ Fragment.writes_weave scope _
  · rintro fragment rfl
    exact Node.reading_fragment scope fragment
  · rintro record rfl
    exact Node.reading_matching_eq_compared scope record

/-- A birthday: the age is counted up from what it is. -/
def birthday : Record Nat :=
  KeyMap.ofList [("name", .value 2),
    ("age", .sql ((Fragment.empty.pushSelf.push " + ").pushBind 1))]

/-- Users with a key and without a note. -/
def usersWithoutNote : Record Nat :=
  KeyMap.ofList [("note", .sql (Fragment.empty.pushSelf.push " IS NULL")), ("id", .value 3)]

theorem update_assigns_values_under_condition_of_birthday :
    birthday.columns ≠ [] ∧
    (update "users" birthday (.matching usersWithoutNote)).compile =
      .ok { text := "UPDATE \"users\" SET (\"age\", \"name\") = ROW(\"age\" + $1, $2) " ++
              "WHERE (\"id\" = $3 AND (\"note\" IS NULL)) " ++
              "RETURNING to_jsonb(\"users\".*) AS result",
            params := #[1, 2, 3] } ∧
    (update "users" ∅ (.matching usersWithoutNote)).compile =
      .ok { text := "SELECT to_jsonb(\"users\".*) AS result FROM \"users\" " ++
              "WHERE (\"id\" = $1 AND (\"note\" IS NULL))",
            params := #[3] } ∧
    ∃ fault reached,
      ((update "users" birthday (.sql (Fragment.empty.pushSelf.push " > 17"))).weave
        Scope.root).run {} = .error fault reached := by
  have hcolumns : birthday.columns ≠ [] := by decide
  have hbirthday := update_assigns_values_under_condition "users" birthday
    (.matching usersWithoutNote) Scope.root
  have hnothing := update_assigns_values_under_condition "users" ∅
    (.matching usersWithoutNote) Scope.root
  have hadults := update_assigns_values_under_condition "users" birthday
    (.sql (Fragment.empty.pushSelf.push " > 17")) Scope.root
  refine ⟨hcolumns, ?_, ?_, hadults.2.2.2.2.1 (by decide) {}⟩
  · rw [Fragment.compile_of_writes (hbirthday.2.1 hcolumns).1 (by decide)]
    exact congrArg Except.ok (by decide +kernel)
  · rw [Fragment.compile_of_writes (hnothing.2.2.1 rfl) (by decide)]
    exact congrArg Except.ok (by decide +kernel)

end Query

end SqlWeave
