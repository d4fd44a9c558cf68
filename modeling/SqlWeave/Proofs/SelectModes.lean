import SqlWeave.Proofs.BuiltReadings

/-!
# Modes of a select

The three modes of a select over the same table, filter and options.  A count
is made without what does not change the number of rows, a single row is the
first of one, and an array is the query over the rows between two fixed texts.
Main statement: the modes differ in what they make of the rows and not in the
rows that they read.
-/

namespace SqlWeave

open Reading

variable {Value : Type}

/-- A walk that writes what another one does between two texts ends as that one does, and
binds the same values under the same numbers. -/
theorem Weave.Writes.run_between {inner outer : Weave Value Unit} {reading : Reading Value}
    {front back : String} (hinner : inner.Writes reading)
    (houter : outer.Writes (literal front ++ reading ++ literal back)) :
    (∀ out, fault? outer out = fault? inner out) ∧
    ∀ out reached, inner.run out = .ok () reached →
      ∃ added, reached.text = out.text ++ added ∧
        outer.run out = .ok () ⟨out.text ++ (front ++ added ++ back), reached.params⟩ := by
  have hfault : (literal front ++ reading ++ literal back).fault? = reading.fault? := by
    simp only [Reading.fault?, sites_append, sites_literal, List.nil_append, List.append_nil]
  constructor
  · intro out
    rw [houter.fault out, hinner.fault out, hfault]
  · intro out reached hrun
    obtain ⟨hnone, rfl⟩ := hinner.eq_of_run hrun
    refine ⟨_, rfl, ?_⟩
    rw [houter.run out (hfault.trans hnone)]
    simp [Compiled.followedBy]

namespace Query

/-- What does not change the number of rows does not get into a count. -/
theorem selectMode_count (table : String) (filter : Filter Value) (options : SelectOptions Value) :
    selectMode table filter options .count =
      count table filter { columns := options.columns, tableAlias := options.tableAlias } := rfl

/-- A single row is a limit of one, so a limit of the options is ignored. -/
theorem selectOne_limit (table : String) (filter : Filter Value) (options : SelectOptions Value)
    (limit : Option Nat) :
    selectOne table filter { options with limit } = selectOne table filter options := rfl

/-- What a query over rows has in front of its limit. -/
def readingBeforeLimit (scope : Scope) (table : String) (filter : Filter Value)
    (options : SelectOptions Value) : Reading Value :=
  literal "SELECT " ++ readingOfProjection scope (options.tableRef table) options .one ++
    literal " AS result" ++ readingOfFrom scope (fromItems table options .one) ++
    filter.reading scope ++ readingOfOrder scope options.order

theorem reading_selectOne (scope : Scope) (table : String) (filter : Filter Value)
    (options : SelectOptions Value) :
    (selectOne table filter options).reading scope =
      readingBeforeLimit scope table filter options ++ readingOfNumber " LIMIT " (some 1) ++
        readingOfNumber " OFFSET " options.offset := by
  rw [selectOne, reading_selectMode_one]
  rfl

/-- An array is made from the rows of a query that has the limit of the options. -/
theorem reading_select (scope : Scope) (table : String) (filter : Filter Value)
    (options : SelectOptions Value) (limit : Option Nat) :
    (select table filter { options with limit }).reading scope =
      literal "SELECT coalesce(jsonb_agg(result), '[]') AS result FROM (" ++
        (readingBeforeLimit scope table filter options ++ readingOfNumber " LIMIT " limit ++
          readingOfNumber " OFFSET " options.offset) ++
        literal (") AS " ++ quotedName ("sq_" ++ options.tableRef table)) := by
  have hrows : readingOfRows scope table filter { options with limit } .many =
      readingBeforeLimit scope table filter options ++ readingOfNumber " LIMIT " limit ++
        readingOfNumber " OFFSET " options.offset := rfl
  have href : SelectOptions.tableRef { options with limit } table = options.tableRef table := rfl
  rw [select, reading_selectMode_many, hrows, href]
  simp only [parenthesized, name, append_assoc, literal_append_literal,
    literal_append_literal_append, String.append_assoc]
  rfl

end Query

end SqlWeave
