import SqlWeave.Proofs.BalancedStatements

/-!
# Enclosed parts

What a statement puts between parentheses stays there: the one that is opened
in front of it is closed by the one behind it, whatever comes before and after.
Main statement: this holds of every call with balanced parts, and the statement
of such a call is balanced itself.
-/

namespace SqlWeave

open Reading

variable {Value : Type}

theorem Record.encloses_matching (scope : Scope) (record : Record Value) :
    ((Node.matching record).reading scope).Encloses
      ((Record.parts scope record).map Part.reading) := by
  have hcell : ∀ entry : String × Cell Value,
      (entry.2.conditionReading (scope.withColumn entry.1) entry.1).Encloses
        ((entry.2.parts (scope.withColumn entry.1)).map Part.reading) := by
    rintro ⟨column, cell⟩
    cases cell with
    | value _ | default | parentColumn _ => exact .nothing _
    | sql body =>
        rw [Cell.conditionReading_sql, ← Node.reading_fragment]
        exact .parenthesized (.nothing _)
  rw [Node.reading_matching, Record.parts, List.map_flatMap]
  split
  next hempty =>
    rw [show record.toList = [] from List.isEmpty_iff.1 hempty]
    exact .nothing _
  next => exact .inside_parenthesized (.separated _ _ _ _ hcell)

/-- What it means that a walk was done between two parentheses of a statement that
belong together: it went on behind a text and the opening one, the statement goes on
with the closing one, and that is the one that closes, whatever follows. -/
def Weave.EnclosedBehind (walk : Weave Value Unit) (front : String) (reached : Compiled Value) :
    Prop :=
  ∃ (before after : Compiled Value) (inner back : String),
    walk.run before = .ok () after ∧
    before.text = front ++ "(" ∧
    after.text = before.text ++ inner ∧
    reached.text = after.text ++ ")" ++ back ∧
    ∀ beyond, Parentheses.closing 0 (inner ++ ")" ++ (back ++ beyond)).toList =
      some (inner.toList, (back ++ beyond).toList)

theorem Part.enclosedBehind {part : Part Value} {front back : Reading Value}
    {out : Compiled Value} (hpart : part.reading.Balanced)
    (hfault : (front ++ part.reading.parenthesized ++ back).fault? = none) :
    part.weave.EnclosedBehind (out.text ++ front.text out.params.size)
      (out.followedBy (front ++ part.reading.parenthesized ++ back)) := by
  simp only [fault?_append, Option.or_eq_none_iff, parenthesized] at hfault
  obtain ⟨⟨-, ⟨-, hinner⟩, -⟩, -⟩ := hfault
  let before := out.followedBy (front ++ literal "(")
  let behind := before.params.size + part.reading.values.length
  refine ⟨before, before.followedBy part.reading, part.reading.text before.params.size,
    back.text behind, part.writes_weave.run before hinner, ?_, rfl, ?_, fun beyond => ?_⟩
  · simp [before, Compiled.followedBy, String.append_assoc]
  · simp [before, behind, Compiled.followedBy, String.append_assoc, Nat.add_assoc]
  · exact (hpart hinner _).closing_eq (back.text behind ++ beyond)

/-- Parts that a reading encloses are enclosed where it is written. -/
theorem Part.exists_fronts {reading : Reading Value} {parts : List (Part Value)}
    (hencloses : reading.Encloses (parts.map Part.reading))
    (hparts : ∀ part ∈ parts, part.reading.Balanced) (hfault : reading.fault? = none)
    (out : Compiled Value) :
    ∃ fronts : List String,
      (fronts.Pairwise fun earlier later => earlier.length < later.length) ∧
      List.Forall₂ (fun part front =>
        part.weave.EnclosedBehind (out.text ++ front) (out.followedBy reading)) parts fronts := by
  obtain ⟨places, hplaces, horder⟩ := hencloses.exists_places
  refine ⟨places.map fun place => place.1.text out.params.size,
    List.pairwise_map.2 (horder out.params.size).1, ?_⟩
  rw [List.forall₂_map_left_iff] at hplaces
  rw [List.forall₂_map_right_iff]
  refine ((List.forall₂_and_left parts places).2 ⟨hparts, hplaces⟩).imp ?_
  rintro part place ⟨hpart, rfl⟩
  exact part.enclosedBehind hpart hfault

namespace Query

section Encloses

variable (scope : Scope)

theorem encloses_source (source : TupleSource Value) :
    (source.reading scope).Encloses ((source.enclosed scope).map Part.reading) := by
  cases source with
  | nothing | defaults count => exact .nothing _
  | tuples columns rows =>
      rw [TupleSource.enclosed, List.map_map, ← List.flatMap_pure_eq_map]
      exact .append_right _ (.separated ", " rows _ _ fun row => .parenthesized (.nothing _))

theorem enclosed_source_of_records_eq_nil {rows : Rows Value} (hrows : rows.records = []) :
    rows.source.enclosed scope = [] := by
  rw [Rows.source_eq_nothing_iff.2 hrows, TupleSource.enclosed]

theorem Condition.encloses (condition : Condition Value) :
    (condition.node.reading scope).Encloses ((condition.enclosed scope).map Part.reading) := by
  cases condition with
  | matching record => exact Record.encloses_matching scope record
  | sql body => exact .nothing _

theorem Filter.encloses (filter : Filter Value) :
    (filter.reading scope).Encloses ((filter.enclosed scope).map Part.reading) := by
  cases filter with
  | all => exact .nothing _
  | only condition => exact .append_right _ (condition.encloses scope)

theorem encloses_from (table : String) (options : SelectOptions Value) {mode : SelectMode}
    (hmode : mode ≠ .count) :
    (readingOfFrom scope (fromItems table options mode)).Encloses
      ((joinedParts scope (options.tableRef table) options.laterals).map Part.reading) := by
  have hjoined : (concat (options.laterals.toList.map fun entry =>
      (FromItem.joined (options.tableRef table) entry.1 entry.2).reading scope)).Encloses
      ((joinedParts scope (options.tableRef table) options.laterals).map Part.reading) := by
    rw [joinedParts, List.map_map, ← List.flatMap_pure_eq_map (Part.reading ∘ _)]
    refine .concat _ _ _ fun entry => ?_
    rw [Function.comp_apply, Function.comp_apply, Part.reading, Node.reading_fragment]
    exact .append_left (.append_left (.append_left (.append_right _
      (.parenthesized (.nothing _))) _) _) _
  cases mode with
  | count => exact absurd rfl hmode
  | many | one =>
      rw [readingOfFrom, fromItems, List.map_cons, List.map_map]
      exact .append_right _ (.append_right _ hjoined)

theorem encloses_rows (table : String) (filter : Filter Value) (options : SelectOptions Value)
    (mode : SelectMode) :
    (readingOfRows scope table filter options mode).Encloses
      ((rowsEnclosed scope (options.tableRef table) filter options mode).map Part.reading) := by
  simp only [readingOfRows, append_assoc]
  refine .append_right _ (.append_right _ (.append_right _ ?_))
  cases mode with
  | count => exact .append_right _ (.append_left (filter.encloses scope) _)
  | many | one =>
      rw [rowsEnclosed, List.map_append]
      exact .append (encloses_from scope table options (by decide))
        (.append_left (filter.encloses scope) _)

theorem encloses_selectMode (table : String) (filter : Filter Value)
    (options : SelectOptions Value) (mode : SelectMode) :
    ((selectMode table filter options mode).reading scope).Encloses
      (((Call.selectMode table filter options mode).enclosed scope).map Part.reading) := by
  cases mode with
  | many =>
      have hrows := encloses_rows scope table filter options .many
      rw [reading_selectMode_many, Call.enclosed, List.map_cons, Part.reading,
        Node.reading_fragment, reading_selectRows]
      exact .append_left (.append_left (.append_right _ (.parenthesized hrows)) _) _
  | one =>
      rw [reading_selectMode_one]
      exact encloses_rows scope table filter (options.forMode .one) .one
  | count =>
      rw [reading_selectMode_count]
      exact encloses_rows scope table filter (options.forMode .count) .count

/-- The statement of a call has the parts between parentheses that the call lists. -/
theorem Call.encloses (call : Call Value) :
    (call.statement.reading scope).Encloses ((call.enclosed scope).map Part.reading) := by
  cases call with
  | insert table rows =>
      by_cases hrows : rows.records = []
      · rw [enclosed, enclosed_source_of_records_eq_nil scope hrows]
        exact .nothing _
      · simp only [statement, reading_insert scope table rows hrows, append_assoc]
        exact .append_right _ (.append_right _ (.append_left (encloses_source scope rows.source) _))
  | upsert table rows uniqueColumns noNull =>
      by_cases hrows : rows.records = []
      · rw [enclosed, enclosed_source_of_records_eq_nil scope hrows]
        exact .nothing _
      · simp only [statement, reading_upsert scope table rows uniqueColumns noNull hrows,
          append_assoc]
        exact .append_right _ (.append_right _ (.append_left (encloses_source scope rows.source) _))
  | update table values condition =>
      have hcondition := condition.encloses scope
      rw [enclosed, List.map_append]
      cases hempty : values.isEmpty with
      | true =>
          simp only [statement, reading_update_of_isEmpty scope table values condition hempty,
            append_assoc]
          exact .append_right _ (.append_right _ (.append_right _ (.append_right _
            (.append_right _ hcondition))))
      | false =>
          simp only [statement, reading_update scope table values condition hempty, append_assoc]
          exact .append_right _ (.append_right _ (.append_right _ (.append_right _ (.append_right _
            (.append (.parenthesized (.nothing _))
              (.append_right _ (.append_left hcondition _)))))))
  | delete table condition =>
      simp only [statement, reading_delete, append_assoc]
      exact .append_right _ (.append_right _ (.append_right _
        (.append_left (condition.encloses scope) _)))
  | truncate tables options => exact .nothing _
  | selectMode table filter options mode => exact encloses_selectMode scope table filter options mode
  | select table filter options => exact encloses_selectMode scope table filter options .many
  | selectOne table filter options => exact encloses_selectMode scope table filter options .one
  | count table filter options =>
      exact encloses_selectMode scope table filter options.toSelect .count

end Encloses

section Balanced

variable {scope : Scope} (hparent : ∀ table ∈ scope.parent, ParenthesisFree table)

theorem Condition.balanced_enclosed {condition : Condition Value}
    (hparts : ∀ part ∈ condition.parts scope, part.Balanced) :
    ∀ part ∈ condition.enclosed scope, part.reading.Balanced := by
  cases condition with
  | matching record => exact fun part hmem => (hparts part hmem).reading
  | sql body => exact List.forall_mem_nil _

theorem Filter.balanced_enclosed {filter : Filter Value}
    (hparts : ∀ part ∈ filter.parts scope, part.Balanced) :
    ∀ part ∈ filter.enclosed scope, part.reading.Balanced := by
  cases filter with
  | all => exact List.forall_mem_nil _
  | only condition => exact Condition.balanced_enclosed hparts

include hparent in
theorem Rows.balanced_enclosed {rows : Rows Value}
    (hnames : ∀ name ∈ rows.records.flatMap Record.names, ParenthesisFree name)
    (hparts : ∀ part ∈ rows.records.flatMap (Record.parts scope), part.Balanced) :
    ∀ part ∈ rows.source.enclosed scope, part.reading.Balanced := by
  cases hsource : rows.source with
  | nothing | defaults count => exact List.forall_mem_nil _
  | tuples columns filled =>
      have hcolumns : ∀ column ∈ columns, ParenthesisFree column := fun column hmem =>
        hnames column (Rows.mem_names_of_mem_columns (by rwa [hsource]))
      obtain ⟨rfl, rfl⟩ := Rows.eq_of_source_eq_tuples hsource
      simp only [TupleSource.enclosed, List.mem_map, forall_exists_index, and_imp,
        forall_apply_eq_imp_iff₂]
      exact fun record hmem => balanced_fillDefaults hparent hcolumns
        (fun name hname => hnames name (List.mem_flatMap.2 ⟨record, hmem, hname⟩))
        fun part hpart => hparts part (List.mem_flatMap.2 ⟨record, hmem, hpart⟩)

theorem balanced_rowsEnclosed {tableRef : String} {filter : Filter Value}
    {options : SelectOptions Value} {mode : SelectMode}
    (hparts : ∀ part ∈ rowsParts scope tableRef filter options mode, part.Balanced) :
    ∀ part ∈ rowsEnclosed scope tableRef filter options mode, part.reading.Balanced := by
  cases mode with
  | count => exact Filter.balanced_enclosed hparts
  | many | one =>
      rw [rowsParts, List.forall_mem_append, List.forall_mem_append,
        List.forall_mem_append] at hparts
      obtain ⟨⟨⟨-, hjoined⟩, hconditions⟩, -⟩ := hparts
      exact List.forall_mem_append.2 ⟨fun part hmem => (hjoined part hmem).reading,
        Filter.balanced_enclosed hconditions⟩

include hparent in
theorem balanced_selectMode_enclosed {table : String} {filter : Filter Value}
    {options : SelectOptions Value} (mode : SelectMode) (htable : ParenthesisFree table)
    (hfilter : ∀ name ∈ filter.names, ParenthesisFree name)
    (hnames : ∀ name ∈ options.names, ParenthesisFree name)
    (hparts : ∀ part ∈ rowsParts scope (options.tableRef table) filter options mode,
      part.Balanced) :
    ∀ part ∈ (Call.selectMode table filter options mode).enclosed scope,
      part.reading.Balanced := by
  cases mode with
  | many =>
      refine List.forall_mem_cons.2 ⟨?_, balanced_rowsEnclosed hparts⟩
      rw [Part.reading, Node.reading_fragment, reading_selectRows]
      exact balanced_rows hparent .many htable hfilter hnames hparts
  | one | count => exact balanced_rowsEnclosed hparts

include hparent in
/-- What a call puts between parentheses is balanced if its parts are. -/
theorem Call.balanced_enclosed {call : Call Value}
    (hnames : ∀ name ∈ call.names, ParenthesisFree name)
    (hparts : ∀ part ∈ call.parts scope, part.Balanced) :
    ∀ part ∈ call.enclosed scope, part.reading.Balanced := by
  cases call with
  | insert table rows =>
      rw [names, List.forall_mem_cons] at hnames
      exact Rows.balanced_enclosed hparent hnames.2 hparts
  | upsert table rows uniqueColumns noNull =>
      rw [names, List.cons_append, List.forall_mem_cons, List.forall_mem_append] at hnames
      exact Rows.balanced_enclosed hparent hnames.2.2 hparts
  | update table values condition =>
      rw [names, List.cons_append, List.forall_mem_cons, List.forall_mem_append] at hnames
      rw [parts, List.forall_mem_append] at hparts
      refine List.forall_mem_append.2 ⟨?_, Condition.balanced_enclosed hparts.2⟩
      split
      · exact List.forall_mem_nil _
      · exact List.forall_mem_singleton.2
          (Record.balanced_valuesOf hparent hnames.2.1 hparts.1)
  | delete table condition => exact Condition.balanced_enclosed hparts
  | truncate tables options => exact List.forall_mem_nil _
  | selectMode table filter options mode =>
      rw [names, List.cons_append, List.forall_mem_cons, List.forall_mem_append] at hnames
      exact balanced_selectMode_enclosed hparent mode hnames.1 hnames.2.1 hnames.2.2 hparts
  | select table filter options =>
      rw [names, List.cons_append, List.forall_mem_cons, List.forall_mem_append] at hnames
      exact balanced_selectMode_enclosed hparent .many hnames.1 hnames.2.1 hnames.2.2 hparts
  | selectOne table filter options =>
      rw [names, List.cons_append, List.forall_mem_cons, List.forall_mem_append] at hnames
      exact balanced_selectMode_enclosed hparent .one hnames.1 hnames.2.1 hnames.2.2 hparts
  | count table filter options => exact Filter.balanced_enclosed hparts

end Balanced

/-- A call whose names have no parentheses and whose parts are balanced wherever they can
be written adds balanced text to a statement, if it can be written.  What it puts between
parentheses has a place of its own, in the order of the opening ones: there the part is
written, and the parenthesis behind it is the one that closes the one in front of it. -/
theorem call_is_balanced_and_encloses_parts (call : Call Value) (scope : Scope)
    (hparent : ∀ table ∈ scope.parent, ParenthesisFree table)
    (hnames : ∀ name ∈ call.names, ParenthesisFree name)
    (hparts : ∀ part ∈ call.parts scope, part.Balanced) (out reached : Compiled Value)
    (hrun : (call.statement.weave scope).run out = .ok () reached) :
    (∃ added, reached.text = out.text ++ added ∧ Balanced added) ∧
    ∃ fronts : List String,
      (fronts.Pairwise fun earlier later => earlier.length < later.length) ∧
      List.Forall₂ (fun part front => part.weave.EnclosedBehind (out.text ++ front) reached)
        (call.enclosed scope) fronts := by
  obtain ⟨hfault, rfl⟩ := (call.statement.writes_weave scope).eq_of_run hrun
  refine ⟨⟨_, rfl, Call.balanced_reading hparent hnames hparts hfault _⟩, ?_⟩
  exact Part.exists_fronts (call.encloses scope) (call.balanced_enclosed hparent hnames hparts)
    hfault out

/-- Grown-up authors with one of their books. -/
def authorsWithBook : Call Nat :=
  .select "authors"
    (.only (.matching (KeyMap.ofList
      [("age", .sql ((((Fragment.empty.pushSelf).push " > abs(").pushBind 17).push ")"))])))
    (SelectOptions.lateral {} "book"
      (selectOne "books" (.only (.matching (KeyMap.ofList [("author", .parentColumn "id")]))) {}))

theorem call_is_balanced_and_encloses_parts_of_authors :
    ∃ reached, (authorsWithBook.statement.weave Scope.root).run {} = .ok () reached ∧
      Balanced reached.text ∧
      ∃ fronts : List String, fronts.length = 3 ∧
        (fronts.Pairwise fun earlier later => earlier.length < later.length) ∧
        List.Forall₂ (fun part front => part.weave.EnclosedBehind ("" ++ front) reached)
          (authorsWithBook.enclosed Scope.root) fronts := by
  have hrun := (authorsWithBook.statement.writes_weave Scope.root).run {} (by decide)
  obtain ⟨⟨added, htext, hadded⟩, fronts, horder, hfronts⟩ :=
    call_is_balanced_and_encloses_parts authorsWithBook Scope.root (by decide) (by decide)
      (by decide +kernel) {} _ hrun
  refine ⟨_, hrun, ?_, fronts, hfronts.length_eq.symm, horder, hfronts⟩
  rw [htext]
  exact Balanced.append (by decide) hadded

end Query

end SqlWeave
