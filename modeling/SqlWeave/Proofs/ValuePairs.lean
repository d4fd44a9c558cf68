import SqlWeave.Query.MapValues

/-!
# Pairs of values

Two trees that are equal when their values are forgotten have the same places
for values.  Main statement: there is one tree that holds both values in every
place, and so for everything that a call is made from.
-/

namespace SqlWeave

variable {Left Right : Type}

/-- What is left of a value that is forgotten. -/
def forget {Value : Type} (_ : Value) : Unit := ()

section Lists

variable {First Second Both Outline : Type} {first : Both → First} {second : Both → Second}
  {outlineFirst : First → Outline} {outlineSecond : Second → Outline}

/-- Members with pairs make lists with pairs. -/
theorem exists_pair_list {firsts : List First} {seconds : List Second}
    (hpair : ∀ left ∈ firsts, ∀ right, outlineFirst left = outlineSecond right →
      ∃ both, first both = left ∧ second both = right)
    (heq : firsts.map outlineFirst = seconds.map outlineSecond) :
    ∃ boths : List Both, boths.map first = firsts ∧ boths.map second = seconds := by
  induction firsts generalizing seconds with
  | nil =>
      have hnil : seconds = [] := List.map_eq_nil_iff.1 heq.symm
      exact ⟨[], rfl, hnil.symm⟩
  | cons left firsts ih =>
      cases seconds with
      | nil => cases heq
      | cons right seconds =>
          obtain ⟨hhead, htail⟩ := List.cons_eq_cons.1 heq
          obtain ⟨both, hfirst, hsecond⟩ := hpair left List.mem_cons_self right hhead
          obtain ⟨boths, hfirsts, hseconds⟩ :=
            ih (fun other hmem => hpair other (List.mem_cons_of_mem left hmem)) htail
          exact ⟨both :: boths, by rw [List.map_cons, hfirst, hfirsts],
            by rw [List.map_cons, hsecond, hseconds]⟩

/-- Entries have pairs if their values have. -/
theorem exists_pair_entries {firsts : List (String × First)} {seconds : List (String × Second)}
    (hpair : ∀ entry ∈ firsts, ∀ right, outlineFirst entry.2 = outlineSecond right →
      ∃ both, first both = entry.2 ∧ second both = right)
    (heq : (firsts.map fun entry => (entry.1, outlineFirst entry.2)) =
      seconds.map fun entry => (entry.1, outlineSecond entry.2)) :
    ∃ boths : List (String × Both),
      (boths.map fun entry => (entry.1, first entry.2)) = firsts ∧
      (boths.map fun entry => (entry.1, second entry.2)) = seconds := by
  refine exists_pair_list ?_ heq
  rintro ⟨key, left⟩ hmem ⟨other, right⟩ hsame
  obtain ⟨rfl, hvalue⟩ := Prod.mk.inj hsame
  obtain ⟨both, rfl, rfl⟩ := hpair (key, left) hmem right hvalue
  exact ⟨(key, both), rfl, rfl⟩

/-- Maps have pairs if their values have. -/
theorem KeyMap.exists_pair {firsts : KeyMap First} {seconds : KeyMap Second}
    (hpair : ∀ left right, outlineFirst left = outlineSecond right →
      ∃ both, first both = left ∧ second both = right)
    (heq : (firsts.mapEntries fun _ left => outlineFirst left) =
      seconds.mapEntries fun _ right => outlineSecond right) :
    ∃ boths : KeyMap Both, (boths.mapEntries fun _ both => first both) = firsts ∧
      (boths.mapEntries fun _ both => second both) = seconds := by
  obtain ⟨firsts, hfirsts⟩ := firsts
  obtain ⟨seconds, hseconds⟩ := seconds
  obtain ⟨boths, rfl, rfl⟩ := exists_pair_entries
    (fun entry _ right => hpair entry.2 right) (congrArg KeyMap.entries heq)
  have hascending : boths.Pairwise fun before after => before.1 < after.1 := by
    rwa [List.pairwise_map] at hfirsts
  exact ⟨⟨boths, hascending⟩, rfl, rfl⟩

end Lists

mutual

/-- Two nodes that differ in their values only are the halves of one node. -/
theorem Node.exists_pair :
    (left : Node Left) → (right : Node Right) → left.map forget = right.map forget →
      ∃ both : Node (Left × Right), both.map Prod.fst = left ∧ both.map Prod.snd = right
  | .ident name, right, heq => by
      cases right with
      | ident other =>
          simp only [Node.map, Node.ident.injEq] at heq
          exact ⟨.ident name, by rw [Node.map], by rw [Node.map, heq]⟩
      | _ => simp [Node.map] at heq
  | .param value, right, heq => by
      cases right with
      | param other => exact ⟨.param (value, other), by rw [Node.map], by rw [Node.map]⟩
      | _ => simp [Node.map] at heq
  | .raw sql, right, heq => by
      cases right with
      | raw other =>
          simp only [Node.map, Node.raw.injEq] at heq
          exact ⟨.raw sql, by rw [Node.map], by rw [Node.map, heq]⟩
      | _ => simp [Node.map] at heq
  | .default, right, heq => by
      cases right with
      | default => exact ⟨.default, by rw [Node.map], by rw [Node.map]⟩
      | _ => simp [Node.map] at heq
  | .selfColumn, right, heq => by
      cases right with
      | selfColumn => exact ⟨.selfColumn, by rw [Node.map], by rw [Node.map]⟩
      | _ => simp [Node.map] at heq
  | .parentColumn column, right, heq => by
      cases right with
      | parentColumn other =>
          simp only [Node.map, Node.parentColumn.injEq] at heq
          exact ⟨.parentColumn column, by rw [Node.map], by rw [Node.map, heq]⟩
      | _ => simp [Node.map] at heq
  | .columns names, right, heq => by
      cases right with
      | columns others =>
          simp only [Node.map, Node.columns.injEq] at heq
          exact ⟨.columns names, by rw [Node.map], by rw [Node.map, heq]⟩
      | _ => simp [Node.map] at heq
  | .values cells, right, heq => by
      cases right with
      | values others =>
          simp only [Node.map, mapCells_eq_map, Node.values.injEq] at heq
          obtain ⟨both, hleft, hright⟩ := exists_pair_entries (exists_pair_cells cells) heq
          exact ⟨.values both, by rw [Node.map, mapCells_eq_map, hleft],
            by rw [Node.map, mapCells_eq_map, hright]⟩
      | _ => simp [Node.map] at heq
  | .fragment body, right, heq => by
      cases right with
      | fragment other =>
          simp only [Node.map, Node.fragment.injEq] at heq
          obtain ⟨both, hleft, hright⟩ := Fragment.exists_pair body other heq
          exact ⟨.fragment both, by rw [Node.map, hleft], by rw [Node.map, hright]⟩
      | _ => simp [Node.map] at heq
  | .seq items, right, heq => by
      cases right with
      | seq others =>
          simp only [Node.map, mapItems_eq_map, Node.seq.injEq] at heq
          obtain ⟨both, hleft, hright⟩ := exists_pair_list (exists_pair_items items) heq
          exact ⟨.seq both, by rw [Node.map, mapItems_eq_map, hleft],
            by rw [Node.map, mapItems_eq_map, hright]⟩
      | _ => simp [Node.map] at heq
  | .predicate cells, right, heq => by
      cases right with
      | predicate others =>
          simp only [Node.map, mapCells_eq_map, Node.predicate.injEq] at heq
          obtain ⟨both, hleft, hright⟩ := exists_pair_entries (exists_pair_cells cells) heq
          exact ⟨.predicate both, by rw [Node.map, mapCells_eq_map, hleft],
            by rw [Node.map, mapCells_eq_map, hright]⟩
      | _ => simp [Node.map] at heq

theorem Cell.exists_pair :
    (left : Cell Left) → (right : Cell Right) → left.map forget = right.map forget →
      ∃ both : Cell (Left × Right), both.map Prod.fst = left ∧ both.map Prod.snd = right
  | .value value, right, heq => by
      cases right with
      | value other => exact ⟨.value (value, other), by rw [Cell.map], by rw [Cell.map]⟩
      | _ => simp [Cell.map] at heq
  | .default, right, heq => by
      cases right with
      | default => exact ⟨.default, by rw [Cell.map], by rw [Cell.map]⟩
      | _ => simp [Cell.map] at heq
  | .parentColumn column, right, heq => by
      cases right with
      | parentColumn other =>
          simp only [Cell.map, Cell.parentColumn.injEq] at heq
          exact ⟨.parentColumn column, by rw [Cell.map], by rw [Cell.map, heq]⟩
      | _ => simp [Cell.map] at heq
  | .sql body, right, heq => by
      cases right with
      | sql other =>
          simp only [Cell.map, Cell.sql.injEq] at heq
          obtain ⟨both, hleft, hright⟩ := Fragment.exists_pair body other heq
          exact ⟨.sql both, by rw [Cell.map, hleft], by rw [Cell.map, hright]⟩
      | _ => simp [Cell.map] at heq

/-- Two fragments that differ in their values only are the halves of one fragment. -/
theorem Fragment.exists_pair :
    (left : Fragment Left) → (right : Fragment Right) → left.map forget = right.map forget →
      ∃ both : Fragment (Left × Right), both.map Prod.fst = left ∧ both.map Prod.snd = right
  | ⟨segments, last, shape, parentAlias⟩, ⟨others, _, _, _⟩, heq => by
      simp only [Fragment.map, mapSegments_eq_map, Fragment.mk.injEq] at heq
      obtain ⟨hsegments, rfl, rfl, rfl⟩ := heq
      obtain ⟨both, hleft, hright⟩ := exists_pair_entries (exists_pair_segments segments) hsegments
      exact ⟨⟨both, last, shape, parentAlias⟩, by rw [Fragment.map, mapSegments_eq_map, hleft],
        by rw [Fragment.map, mapSegments_eq_map, hright]⟩

theorem exists_pair_segments :
    (segments : List (String × Node Left)) → ∀ segment ∈ segments, ∀ right : Node Right,
      segment.2.map forget = right.map forget →
      ∃ both : Node (Left × Right), both.map Prod.fst = segment.2 ∧ both.map Prod.snd = right
  | [] => nofun
  | (_, node) :: rest => List.forall_mem_cons.2
      ⟨Node.exists_pair node, exists_pair_segments rest⟩

theorem exists_pair_items :
    (items : List (Node Left)) → ∀ left ∈ items, ∀ right : Node Right,
      left.map forget = right.map forget →
      ∃ both : Node (Left × Right), both.map Prod.fst = left ∧ both.map Prod.snd = right
  | [] => nofun
  | node :: rest => List.forall_mem_cons.2 ⟨Node.exists_pair node, exists_pair_items rest⟩

theorem exists_pair_cells :
    (cells : List (String × Cell Left)) → ∀ entry ∈ cells, ∀ right : Cell Right,
      entry.2.map forget = right.map forget →
      ∃ both : Cell (Left × Right), both.map Prod.fst = entry.2 ∧ both.map Prod.snd = right
  | [] => nofun
  | (_, cell) :: rest => List.forall_mem_cons.2
      ⟨Cell.exists_pair cell, exists_pair_cells rest⟩

end

/-- Records that differ in their values only are the two sides of one record of pairs. -/
theorem Record.exists_pair (left : Record Left) (right : Record Right)
    (heq : Record.map forget left = Record.map forget right) :
    ∃ both : Record (Left × Right),
      Record.map Prod.fst both = left ∧ Record.map Prod.snd both = right :=
  KeyMap.exists_pair Cell.exists_pair heq

namespace Query

theorem Condition.exists_pair (left : Condition Left) (right : Condition Right)
    (heq : left.map forget = right.map forget) :
    ∃ both : Condition (Left × Right), both.map Prod.fst = left ∧ both.map Prod.snd = right := by
  cases left with
  | matching record =>
      cases right with
      | matching other =>
          obtain ⟨both, rfl, rfl⟩ := record.exists_pair other (Condition.matching.inj heq)
          exact ⟨.matching both, rfl, rfl⟩
      | sql other => cases heq
  | sql fragment =>
      cases right with
      | matching other => cases heq
      | sql other =>
          obtain ⟨both, rfl, rfl⟩ := fragment.exists_pair other (Condition.sql.inj heq)
          exact ⟨.sql both, rfl, rfl⟩

theorem Filter.exists_pair (left : Filter Left) (right : Filter Right)
    (heq : left.map forget = right.map forget) :
    ∃ both : Filter (Left × Right), both.map Prod.fst = left ∧ both.map Prod.snd = right := by
  cases left with
  | all =>
      cases right with
      | all => exact ⟨.all, rfl, rfl⟩
      | only other => cases heq
  | only condition =>
      cases right with
      | all => cases heq
      | only other =>
          obtain ⟨both, rfl, rfl⟩ := condition.exists_pair other (Filter.only.inj heq)
          exact ⟨.only both, rfl, rfl⟩

theorem Rows.exists_pair (left : Rows Left) (right : Rows Right)
    (heq : left.map forget = right.map forget) :
    ∃ both : Rows (Left × Right), both.map Prod.fst = left ∧ both.map Prod.snd = right := by
  cases left with
  | one record =>
      cases right with
      | one other =>
          obtain ⟨both, rfl, rfl⟩ := record.exists_pair other (Rows.one.inj heq)
          exact ⟨.one both, rfl, rfl⟩
      | many others => cases heq
  | many records =>
      cases right with
      | one other => cases heq
      | many others =>
          obtain ⟨both, rfl, rfl⟩ := exists_pair_list
            (fun record _ other => record.exists_pair other) (Rows.many.inj heq)
          exact ⟨.many both, rfl, rfl⟩

theorem OrderItem.exists_pair (left : OrderItem Left) (right : OrderItem Right)
    (heq : left.map forget = right.map forget) :
    ∃ both : OrderItem (Left × Right), both.map Prod.fst = left ∧ both.map Prod.snd = right := by
  obtain ⟨expression, direction, nulls⟩ := left
  obtain ⟨other, _, _⟩ := right
  obtain ⟨hexpression, rfl, rfl⟩ := OrderItem.mk.inj heq
  obtain ⟨both, rfl, rfl⟩ := expression.exists_pair other hexpression
  exact ⟨⟨both, direction, nulls⟩, rfl, rfl⟩

theorem SelectOptions.exists_pair (left : SelectOptions Left) (right : SelectOptions Right)
    (heq : left.map forget = right.map forget) :
    ∃ both : SelectOptions (Left × Right),
      both.map Prod.fst = left ∧ both.map Prod.snd = right := by
  obtain ⟨order, limit, offset, columns, extras, laterals, tableAlias⟩ := left
  obtain ⟨otherOrder, _, _, _, otherExtras, otherLaterals, _⟩ := right
  obtain ⟨horder, rfl, rfl, rfl, hextras, hlaterals, rfl⟩ := SelectOptions.mk.inj heq
  obtain ⟨order, rfl, rfl⟩ := exists_pair_list (fun item _ => item.exists_pair) horder
  obtain ⟨extras, rfl, rfl⟩ := KeyMap.exists_pair Fragment.exists_pair hextras
  obtain ⟨laterals, rfl, rfl⟩ := KeyMap.exists_pair Fragment.exists_pair hlaterals
  exact ⟨⟨order, limit, offset, columns, extras, laterals, tableAlias⟩, rfl, rfl⟩

/-- Two calls whose arguments differ in their values only are the halves of one call. -/
theorem Call.exists_pair (left : Call Left) (right : Call Right)
    (heq : left.map forget = right.map forget) :
    ∃ both : Call (Left × Right), both.map Prod.fst = left ∧ both.map Prod.snd = right := by
  cases left with
  | insert table rows =>
      cases right with
      | insert _ others =>
          obtain ⟨rfl, hrows⟩ := Call.insert.inj heq
          obtain ⟨rows, rfl, rfl⟩ := rows.exists_pair others hrows
          exact ⟨.insert table rows, rfl, rfl⟩
      | _ => cases heq
  | upsert table rows uniqueColumns noNull =>
      cases right with
      | upsert _ others _ _ =>
          obtain ⟨rfl, hrows, rfl, rfl⟩ := Call.upsert.inj heq
          obtain ⟨rows, rfl, rfl⟩ := rows.exists_pair others hrows
          exact ⟨.upsert table rows uniqueColumns noNull, rfl, rfl⟩
      | _ => cases heq
  | update table values condition =>
      cases right with
      | update _ others otherCondition =>
          obtain ⟨rfl, hvalues, hcondition⟩ := Call.update.inj heq
          obtain ⟨values, rfl, rfl⟩ := values.exists_pair others hvalues
          obtain ⟨condition, rfl, rfl⟩ := condition.exists_pair otherCondition hcondition
          exact ⟨.update table values condition, rfl, rfl⟩
      | _ => cases heq
  | delete table condition =>
      cases right with
      | delete _ other =>
          obtain ⟨rfl, hcondition⟩ := Call.delete.inj heq
          obtain ⟨condition, rfl, rfl⟩ := condition.exists_pair other hcondition
          exact ⟨.delete table condition, rfl, rfl⟩
      | _ => cases heq
  | truncate tables options =>
      cases right with
      | truncate _ _ =>
          obtain ⟨rfl, rfl⟩ := Call.truncate.inj heq
          exact ⟨.truncate tables options, rfl, rfl⟩
      | _ => cases heq
  | selectMode table filter options mode =>
      cases right with
      | selectMode _ otherFilter otherOptions _ =>
          obtain ⟨rfl, hfilter, hoptions, rfl⟩ := Call.selectMode.inj heq
          obtain ⟨filter, rfl, rfl⟩ := filter.exists_pair otherFilter hfilter
          obtain ⟨options, rfl, rfl⟩ := options.exists_pair otherOptions hoptions
          exact ⟨.selectMode table filter options mode, rfl, rfl⟩
      | _ => cases heq
  | select table filter options =>
      cases right with
      | select _ otherFilter otherOptions =>
          obtain ⟨rfl, hfilter, hoptions⟩ := Call.select.inj heq
          obtain ⟨filter, rfl, rfl⟩ := filter.exists_pair otherFilter hfilter
          obtain ⟨options, rfl, rfl⟩ := options.exists_pair otherOptions hoptions
          exact ⟨.select table filter options, rfl, rfl⟩
      | _ => cases heq
  | selectOne table filter options =>
      cases right with
      | selectOne _ otherFilter otherOptions =>
          obtain ⟨rfl, hfilter, hoptions⟩ := Call.selectOne.inj heq
          obtain ⟨filter, rfl, rfl⟩ := filter.exists_pair otherFilter hfilter
          obtain ⟨options, rfl, rfl⟩ := options.exists_pair otherOptions hoptions
          exact ⟨.selectOne table filter options, rfl, rfl⟩
      | _ => cases heq
  | count table filter options =>
      cases right with
      | count _ otherFilter _ =>
          obtain ⟨rfl, hfilter, rfl⟩ := Call.count.inj heq
          obtain ⟨filter, rfl, rfl⟩ := filter.exists_pair otherFilter hfilter
          exact ⟨.count table filter options, rfl, rfl⟩
      | _ => cases heq

end Query

end SqlWeave
