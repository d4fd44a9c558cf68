import SqlWeave.KeyMap.Lemmas
import SqlWeave.Proofs.Rendering

/-!
# Placeholders

A value is bound in the place where the tree holds it: the values of a
statement stand in document order, and the text shows each of them as the
placeholder of its position, at whatever depth it was met.  The texts around
the placeholders and the values themselves do not depend on what was compiled
before; only the numbers go on from there.
-/

namespace SqlWeave

variable {Value : Type}

namespace Piece

/-- The text before the first value. -/
def lead : List (Piece Value) → String
  | [] => ""
  | piece :: rest =>
      match piece.value? with
      | some _ => ""
      | none => piece.content ++ lead rest

/-- For every value, the text between it and the next one. -/
def tails : List (Piece Value) → List String
  | [] => []
  | piece :: rest =>
      match piece.value? with
      | some _ => lead rest :: tails rest
      | none => tails rest

/-- Every value has one text behind it. -/
theorem length_tails (pieces : List (Piece Value)) :
    (tails pieces).length = (values pieces).length := by
  induction pieces with
  | nil => rfl
  | cons piece rest ih =>
      cases hvalue : piece.value? with
      | some value =>
          simp only [tails, hvalue, values, List.filterMap_cons, List.length_cons]
          exact congrArg (· + 1) ih
      | none =>
          simp only [tails, hvalue, values, List.filterMap_cons]
          exact ih

/-- Rendered pieces are the text before the first value and then, for every
value, the placeholder of its position and the text behind it. -/
theorem render_eq_lead_append_join (bound : Nat) (pieces : List (Piece Value)) :
    render bound pieces =
      lead pieces ++ String.join ((tails pieces).mapIdx fun index tail =>
        placeholder (bound + index + 1) ++ tail) := by
  induction pieces generalizing bound with
  | nil => rfl
  | cons piece rest ih =>
      cases hvalue : piece.value? with
      | none => simp only [render, lead, tails, hvalue, ih, String.append_assoc]
      | some value =>
          have hshift : ∀ index tail,
              placeholder (bound + (index + 1) + 1) ++ tail =
                placeholder (bound + 1 + index + 1) ++ tail := by
            intro index tail
            rw [Nat.add_right_comm bound 1 index, Nat.add_assoc bound index 1]
          simp only [render, lead, tails, hvalue, ih, List.mapIdx_cons, String.join_cons,
            String.empty_append, Nat.add_zero, hshift, String.append_assoc]

end Piece

/-- What it means that a statement goes on with pieces: their values come next,
and the text shows each of them as the placeholder of its position. -/
structure Compiled.Continues (before : Compiled Value) (pieces : List (Piece Value))
    (after : Compiled Value) : Prop where
  params : after.params.toList = before.params.toList ++ Piece.values pieces
  text : after.text = before.text ++ (Piece.lead pieces ++
    String.join ((Piece.tails pieces).mapIdx fun index tail =>
      placeholder (before.params.size + index + 1) ++ tail))
  tails : (Piece.tails pieces).length = (Piece.values pieces).length

theorem Compiled.continues_extend (before : Compiled Value) (pieces : List (Piece Value)) :
    before.Continues pieces (before.extend pieces) where
  params := by simp [Compiled.extend]
  text := by rw [Compiled.extend, Piece.render_eq_lead_append_join]
  tails := Piece.length_tails pieces

/-- Pieces that are written without a fault continue the statement. -/
theorem Piece.continues_of_run_writeAll {pieces : List (Piece Value)}
    {before after : Compiled Value} (hrun : (writeAll pieces).run before = .ok () after) :
    before.Continues pieces after := by
  rw [run_writeAll] at hrun
  cases hfault : firstFault? pieces with
  | some fault => simp [hfault] at hrun
  | none =>
      simp only [hfault, written_eq_self hfault, EStateM.Result.ok.injEq, true_and] at hrun
      rw [← hrun]
      exact Compiled.continues_extend before pieces

/-- Compile nodes one after the other into one statement, each in its own scope. -/
def weaveParts (parts : List (Scope × Node Value)) : Weave Value Unit :=
  parts.forM fun part => part.2.weave part.1

/-- The pieces of several nodes, each in its own scope. -/
def piecesOfParts (parts : List (Scope × Node Value)) : List (Piece Value) :=
  parts.flatMap fun part => part.2.pieces part.1

theorem weaveParts_eq_writeAll (parts : List (Scope × Node Value)) :
    weaveParts parts = Piece.writeAll (piecesOfParts parts) := by
  induction parts with
  | nil => rfl
  | cons part rest ih =>
      have hrest : weaveParts (part :: rest) = (do part.2.weave part.1; weaveParts rest) := rfl
      have hpieces : piecesOfParts (part :: rest) =
          part.2.pieces part.1 ++ piecesOfParts rest := rfl
      rw [hrest, ih, hpieces, Node.weave_eq_writeAll, Piece.writeAll_append]

theorem Fragment.run_weave_of_compile {fragment : Fragment Value} {compiled : Compiled Value}
    (hcompile : fragment.compile = .ok compiled) :
    (fragment.weave Scope.root).run {} = .ok () compiled := by
  rw [Fragment.compile] at hcompile
  cases hrun : (fragment.weave Scope.root).run {} with
  | ok result out =>
      rw [hrun] at hcompile
      cases hcompile
      rfl
  | error fault out =>
      rw [hrun] at hcompile
      cases hcompile

/-- The sites of a row are those of its cells in ascending order of the columns. -/
theorem Node.sites_valuesOf (scope : Scope) (record : Record Value) :
    (valuesOf record).sites scope = record.columns.flatMap fun column =>
      (record.get? column).elim [] fun cell => cell.sites (scope.withColumn column) := by
  rw [valuesOf, sites, sitesOfValues_eq_flatMap]
  exact KeyMap.flatMap_toList record fun column cell => cell.sites (scope.withColumn column)

/-- The sites of a condition are those of its cells in ascending order of the columns. -/
theorem Node.sites_matching (scope : Scope) (record : Record Value) :
    (matching record).sites scope = record.columns.flatMap fun column =>
      (record.get? column).elim [] fun cell =>
        cell.conditionSites (scope.withColumn column) column := by
  rw [matching, sites, sitesOfConditions_eq_flatMap]
  exact KeyMap.flatMap_toList record fun column cell =>
    cell.conditionSites (scope.withColumn column) column

/-- Compilation binds the values of a tree in document order, with the cells of
a record in ascending order of the columns, and shows each of them as the
placeholder of its position; several compilations into one statement go on
numbering where the one before them ended. -/
theorem compile_numbers_values_in_document_order :
    (∀ (scope : Scope) (node : Node Value) (before after : Compiled Value),
      (node.weave scope).run before = .ok () after →
        before.Continues (node.pieces scope) after) ∧
    (∀ (scope : Scope) (fragment : Fragment Value) (before after : Compiled Value),
      (fragment.weave scope).run before = .ok () after →
        before.Continues (fragment.pieces scope) after) ∧
    (∀ (parts : List (Scope × Node Value)) (before after : Compiled Value),
      (weaveParts parts).run before = .ok () after →
        before.Continues (piecesOfParts parts) after) ∧
    (∀ (fragment : Fragment Value) (compiled : Compiled Value),
      fragment.compile = .ok compiled →
        compiled.params.toList = Piece.values (fragment.pieces Scope.root) ∧
        (Piece.tails (fragment.pieces Scope.root)).length = compiled.params.size ∧
        compiled.text = Piece.lead (fragment.pieces Scope.root) ++
          String.join ((Piece.tails (fragment.pieces Scope.root)).mapIdx fun index tail =>
            placeholder (index + 1) ++ tail)) ∧
    (∀ (scope : Scope) (node : Node Value),
      Piece.values (node.pieces scope) = (node.sites scope).filterMap Site.value?) ∧
    (∀ (scope : Scope) (fragment : Fragment Value),
      Piece.values (fragment.pieces scope) = (fragment.sites scope).filterMap Site.value?) ∧
    (∀ (scope : Scope) (record : Record Value),
      record.columns.Pairwise (· < ·) ∧
      ((Node.valuesOf record).sites scope = record.columns.flatMap fun column =>
        (record.get? column).elim [] fun cell => cell.sites (scope.withColumn column)) ∧
      ((Node.matching record).sites scope = record.columns.flatMap fun column =>
        (record.get? column).elim [] fun cell =>
          cell.conditionSites (scope.withColumn column) column)) := by
  refine ⟨?_, ?_, ?_, ?_, ?_, ?_, ?_⟩
  · intro scope node before after hrun
    rw [Node.weave_eq_writeAll] at hrun
    exact Piece.continues_of_run_writeAll hrun
  · intro scope fragment before after hrun
    rw [Fragment.weave_eq_writeAll] at hrun
    exact Piece.continues_of_run_writeAll hrun
  · intro parts before after hrun
    rw [weaveParts_eq_writeAll] at hrun
    exact Piece.continues_of_run_writeAll hrun
  · intro fragment compiled hcompile
    have hrun := Fragment.run_weave_of_compile hcompile
    rw [Fragment.weave_eq_writeAll] at hrun
    have hcontinues := Piece.continues_of_run_writeAll hrun
    have hparams : compiled.params.toList = Piece.values (fragment.pieces Scope.root) := by
      simpa using hcontinues.params
    refine ⟨hparams, ?_, ?_⟩
    · rw [hcontinues.tails, ← hparams, Array.length_toList]
    · simpa using hcontinues.text
  · intro scope node
    rw [Piece.values_eq_filterMap_sites, Node.sites_pieces]
  · intro scope fragment
    rw [Piece.values_eq_filterMap_sites, Fragment.sites_pieces]
  · intro scope record
    exact ⟨KeyMap.pairwise_keys record, Node.sites_valuesOf scope record,
      Node.sites_matching scope record⟩

/-- A condition whose columns were given in descending order, behind a value and alone. -/
theorem compile_numbers_values_of_nested_condition :
    let condition := KeyMap.ofList [("b", Cell.value 9), ("a", Cell.value 8)]
    let fragment := (Fragment.ofText " + ").pushMatching condition
    let node := Node.seq [.param 7, .fragment fragment]
    let before : Compiled Nat := ⟨"SELECT $1, ", #[6]⟩
    let after : Compiled Nat := ⟨"SELECT $1, $2 + (\"a\" = $3 AND \"b\" = $4)", #[6, 7, 8, 9]⟩
    let alone : Compiled Nat := ⟨" + (\"a\" = $1 AND \"b\" = $2)", #[8, 9]⟩
    ((node.weave Scope.root).run before = .ok () after ∧
      before.Continues (node.pieces Scope.root) after) ∧
    ((weaveParts [(Scope.root, .param 7), (Scope.root, .fragment fragment)]).run before =
        .ok () after ∧
      before.Continues
        (piecesOfParts [(Scope.root, .param 7), (Scope.root, .fragment fragment)]) after) ∧
    ((fragment.weave Scope.root).run {} = .ok () alone ∧
      Compiled.Continues {} (fragment.pieces Scope.root) alone) ∧
    (fragment.compile = .ok alone ∧
      alone.params.toList = Piece.values (fragment.pieces Scope.root)) := by
  intro condition fragment node before after alone
  have hnode : (node.weave Scope.root).run before = .ok () after := by
    have hfault : Piece.firstFault? (node.pieces Scope.root) = none := by decide
    have hafter : before.extend (node.pieces Scope.root) = after := by decide
    rw [Node.weave_eq_writeAll, Piece.run_writeAll, hfault, Piece.written_eq_self hfault, hafter]
  have hparts : (weaveParts [(Scope.root, .param 7), (Scope.root, .fragment fragment)]).run
      before = .ok () after := by
    rw [weaveParts_eq_writeAll]
    have hpieces : piecesOfParts [(Scope.root, .param 7), (Scope.root, .fragment fragment)] =
        node.pieces Scope.root := by decide
    rw [hpieces, ← Node.weave_eq_writeAll, hnode]
  have hfragment : (fragment.weave Scope.root).run {} = .ok () alone := by
    have hfault : Piece.firstFault? (fragment.pieces Scope.root) = none := by decide
    have halone : Compiled.extend {} (fragment.pieces Scope.root) = alone := by decide
    rw [Fragment.weave_eq_writeAll, Piece.run_writeAll, hfault, Piece.written_eq_self hfault,
      halone]
  have hcompile : fragment.compile = .ok alone := by rw [Fragment.compile, hfragment]
  obtain ⟨hnodes, hfragments, hseveral, hwhole, _⟩ :=
    @compile_numbers_values_in_document_order Nat
  exact ⟨⟨hnode, hnodes Scope.root node before after hnode⟩,
    ⟨hparts, hseveral _ before after hparts⟩,
    ⟨hfragment, hfragments Scope.root fragment {} alone hfragment⟩,
    hcompile, (hwhole fragment alone hcompile).1⟩

end SqlWeave
