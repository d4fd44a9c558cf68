import SqlWeave.Proofs.Inlining
import SqlWeave.Query.Lateral

/-!
# Free references

What a tree takes from the scope around it.  A self reference is free unless it
stands in a cell, whose column it names; a parent reference is free unless it
stands in a fragment with an alias of its own.  Main statement: the walk over a
tree is the same in any two scopes that agree on what its free references name,
so nothing of a scope that a tree rebinds leaks into it or out of it.
-/

namespace SqlWeave

variable {Value : Type}

mutual

/-- Whether a self reference of the node stands outside every cell. -/
def Node.hasFreeSelf : Node Value → Bool
  | .selfColumn => true
  | .fragment body => body.hasFreeSelf
  | .seq items => itemsHaveFreeSelf items
  | .ident _ | .param _ | .raw _ | .default | .parentColumn _ | .columns _ | .values _
  | .predicate _ => false

def Fragment.hasFreeSelf : Fragment Value → Bool
  | ⟨segments, _, _, _⟩ => segmentsHaveFreeSelf segments

def segmentsHaveFreeSelf : List (String × Node Value) → Bool
  | [] => false
  | (_, node) :: rest => node.hasFreeSelf || segmentsHaveFreeSelf rest

def itemsHaveFreeSelf : List (Node Value) → Bool
  | [] => false
  | node :: rest => node.hasFreeSelf || itemsHaveFreeSelf rest

end

mutual

/-- Whether a parent reference of the node stands outside every fragment with an
alias of its own. -/
def Node.hasFreeParent : Node Value → Bool
  | .parentColumn _ => true
  | .fragment body => body.hasFreeParent
  | .seq items => itemsHaveFreeParent items
  | .values cells | .predicate cells => cellsHaveFreeParent cells
  | .ident _ | .param _ | .raw _ | .default | .selfColumn | .columns _ => false

def Cell.hasFreeParent : Cell Value → Bool
  | .parentColumn _ => true
  | .sql body => body.hasFreeParent
  | .value _ | .default => false

def Fragment.hasFreeParent : Fragment Value → Bool
  | ⟨segments, _, _, none⟩ => segmentsHaveFreeParent segments
  | ⟨_, _, _, some _⟩ => false

def segmentsHaveFreeParent : List (String × Node Value) → Bool
  | [] => false
  | (_, node) :: rest => node.hasFreeParent || segmentsHaveFreeParent rest

def itemsHaveFreeParent : List (Node Value) → Bool
  | [] => false
  | node :: rest => node.hasFreeParent || itemsHaveFreeParent rest

def cellsHaveFreeParent : List (String × Cell Value) → Bool
  | [] => false
  | (_, cell) :: rest => cell.hasFreeParent || cellsHaveFreeParent rest

end

/-- Two scopes agree on the column if a self reference is free, and on the parent
if a parent reference is free. -/
structure Scope.AgreeOn (left right : Scope) (freeSelf freeParent : Bool) : Prop where
  column : freeSelf = true → left.column = right.column
  parent : freeParent = true → left.parent = right.parent

namespace Scope.AgreeOn

variable {left right : Scope} {first second third fourth : Bool}

theorem of_or_left (hagree : left.AgreeOn right (first || second) (third || fourth)) :
    left.AgreeOn right first third where
  column hfirst := hagree.column (by rw [hfirst, Bool.true_or])
  parent hthird := hagree.parent (by rw [hthird, Bool.true_or])

theorem of_or_right (hagree : left.AgreeOn right (first || second) (third || fourth)) :
    left.AgreeOn right second fourth where
  column hsecond := hagree.column (by rw [hsecond, Bool.or_true])
  parent hfourth := hagree.parent (by rw [hfourth, Bool.or_true])

theorem of_true (hagree : left.AgreeOn right true third) (freeSelf : Bool) :
    left.AgreeOn right freeSelf third where
  column _ := hagree.column rfl
  parent := hagree.parent

/-- Under the same column, two scopes agree on the column whatever they were. -/
theorem withColumn (hagree : left.AgreeOn right first third) (column : String) :
    (left.withColumn column).AgreeOn (right.withColumn column) true third where
  column _ := rfl
  parent := hagree.parent

/-- Under the same alias, two scopes agree on the parent whatever they were. -/
theorem withParent (hagree : left.AgreeOn right first third) (tableAlias : String) (free : Bool) :
    (left.withParent tableAlias).AgreeOn (right.withParent tableAlias) first free where
  column := hagree.column
  parent _ := rfl

end Scope.AgreeOn

mutual

/-- A node compiles alike in scopes that agree on its free references. -/
theorem Node.weave_congr {left right : Scope} : (node : Node Value) →
    left.AgreeOn right node.hasFreeSelf node.hasFreeParent → node.weave left = node.weave right
  | .ident _, _ | .param _, _ | .raw _, _ | .default, _ | .columns _, _ => by
      rw [Node.weave, Node.weave]
  | .selfColumn, hagree => by
      rw [Node.weave, Node.weave, Weave.selfColumn, Weave.selfColumn, hagree.column rfl]
  | .parentColumn column, hagree => by
      rw [Node.weave, Node.weave, Weave.parentColumn, Weave.parentColumn, hagree.parent rfl]
  | .values cells, hagree => by
      rw [Node.hasFreeParent] at hagree
      rw [Node.weave, Node.weave, weaveValues_congr "" cells hagree]
  | .fragment body, hagree => by
      rw [Node.hasFreeSelf, Node.hasFreeParent] at hagree
      rw [Node.weave, Node.weave, Fragment.weave_congr body hagree]
  | .seq items, hagree => by
      rw [Node.hasFreeSelf, Node.hasFreeParent] at hagree
      rw [Node.weave, Node.weave, weaveItems_congr items hagree]
  | .predicate [], _ => by rw [Node.weave, Node.weave]
  | .predicate (cell :: cells), hagree => by
      rw [Node.hasFreeParent] at hagree
      rw [Node.weave, Node.weave, weaveConditions_congr "" (cell :: cells) hagree]

theorem Cell.weave_congr {left right : Scope} : (cell : Cell Value) →
    left.AgreeOn right true cell.hasFreeParent → cell.weave left = cell.weave right
  | .value _, _ | .default, _ => by rw [Cell.weave, Cell.weave]
  | .parentColumn column, hagree => by
      rw [Cell.weave, Cell.weave, Weave.parentColumn, Weave.parentColumn, hagree.parent rfl]
  | .sql body, hagree => by
      rw [Cell.hasFreeParent] at hagree
      rw [Cell.weave, Cell.weave, Fragment.weave_congr body (hagree.of_true _)]

theorem Cell.weaveCondition_congr {left right : Scope} (column : String) :
    (cell : Cell Value) → left.AgreeOn right true cell.hasFreeParent →
      cell.weaveCondition left column = cell.weaveCondition right column
  | .value _, _ | .default, _ => by rw [Cell.weaveCondition, Cell.weaveCondition]
  | .parentColumn referenced, hagree => by
      rw [Cell.weaveCondition, Cell.weaveCondition, Weave.parentColumn, Weave.parentColumn,
        hagree.parent rfl]
  | .sql body, hagree => by
      rw [Cell.hasFreeParent] at hagree
      rw [Cell.weaveCondition, Cell.weaveCondition, Fragment.weave_congr body (hagree.of_true _)]

/-- A fragment compiles alike in scopes that agree on its free references. -/
theorem Fragment.weave_congr {left right : Scope} : (fragment : Fragment Value) →
    left.AgreeOn right fragment.hasFreeSelf fragment.hasFreeParent →
      fragment.weave left = fragment.weave right
  | ⟨segments, _, _, none⟩, hagree => by
      rw [Fragment.hasFreeSelf, Fragment.hasFreeParent] at hagree
      rw [Fragment.weave, Fragment.weave]
      have hsegments := weaveSegments_congr segments hagree
      simp only [Scope.enter, hsegments]
  | ⟨segments, _, _, some tableAlias⟩, hagree => by
      rw [Fragment.hasFreeSelf] at hagree
      rw [Fragment.weave, Fragment.weave]
      have hsegments := weaveSegments_congr segments (hagree.withParent tableAlias _)
      simp only [Scope.enter, hsegments]

theorem weaveSegments_congr {left right : Scope} : (segments : List (String × Node Value)) →
    left.AgreeOn right (segmentsHaveFreeSelf segments) (segmentsHaveFreeParent segments) →
      weaveSegments left segments = weaveSegments right segments
  | [], _ => by rw [weaveSegments, weaveSegments]
  | (literal, node) :: rest, hagree => by
      rw [segmentsHaveFreeSelf, segmentsHaveFreeParent] at hagree
      rw [weaveSegments, weaveSegments, Node.weave_congr node hagree.of_or_left,
        weaveSegments_congr rest hagree.of_or_right]

theorem weaveItems_congr {left right : Scope} : (items : List (Node Value)) →
    left.AgreeOn right (itemsHaveFreeSelf items) (itemsHaveFreeParent items) →
      weaveItems left items = weaveItems right items
  | [], _ => by rw [weaveItems, weaveItems]
  | node :: rest, hagree => by
      rw [itemsHaveFreeSelf, itemsHaveFreeParent] at hagree
      rw [weaveItems, weaveItems, Node.weave_congr node hagree.of_or_left,
        weaveItems_congr rest hagree.of_or_right]

theorem weaveValues_congr {left right : Scope} {freeSelf : Bool} (lead : String) :
    (cells : List (String × Cell Value)) →
      left.AgreeOn right freeSelf (cellsHaveFreeParent cells) →
        weaveValues left lead cells = weaveValues right lead cells
  | [], _ => by rw [weaveValues, weaveValues]
  | (column, cell) :: rest, hagree => by
      rw [cellsHaveFreeParent, ← Bool.or_self freeSelf] at hagree
      rw [weaveValues, weaveValues, Cell.weave_congr cell (hagree.of_or_left.withColumn column),
        weaveValues_congr ", " rest hagree.of_or_right]

theorem weaveConditions_congr {left right : Scope} {freeSelf : Bool} (lead : String) :
    (cells : List (String × Cell Value)) →
      left.AgreeOn right freeSelf (cellsHaveFreeParent cells) →
        weaveConditions left lead cells = weaveConditions right lead cells
  | [], _ => by rw [weaveConditions, weaveConditions]
  | (column, cell) :: rest, hagree => by
      rw [cellsHaveFreeParent, ← Bool.or_self freeSelf] at hagree
      rw [weaveConditions, weaveConditions,
        Cell.weaveCondition_congr column cell (hagree.of_or_left.withColumn column),
        weaveConditions_congr " AND " rest hagree.of_or_right]

end

/-- A fragment with an alias of its own has no free parent reference. -/
theorem Fragment.hasFreeParent_eq_false {fragment : Fragment Value}
    (halias : fragment.parentAlias.isSome) : fragment.hasFreeParent = false := by
  match fragment with
  | ⟨_, _, _, none⟩ => cases halias
  | ⟨_, _, _, some _⟩ => rw [hasFreeParent]

/-- A lateral sub-select rebinds the parent, so a join of one has no free parent reference. -/
theorem Query.hasFreeParent_joinLateral (tableRef key : String) (subselect : Fragment Value) :
    (joinLateral tableRef key subselect).hasFreeParent = false := by
  have hsubselect : (subselect.withParentAlias tableRef).hasFreeParent = false :=
    Fragment.hasFreeParent_eq_false rfl
  simp [joinLateral, Node.hasFreeParent, itemsHaveFreeParent, hsubselect]

theorem Query.hasFreeParent_joinLaterals (tableRef : String)
    (subselects : KeyMap (Fragment Value)) :
    (joinLaterals tableRef subselects).hasFreeParent = false := by
  rw [joinLaterals, Node.hasFreeParent]
  induction subselects.toList with
  | nil => rfl
  | cons entry rest ih =>
      rw [List.map_cons, itemsHaveFreeParent, hasFreeParent_joinLateral, ih, Bool.or_false]

/-- The walk over a node or a fragment is the same in any two scopes that agree on
the column if a self reference is free in it, and on the parent if a parent
reference is.  So a fragment with an alias of its own, such as a lateral
sub-select, takes no parent from around it, and a record takes no column; and in a
sequence or a fragment every node stands in the scope of the whole, whatever
stands before it. -/
theorem compile_depends_on_free_references :
    (∀ (node : Node Value) (left right : Scope),
      left.AgreeOn right node.hasFreeSelf node.hasFreeParent →
        node.weave left = node.weave right) ∧
    (∀ (fragment : Fragment Value) (left right : Scope),
      left.AgreeOn right fragment.hasFreeSelf fragment.hasFreeParent →
        fragment.weave left = fragment.weave right) ∧
    (∀ (fragment : Fragment Value) (scope : Scope) (parent : Option String),
      fragment.parentAlias.isSome →
        fragment.weave { scope with parent := parent } = fragment.weave scope) ∧
    (∀ (tableRef : String) (subselects : KeyMap (Fragment Value)) (scope : Scope)
        (parent : Option String),
      (Query.joinLaterals tableRef subselects).weave { scope with parent := parent } =
        (Query.joinLaterals tableRef subselects).weave scope) ∧
    (∀ (cells : List (String × Cell Value)) (scope : Scope) (column : Option String),
      (Node.values cells).weave { scope with column := column } =
        (Node.values cells).weave scope ∧
      (Node.predicate cells).weave { scope with column := column } =
        (Node.predicate cells).weave scope) ∧
    (∀ (front : List (Node Value)) (node : Node Value) (back : List (Node Value))
        (scope : Scope),
      (Node.seq (front ++ node :: back)).weave scope = (do
        (Node.seq front).weave scope
        node.weave scope
        (Node.seq back).weave scope)) ∧
    (∀ (fragment : Fragment Value) (index : Nat) (node : Node Value) (scope : Scope),
      fragment.nodes[index]? = some node →
        fragment.weave scope = (do
          (fragment.before index).weave scope
          node.weave (scope.enter fragment.parentAlias)
          weaveSegments (scope.enter fragment.parentAlias) (fragment.behind index).segments
          Weave.text fragment.last)) := by
  refine ⟨fun node _ _ => node.weave_congr, fun fragment _ _ => fragment.weave_congr, ?_, ?_, ?_,
    ?_, fun fragment index node scope hnode => Fragment.weave_eq_of_nodes hnode scope⟩
  · intro fragment scope parent halias
    apply fragment.weave_congr
    rw [Fragment.hasFreeParent_eq_false halias]
    exact ⟨fun _ => rfl, nofun⟩
  · intro tableRef subselects scope parent
    apply Node.weave_congr
    rw [Query.hasFreeParent_joinLaterals]
    exact ⟨fun _ => rfl, nofun⟩
  · intro cells scope column
    constructor
    · apply Node.weave_congr
      rw [Node.hasFreeSelf]
      exact ⟨nofun, fun _ => rfl⟩
    · apply Node.weave_congr
      rw [Node.hasFreeSelf]
      exact ⟨nofun, fun _ => rfl⟩
  · intro front node back scope
    rw [Node.weave, weaveItems_append, weaveItems, Node.weave, Node.weave]

/-- A self reference beside a sub-select that refers to its parent by its own alias:
the table around both makes no difference. -/
theorem compile_depends_on_free_references_of_subselect :
    let subselect : Fragment Nat := ((Fragment.empty.pushParent "id").push " = ").pushBind 7
    let node := Node.seq [.selfColumn, .fragment (subselect.withParentAlias "users")]
    Scope.AgreeOn ⟨some "id", none⟩ ⟨some "id", some "posts"⟩ node.hasFreeSelf
      node.hasFreeParent ∧
    node.hasFreeSelf = true ∧ node.hasFreeParent = false ∧
    node.weave ⟨some "id", none⟩ = node.weave ⟨some "id", some "posts"⟩ := by
  intro subselect node
  have hself : node.hasFreeSelf = true := rfl
  have hparent : node.hasFreeParent = false := rfl
  have hagree : Scope.AgreeOn ⟨some "id", none⟩ ⟨some "id", some "posts"⟩ node.hasFreeSelf
      node.hasFreeParent := by
    rw [hself, hparent]
    exact ⟨fun _ => rfl, nofun⟩
  exact ⟨hagree, hself, hparent, compile_depends_on_free_references.1 node _ _ hagree⟩

end SqlWeave
