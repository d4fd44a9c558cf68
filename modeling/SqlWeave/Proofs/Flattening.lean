import SqlWeave.Proofs.Inlining

/-!
# Flattening

A tree in which every group is written out where it stands, at any depth: in the
fragment itself, in fragments that keep an alias of their own, and in the
fragments under the columns of its records.  Main statement: writing groups out,
one or all of them, leaves the walk over a fragment as it is.
-/

namespace SqlWeave

variable {Value : Type}

/-- A node that could be written out: trusted SQL, a sequence, or a nested
fragment without an alias of its own. -/
def Node.isGroup : Node Value → Bool
  | .raw _ | .seq _ => true
  | .fragment body => body.parentAlias.isNone
  | .ident _ | .param _ | .default | .selfColumn | .parentColumn _ | .columns _ | .values _
  | .predicate _ => false

mutual

/-- A node written out: a group is its flattened content, another node stands alone. -/
def Node.inlined : Node Value → Fragment Value
  | .raw sql => .ofText sql
  | .seq items => inlinedItems items
  | .fragment body =>
    if body.parentAlias.isNone then body.flatten
    else Fragment.empty.pushNode (.fragment body.flatten)
  | .values cells => Fragment.empty.pushNode (.values (flattenCells cells))
  | .predicate cells => Fragment.empty.pushNode (.predicate (flattenCells cells))
  | .ident name => Fragment.empty.pushNode (.ident name)
  | .param value => Fragment.empty.pushNode (.param value)
  | .default => Fragment.empty.pushNode .default
  | .selfColumn => Fragment.empty.pushNode .selfColumn
  | .parentColumn column => Fragment.empty.pushNode (.parentColumn column)
  | .columns names => Fragment.empty.pushNode (.columns names)

def Cell.flatten : Cell Value → Cell Value
  | .sql body => .sql body.flatten
  | .value value => .value value
  | .default => .default
  | .parentColumn column => .parentColumn column

/-- A fragment with every group written out, at any depth. -/
def Fragment.flatten : Fragment Value → Fragment Value
  | ⟨segments, last, shape, parentAlias⟩ =>
    { (inlinedSegments segments).push last with shape := shape, parentAlias := parentAlias }

def inlinedSegments : List (String × Node Value) → Fragment Value
  | [] => .empty
  | (literal, node) :: rest => .ofText literal ++ (node.inlined ++ inlinedSegments rest)

def inlinedItems : List (Node Value) → Fragment Value
  | [] => .empty
  | node :: rest => node.inlined ++ inlinedItems rest

def flattenCells : List (String × Cell Value) → List (String × Cell Value)
  | [] => []
  | (column, cell) :: rest => (column, cell.flatten) :: flattenCells rest

end

@[simp]
theorem Fragment.parentAlias_flatten (fragment : Fragment Value) :
    fragment.flatten.parentAlias = fragment.parentAlias := by
  obtain ⟨segments, last, shape, parentAlias⟩ := fragment
  rw [flatten]

@[simp]
theorem Fragment.shape_flatten (fragment : Fragment Value) :
    fragment.flatten.shape = fragment.shape := by
  obtain ⟨segments, last, shape, parentAlias⟩ := fragment
  rw [flatten]

mutual

@[simp]
theorem Node.parentAlias_inlined :
    (node : Node Value) → node.inlined.parentAlias = none
  | .raw _ => by rw [Node.inlined]; rfl
  | .seq items => by rw [Node.inlined, parentAlias_inlinedItems items]
  | .fragment body => by
      rw [Node.inlined]
      split
      next halias => rw [Fragment.parentAlias_flatten, Option.isNone_iff_eq_none.1 halias]
      next => rfl
  | .values _ | .predicate _ | .ident _ | .param _ | .default | .selfColumn | .parentColumn _
  | .columns _ => by rw [Node.inlined]; rfl

@[simp]
theorem parentAlias_inlinedItems :
    (items : List (Node Value)) → (inlinedItems items).parentAlias = none
  | [] => rfl
  | node :: rest => by
      rw [inlinedItems, Fragment.parentAlias_append, Node.parentAlias_inlined node]

end

@[simp]
theorem parentAlias_inlinedSegments (segments : List (String × Node Value)) :
    (inlinedSegments segments).parentAlias = none := by
  cases segments with
  | nil => rfl
  | cons segment rest => rw [inlinedSegments, Fragment.parentAlias_append]; rfl

mutual

/-- Writing a node out does not change what it compiles to. -/
theorem Node.weave_inlined (scope : Scope) :
    (node : Node Value) → node.inlined.weave scope = node.weave scope
  | .raw sql => by rw [Node.inlined, Fragment.weave_ofText, Node.weave]
  | .seq items => by rw [Node.inlined, weave_inlinedItems scope items, Node.weave]
  | .fragment body => by
      have hbody := Fragment.weave_flatten scope body
      rw [Node.inlined]
      split
      next => rw [hbody, Node.weave]
      next => rw [Fragment.weave_pushNode_empty, Node.weave, hbody, Node.weave]
  | .values cells => by
      rw [Node.inlined, Fragment.weave_pushNode_empty, Node.weave,
        weaveValues_flattenCells scope "" cells, Node.weave]
  | .predicate [] => by rw [Node.inlined, Fragment.weave_pushNode_empty, flattenCells]
  | .predicate (cell :: cells) => by
      have hcells := weaveConditions_flattenCells scope "" (cell :: cells)
      rw [flattenCells] at hcells
      rw [Node.inlined, Fragment.weave_pushNode_empty, flattenCells, Node.weave, hcells,
        Node.weave]
  | .ident _ | .param _ | .default | .selfColumn | .parentColumn _ | .columns _ => by
      rw [Node.inlined, Fragment.weave_pushNode_empty]

theorem Cell.weave_flatten (scope : Scope) :
    (cell : Cell Value) → cell.flatten.weave scope = cell.weave scope
  | .sql body => by rw [Cell.flatten, Cell.weave, Fragment.weave_flatten scope body, Cell.weave]
  | .value _ | .default | .parentColumn _ => by rw [Cell.flatten]

theorem Cell.weaveCondition_flatten (scope : Scope) (column : String) :
    (cell : Cell Value) →
      cell.flatten.weaveCondition scope column = cell.weaveCondition scope column
  | .sql body => by
      rw [Cell.flatten, Cell.weaveCondition, Fragment.weave_flatten scope body,
        Cell.weaveCondition]
  | .value _ | .default | .parentColumn _ => by rw [Cell.flatten]

/-- Flattening a fragment does not change what it compiles to. -/
theorem Fragment.weave_flatten (scope : Scope) :
    (fragment : Fragment Value) → fragment.flatten.weave scope = fragment.weave scope
  | ⟨segments, last, shape, parentAlias⟩ => by
      have hsegments := weave_inlinedSegments (scope.enter parentAlias) segments
      rw [Fragment.weave_eq, parentAlias_inlinedSegments] at hsegments
      rw [Fragment.weave_eq, Fragment.weave, ← hsegments, Fragment.flatten]
      simp [Fragment.push, Weave.text_append]
      rfl

theorem weave_inlinedSegments (scope : Scope) :
    (segments : List (String × Node Value)) →
      (inlinedSegments segments).weave scope = weaveSegments scope segments
  | [] => by rw [inlinedSegments, Fragment.weave_empty, weaveSegments]
  | (literal, node) :: rest => by
      rw [inlinedSegments, Fragment.weave_append_of_parentAlias _ (by simp),
        Fragment.weave_append_of_parentAlias _ (by simp), Fragment.weave_ofText,
        Node.parentAlias_inlined, weaveSegments, ← Node.weave_inlined scope node,
        ← weave_inlinedSegments scope rest]
      rfl

theorem weave_inlinedItems (scope : Scope) :
    (items : List (Node Value)) → (inlinedItems items).weave scope = weaveItems scope items
  | [] => by rw [inlinedItems, Fragment.weave_empty, weaveItems]
  | node :: rest => by
      rw [inlinedItems, Fragment.weave_append_of_parentAlias _ (by simp), Node.parentAlias_inlined,
        Node.weave_inlined scope node, weaveItems, ← weave_inlinedItems scope rest]
      rfl

theorem weaveValues_flattenCells (scope : Scope) (lead : String) :
    (cells : List (String × Cell Value)) →
      weaveValues scope lead (flattenCells cells) = weaveValues scope lead cells
  | [] => by rw [flattenCells]
  | (column, cell) :: rest => by
      rw [flattenCells, weaveValues, weaveValues, Cell.weave_flatten _ cell,
        weaveValues_flattenCells scope ", " rest]

theorem weaveConditions_flattenCells (scope : Scope) (lead : String) :
    (cells : List (String × Cell Value)) →
      weaveConditions scope lead (flattenCells cells) = weaveConditions scope lead cells
  | [] => by rw [flattenCells]
  | (column, cell) :: rest => by
      rw [flattenCells, weaveConditions, weaveConditions, Cell.weaveCondition_flatten _ column cell,
        weaveConditions_flattenCells scope " AND " rest]

end

/-- No fragment of these holds a group. -/
def FreeOfGroups (fragments : List (Fragment Value)) : Prop :=
  ∀ fragment ∈ fragments, ∀ node ∈ fragment.nodes, node.isGroup = false

/-- A fragment without groups at any depth. -/
def Fragment.IsFlat (fragment : Fragment Value) : Prop := FreeOfGroups fragment.fragments

theorem freeOfGroups_append {front back : List (Fragment Value)} (hfront : FreeOfGroups front)
    (hback : FreeOfGroups back) : FreeOfGroups (front ++ back) :=
  fun fragment hmem => (List.mem_append.1 hmem).elim (hfront fragment) (hback fragment)

namespace Fragment

/-- Whether a fragment is flat is decided by its nodes. -/
theorem isFlat_iff (fragment : Fragment Value) :
    fragment.IsFlat ↔
      ∀ node ∈ fragment.nodes, node.isGroup = false ∧ FreeOfGroups node.fragments := by
  rw [IsFlat, fragments_eq, FreeOfGroups]
  constructor
  · intro hflat node hnode
    refine ⟨hflat fragment List.mem_cons_self node hnode, fun inner hinner => ?_⟩
    exact hflat inner (List.mem_cons_of_mem _ (List.mem_flatMap.2 ⟨node, hnode, hinner⟩))
  · intro hnodes inner hinner
    rcases List.mem_cons.1 hinner with rfl | hinner
    · exact fun node hnode => (hnodes node hnode).1
    · obtain ⟨node, hnode, hinner⟩ := List.mem_flatMap.1 hinner
      exact (hnodes node hnode).2 inner hinner

theorem isFlat_of_nodes_eq {left right : Fragment Value} (hnodes : left.nodes = right.nodes)
    (hflat : right.IsFlat) : left.IsFlat := by
  rw [isFlat_iff] at hflat ⊢
  rw [hnodes]
  exact hflat

theorem isFlat_ofText (sql : String) : (ofText sql : Fragment Value).IsFlat := by
  rw [isFlat_iff]
  intro node hnode
  cases hnode

theorem isFlat_append {front back : Fragment Value} (hfront : front.IsFlat)
    (hback : back.IsFlat) : (front ++ back).IsFlat := by
  rw [isFlat_iff] at hfront hback ⊢
  rw [nodes_append]
  exact fun node hnode => (List.mem_append.1 hnode).elim (hfront node) (hback node)

theorem isFlat_pushNode_empty {node : Node Value} (hnode : node.isGroup = false)
    (hinner : FreeOfGroups node.fragments) : (empty.pushNode node).IsFlat := by
  rw [isFlat_iff, nodes_pushNode]
  intro child hchild
  rw [List.mem_singleton.1 hchild]
  exact ⟨hnode, hinner⟩

end Fragment

mutual

/-- A node that is written out leaves no group. -/
theorem Node.isFlat_inlined : (node : Node Value) → node.inlined.IsFlat
  | .raw sql => by
      rw [Node.inlined]
      exact Fragment.isFlat_ofText sql
  | .seq items => by
      rw [Node.inlined]
      exact isFlat_inlinedItems items
  | .fragment body => by
      have hbody := Fragment.isFlat_flatten body
      rw [Node.inlined]
      split
      next => exact hbody
      next halias =>
        apply Fragment.isFlat_pushNode_empty
        · rw [Node.isGroup, Fragment.parentAlias_flatten]
          exact Bool.eq_false_iff.2 halias
        · rw [Node.fragments]
          exact hbody
  | .values cells | .predicate cells => by
      have hcells := freeOfGroups_flattenCells cells
      rw [Node.inlined]
      apply Fragment.isFlat_pushNode_empty
      · rw [Node.isGroup]
      · rw [Node.fragments]
        exact hcells
  | .ident _ | .param _ | .default | .selfColumn | .parentColumn _ | .columns _ => by
      rw [Node.inlined]
      apply Fragment.isFlat_pushNode_empty
      · rw [Node.isGroup]
      · rw [Node.fragments]
        exact fun fragment hmem => nomatch hmem

theorem Cell.freeOfGroups_flatten :
    (cell : Cell Value) → FreeOfGroups cell.flatten.fragments
  | .sql body => by
      rw [Cell.flatten, Cell.fragments]
      exact Fragment.isFlat_flatten body
  | .value _ | .default | .parentColumn _ => by
      rw [Cell.flatten, Cell.fragments]
      exact fun fragment hmem => nomatch hmem

/-- A flattened fragment has no groups at any depth. -/
theorem Fragment.isFlat_flatten : (fragment : Fragment Value) → fragment.flatten.IsFlat
  | ⟨segments, last, shape, parentAlias⟩ => by
      have hsegments := isFlat_inlinedSegments segments
      apply Fragment.isFlat_of_nodes_eq _ hsegments
      rw [Fragment.flatten]
      rfl

theorem isFlat_inlinedSegments :
    (segments : List (String × Node Value)) → (inlinedSegments segments).IsFlat
  | [] => Fragment.isFlat_ofText ""
  | (literal, node) :: rest => by
      rw [inlinedSegments]
      exact Fragment.isFlat_append (Fragment.isFlat_ofText literal)
        (Fragment.isFlat_append (Node.isFlat_inlined node) (isFlat_inlinedSegments rest))

theorem isFlat_inlinedItems : (items : List (Node Value)) → (inlinedItems items).IsFlat
  | [] => Fragment.isFlat_ofText ""
  | node :: rest => by
      rw [inlinedItems]
      exact Fragment.isFlat_append (Node.isFlat_inlined node) (isFlat_inlinedItems rest)

theorem freeOfGroups_flattenCells :
    (cells : List (String × Cell Value)) → FreeOfGroups (fragmentsOfCells (flattenCells cells))
  | [] => fun fragment hmem => nomatch hmem
  | (column, cell) :: rest => by
      rw [flattenCells, fragmentsOfCells]
      exact freeOfGroups_append (Cell.freeOfGroups_flatten cell) (freeOfGroups_flattenCells rest)

end

/-- Writing out a group changes nothing.  The content of a nested fragment without
an alias of its own, of a sequence, of a joined sequence or of a raw node may take
the place of the node, with the literals at both seams joined; pushing a group is
pushing its content; and every fragment can be flattened at all depths. -/
theorem groups_can_be_written_out :
    (∀ (fragment : Fragment Value) (index : Nat) (node : Node Value)
        (content : Fragment Value), fragment.nodes[index]? = some node → node.Groups content →
      (fragment.spliceAt index content).nodes =
        fragment.nodes.take index ++ content.nodes ++ fragment.nodes.drop (index + 1) ∧
      (fragment.spliceAt index content).literals =
        joinAtSeam (joinAtSeam (fragment.literals.take (index + 1)) content.literals)
          (fragment.literals.drop (index + 1)) ∧
      ∀ scope, (fragment.spliceAt index content).weave scope = fragment.weave scope) ∧
    (∀ (start : Fragment Value) (sql : String) (later : List (Push Value)) (scope : Scope),
      (start.pushAll (.node (.raw sql) :: later)).weave scope =
        (start.pushAll (.text sql :: later)).weave scope) ∧
    (∀ (start : Fragment Value) (items : List (Node Value)) (later : List (Push Value))
        (scope : Scope),
      (start.pushAll (.node (.seq items) :: later)).weave scope =
        (start.pushAll (items.map .node ++ later)).weave scope) ∧
    (∀ (start : Fragment Value) (items : List (Node Value)) (separator : String)
        (later : List (Push Value)) (scope : Scope),
      (start.pushAll (.node (.join items separator) :: later)).weave scope =
        (start.pushAll ((items.map .node).intersperse (.text separator) ++ later)).weave scope) ∧
    (∀ fragment : Fragment Value,
      fragment.flatten.IsFlat ∧ fragment.flatten.parentAlias = fragment.parentAlias ∧
      fragment.flatten.shape = fragment.shape ∧
      ∀ scope, fragment.flatten.weave scope = fragment.weave scope) := by
  refine ⟨?_, ?_, ?_, ?_, ?_⟩
  · intro fragment index node content hnode hgroups
    have hindex := (List.getElem?_eq_some_iff.1 hnode).1
    exact ⟨fragment.nodes_spliceAt content index, Fragment.literals_spliceAt content hindex,
      Fragment.weave_spliceAt hnode hgroups.parentAlias_eq hgroups.weave_eq⟩
  · intro start sql later scope
    rw [Fragment.weave_pushAll, Fragment.weave_pushAll, weavePushes, weavePushes, Push.weave,
      Push.weave, Node.weave]
  · intro start items later scope
    rw [Fragment.weave_pushAll, Fragment.weave_pushAll, weavePushes, weavePushes_append,
      weavePushes_map_node, Push.weave, Node.weave]
  · intro start items separator later scope
    rw [Fragment.weave_pushAll, Fragment.weave_pushAll, weavePushes, weavePushes_append,
      weavePushes_intersperse, Push.weave, Node.join, Node.weave]
  · intro fragment
    exact ⟨fragment.isFlat_flatten, fragment.parentAlias_flatten, fragment.shape_flatten,
      fun scope => fragment.weave_flatten scope⟩

/-- A nested condition between two texts. -/
theorem groups_can_be_written_out_of_condition :
    let condition : Fragment Nat := (Fragment.ofText "a = ").pushBind 7
    let whole := ((Fragment.ofText "WHERE ").pushFragment condition).push " LIMIT 1"
    (whole.nodes[0]? = some (.fragment condition) ∧
      (Node.fragment condition).Groups condition) ∧
    (whole.spliceAt 0 condition).nodes = [.param 7] ∧
    (whole.spliceAt 0 condition).literals = ["WHERE a = ", " LIMIT 1"] ∧
    ∀ scope, (whole.spliceAt 0 condition).weave scope = whole.weave scope := by
  intro condition whole
  have hnode : whole.nodes[0]? = some (.fragment condition) := rfl
  have hgroups : (Node.fragment condition).Groups condition := .fragment rfl
  obtain ⟨hnodes, hliterals, hweave⟩ :=
    groups_can_be_written_out.1 whole 0 (.fragment condition) condition hnode hgroups
  refine ⟨⟨hnode, hgroups⟩, ?_, ?_, hweave⟩
  · rw [hnodes]
    rfl
  · rw [hliterals]
    decide

end SqlWeave
