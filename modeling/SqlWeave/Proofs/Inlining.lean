import SqlWeave.Proofs.NestedFragments
import SqlWeave.Proofs.Pushes

/-!
# Inlining

Nested fragments, sequences and raw nodes only group what could stand in their
place.  A fragment is written into another one at the place of a node, with its
first and last literal joined to those around the node.  Main statement: writing
out a group does not change the walk over the fragment, so every fragment can be
flattened to one without groups at any depth.  A nested fragment with an alias
of its own is no group: it rebinds the parent for what is inside it.
-/

namespace SqlWeave

variable {Value : Type}

/-- Literals behind literals, where the two at the seam become one. -/
def joinAtSeam (front back : List String) : List String :=
  front.dropLast ++ (front.getLastD "" ++ back.headD "") :: back.tail

namespace Fragment

/-- Write the literals and nodes of a fragment behind those of another one. -/
def append (front back : Fragment Value) : Fragment Value :=
  match back.segments with
  | [] => front.push back.last
  | (literal, node) :: rest =>
    { front with
      segments := front.segments ++ (front.last ++ literal, node) :: rest
      last := back.last }

instance : Append (Fragment Value) := ⟨append⟩

/-- What stands before the node of an index. -/
def before (fragment : Fragment Value) (index : Nat) : Fragment Value :=
  { fragment with
    segments := fragment.segments.take index
    last := fragment.literals[index]?.getD "" }

/-- What stands behind the node of an index. -/
def behind (fragment : Fragment Value) (index : Nat) : Fragment Value :=
  { fragment with segments := fragment.segments.drop (index + 1) }

/-- Write a fragment in place of the node of an index. -/
def spliceAt (fragment : Fragment Value) (index : Nat) (inner : Fragment Value) :
    Fragment Value :=
  fragment.before index ++ inner ++ fragment.behind index

section Append

variable (front back : Fragment Value)

@[simp]
theorem parentAlias_append : (front ++ back).parentAlias = front.parentAlias := by
  change (front.append back).parentAlias = _
  rw [append]
  split <;> rfl

@[simp]
theorem nodes_append : (front ++ back).nodes = front.nodes ++ back.nodes := by
  change (front.append back).nodes = _
  rw [append]
  split
  next hback => simp [nodes, push, hback]
  next hback => simp [nodes, hback]

theorem literals_append :
    (front ++ back).literals = joinAtSeam front.literals back.literals := by
  change (front.append back).literals = _
  rw [append]
  split
  next hback => simp [literals, joinAtSeam, push, hback]
  next hback => simp [literals, joinAtSeam, hback]

theorem weave_append (scope : Scope) :
    (front ++ back).weave scope = (do
      front.weave scope
      weaveSegments (scope.enter front.parentAlias) back.segments
      Weave.text back.last) := by
  change (front.append back).weave scope = _
  rw [append]
  split
  next hback => simp [weave_push, hback, weaveSegments]
  next hback =>
    simp [weave_eq, hback, weaveSegments_append, weaveSegments, Weave.text_append]

/-- A fragment without an alias of its own compiles as if it stood where it is written to. -/
theorem weave_append_of_parentAlias {back : Fragment Value} (halias : back.parentAlias = none)
    (scope : Scope) :
    (front ++ back).weave scope =
      (do front.weave scope; back.weave (scope.enter front.parentAlias)) := by
  rw [weave_append, weave_eq _ back, halias]
  rfl

end Append

section Splice

variable {fragment : Fragment Value} {index : Nat} {node : Node Value}

/-- A node stands behind a literal, and the segments split there. -/
theorem exists_segments_eq (hnode : fragment.nodes[index]? = some node) :
    ∃ literal, fragment.literals[index]? = some literal ∧
      fragment.segments = fragment.segments.take index ++
        (literal, node) :: fragment.segments.drop (index + 1) := by
  rw [nodes, List.getElem?_map, Option.map_eq_some_iff] at hnode
  obtain ⟨⟨literal, node⟩, hsegment, rfl⟩ := hnode
  obtain ⟨hindex, hget⟩ := List.getElem?_eq_some_iff.1 hsegment
  refine ⟨literal, ?_, ?_⟩
  · rw [literals, List.getElem?_append_left (by simpa using hindex), List.getElem?_map, hsegment]
    rfl
  · rw [← hget, ← List.drop_eq_getElem_cons hindex, List.take_append_drop]

/-- The walk over a fragment up to a node, at the node, and behind it. -/
theorem weave_eq_of_nodes (hnode : fragment.nodes[index]? = some node) (scope : Scope) :
    fragment.weave scope = (do
      (fragment.before index).weave scope
      node.weave (scope.enter fragment.parentAlias)
      weaveSegments (scope.enter fragment.parentAlias) (fragment.behind index).segments
      Weave.text fragment.last) := by
  obtain ⟨literal, hliteral, hsegments⟩ := exists_segments_eq hnode
  rw [weave_eq, hsegments]
  simp [weave_eq, before, behind, hliteral, weaveSegments_append, weaveSegments]

/-- A fragment in place of a node that compiles to the same changes nothing. -/
theorem weave_spliceAt {inner : Fragment Value} (hnode : fragment.nodes[index]? = some node)
    (halias : inner.parentAlias = none) (hinner : ∀ scope, inner.weave scope = node.weave scope)
    (scope : Scope) : (fragment.spliceAt index inner).weave scope = fragment.weave scope := by
  rw [spliceAt, weave_append, weave_append_of_parentAlias _ halias, parentAlias_append, hinner,
    weave_eq_of_nodes hnode]
  simp [before, behind]

theorem nodes_spliceAt (fragment inner : Fragment Value) (index : Nat) :
    (fragment.spliceAt index inner).nodes =
      fragment.nodes.take index ++ inner.nodes ++ fragment.nodes.drop (index + 1) := by
  rw [spliceAt, nodes_append, nodes_append]
  simp [nodes, before, behind, List.map_take, List.map_drop]

theorem literals_before (hindex : index < fragment.nodes.length) :
    (fragment.before index).literals = fragment.literals.take (index + 1) := by
  obtain ⟨literal, hliteral, -⟩ := exists_segments_eq (List.getElem?_eq_getElem hindex)
  have hfront : fragment.literals.take index = (fragment.segments.take index).map Prod.fst := by
    rw [nodes, List.length_map] at hindex
    rw [literals, List.take_append_of_le_length (by simpa using Nat.le_of_lt hindex),
      List.map_take]
  calc (fragment.before index).literals
      = (fragment.segments.take index).map Prod.fst ++ [fragment.literals[index]?.getD ""] := rfl
    _ = fragment.literals.take index ++ fragment.literals[index]?.toList := by
        rw [hfront, hliteral, Option.getD_some, Option.toList_some]
    _ = fragment.literals.take (index + 1) := List.take_add_one.symm

theorem literals_behind (hindex : index < fragment.nodes.length) :
    (fragment.behind index).literals = fragment.literals.drop (index + 1) := by
  have hlength : index + 1 ≤ (fragment.segments.map Prod.fst).length := by
    rw [nodes, List.length_map] at hindex
    rw [List.length_map]
    exact hindex
  rw [literals, literals, List.drop_append_of_le_length hlength, ← List.map_drop]
  rfl

theorem literals_spliceAt (inner : Fragment Value) (hindex : index < fragment.nodes.length) :
    (fragment.spliceAt index inner).literals =
      joinAtSeam (joinAtSeam (fragment.literals.take (index + 1)) inner.literals)
        (fragment.literals.drop (index + 1)) := by
  rw [spliceAt, literals_append, literals_append, literals_before hindex, literals_behind hindex]

end Splice

end Fragment

section Pushes

variable (scope : Scope)

theorem weavePushes_map_node (items : List (Node Value)) :
    weavePushes scope (items.map .node) = weaveItems scope items := by
  induction items with
  | nil => rfl
  | cons node rest ih =>
      rw [List.map_cons, weavePushes, ih, weaveItems]
      rfl

/-- Text between nodes reads like raw nodes between them. -/
theorem weavePushes_intersperse (items : List (Node Value)) (separator : String) :
    weavePushes scope ((items.map .node).intersperse (.text separator)) =
      weaveItems scope (items.intersperse (.raw separator)) := by
  induction items with
  | nil => rfl
  | cons first rest ih =>
      cases rest with
      | nil => rfl
      | cons second rest =>
          rw [List.map_cons] at ih
          rw [List.map_cons, List.map_cons, List.intersperse_cons_cons, weavePushes, weavePushes,
            ih, List.intersperse_cons_cons, weaveItems, weaveItems, Node.weave]
          rfl

end Pushes

/-- A node that does nothing but group the content of a fragment. -/
inductive Node.Groups : Node Value → Fragment Value → Prop where
  | fragment {body : Fragment Value} (halias : body.parentAlias = none) :
      Node.Groups (.fragment body) body
  | seq (items : List (Node Value)) :
      Node.Groups (.seq items) (Fragment.empty.pushAll (items.map .node))
  | join (items : List (Node Value)) (separator : String) :
      Node.Groups (.join items separator)
        (Fragment.empty.pushAll ((items.map .node).intersperse (.text separator)))
  | raw (sql : String) : Node.Groups (.raw sql) (.ofText sql)

namespace Node.Groups

variable {node : Node Value} {content : Fragment Value}

theorem parentAlias_eq (hgroups : node.Groups content) : content.parentAlias = none := by
  cases hgroups with
  | fragment halias => exact halias
  | seq items => rw [Fragment.parentAlias_pushAll]; rfl
  | join items separator => rw [Fragment.parentAlias_pushAll]; rfl
  | raw sql => rfl

/-- A group compiles to its content. -/
theorem weave_eq (hgroups : node.Groups content) (scope : Scope) :
    content.weave scope = node.weave scope := by
  cases hgroups with
  | fragment halias => rw [Node.weave]
  | seq items => rw [Fragment.weave_pushAll_empty, weavePushes_map_node, Node.weave]
  | join items separator =>
      rw [Fragment.weave_pushAll_empty, weavePushes_intersperse, Node.join, Node.weave]
  | raw sql => rw [Fragment.weave_ofText, Node.weave]

end Node.Groups

end SqlWeave
