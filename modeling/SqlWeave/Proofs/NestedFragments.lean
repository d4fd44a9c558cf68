import SqlWeave.Sql.Fragment

/-!
# Nested fragments

The fragments that a tree holds: those of its nodes, of the items of its
sequences and of the cells of its records, at any depth.  What is asked of a
whole tree is asked of each of them.
-/

namespace SqlWeave

variable {Value : Type}

mutual

/-- The fragments inside a node. -/
def Node.fragments : Node Value → List (Fragment Value)
  | .ident _ | .param _ | .raw _ | .default | .selfColumn | .parentColumn _ | .columns _ => []
  | .values cells | .predicate cells => fragmentsOfCells cells
  | .fragment body => body.fragments
  | .seq items => fragmentsOfItems items

def Cell.fragments : Cell Value → List (Fragment Value)
  | .value _ | .default | .parentColumn _ => []
  | .sql body => body.fragments

/-- A fragment, and the fragments inside it. -/
def Fragment.fragments : Fragment Value → List (Fragment Value)
  | ⟨segments, last, shape, parentAlias⟩ =>
    ⟨segments, last, shape, parentAlias⟩ :: fragmentsOfSegments segments

def fragmentsOfSegments : List (String × Node Value) → List (Fragment Value)
  | [] => []
  | (_, node) :: rest => node.fragments ++ fragmentsOfSegments rest

def fragmentsOfItems : List (Node Value) → List (Fragment Value)
  | [] => []
  | node :: rest => node.fragments ++ fragmentsOfItems rest

def fragmentsOfCells : List (String × Cell Value) → List (Fragment Value)
  | [] => []
  | (_, cell) :: rest => cell.fragments ++ fragmentsOfCells rest

end

theorem fragmentsOfSegments_eq_flatMap (segments : List (String × Node Value)) :
    fragmentsOfSegments segments = segments.flatMap fun segment => segment.2.fragments := by
  induction segments with
  | nil => rfl
  | cons segment rest ih => rw [fragmentsOfSegments, ih, List.flatMap_cons]

namespace Fragment

theorem fragments_eq (fragment : Fragment Value) :
    fragment.fragments =
      fragment :: fragment.nodes.flatMap fun node => node.fragments := by
  obtain ⟨segments, last, shape, parentAlias⟩ := fragment
  rw [fragments, fragmentsOfSegments_eq_flatMap, nodes, List.flatMap_map]

theorem mem_fragments_self (fragment : Fragment Value) : fragment ∈ fragment.fragments := by
  rw [fragments_eq]
  exact List.mem_cons_self

end Fragment

end SqlWeave
