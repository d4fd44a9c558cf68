import SqlWeave.Sql.Pieces

/-!
# Pieces in a scope

A scope does nothing to the pieces of a tree but resolve the references that the
tree itself leaves open: the texts between the sites are the same in every scope.
Main statements: the pieces of a tree in a scope are those of the tree alone, put
into the scope; and under a column they are those without one, where each self
reference that was open names the column.
-/

namespace SqlWeave

variable {Value : Type}

namespace Piece

/-- What a piece becomes where its tree stands in a scope. -/
def within (scope : Scope) : Piece Value → Piece Value
  | .text sql => .text sql
  | .site place => .site (place.within scope)

variable (scope : Scope)

@[simp]
theorem within_text (sql : String) : (text sql : Piece Value).within scope = text sql := rfl

@[simp]
theorem within_site (place : Site Value) : (site place).within scope = site (place.within scope) :=
  rfl

@[simp]
theorem map_within_ident (name : String) :
    (ident name : List (Piece Value)).map (within scope) = ident name := rfl

@[simp]
theorem map_within_idents (names : List String) :
    (idents names : List (Piece Value)).map (within scope) = idents names := by
  cases names with
  | nil => rfl
  | cons first rest => simp [idents, List.map_flatMap]

/-- A column that a record makes current hides the one around the record. -/
theorem map_within_withColumn (column : String) (pieces : List (Piece Value)) :
    (pieces.map (within (Scope.root.withColumn column))).map (within scope) =
      pieces.map (within (scope.withColumn column)) := by
  rw [List.map_map]
  refine List.map_congr_left fun piece _ => ?_
  cases piece with
  | text sql => rfl
  | site place => exact congrArg site (place.within_withColumn scope column)

/-- An alias that a fragment has hides the one around the fragment. -/
theorem map_within_enter (parentAlias : Option String) (pieces : List (Piece Value)) :
    (pieces.map (within (Scope.root.enter parentAlias))).map (within scope) =
      pieces.map (within (scope.enter parentAlias)) := by
  rw [List.map_map]
  refine List.map_congr_left fun piece _ => ?_
  cases piece with
  | text sql => rfl
  | site place => exact congrArg site (place.within_enter scope parentAlias)

end Piece

mutual

/-- The pieces of a node in a scope are those of the node alone, put into the scope. -/
theorem Node.pieces_eq_map_within (scope : Scope) :
    (node : Node Value) →
      node.pieces scope = (node.pieces Scope.root).map (Piece.within scope)
  | .ident name => by simp [Node.pieces]
  | .param value => by simp [Node.pieces, Site.within]
  | .raw sql => by simp [Node.pieces]
  | .default => by simp [Node.pieces]
  | .selfColumn => by simp [Node.pieces, Site.within, Scope.root]
  | .parentColumn column => by simp [Node.pieces, Site.within, Scope.root]
  | .columns names => by simp [Node.pieces]
  | .values cells => by
      rw [Node.pieces, Node.pieces, piecesOfValues_eq_map_within scope "" cells]
  | .fragment body => by
      rw [Node.pieces, Node.pieces, Fragment.pieces_eq_map_within scope body]
  | .seq items => by rw [Node.pieces, Node.pieces, piecesOfItems_eq_map_within scope items]
  | .predicate [] => by simp [Node.pieces]
  | .predicate (cell :: cells) => by
      simp [Node.pieces, ← piecesOfConditions_eq_map_within scope "" (cell :: cells)]

theorem Cell.pieces_eq_map_within (scope : Scope) :
    (cell : Cell Value) →
      cell.pieces scope = (cell.pieces Scope.root).map (Piece.within scope)
  | .value value => by simp [Cell.pieces, Site.within]
  | .default => by simp [Cell.pieces]
  | .parentColumn column => by simp [Cell.pieces, Site.within, Scope.root]
  | .sql body => by rw [Cell.pieces, Cell.pieces, Fragment.pieces_eq_map_within scope body]

theorem Cell.conditionPieces_eq_map_within (scope : Scope) (column : String) :
    (cell : Cell Value) →
      cell.conditionPieces scope column =
        (cell.conditionPieces Scope.root column).map (Piece.within scope)
  | .value value => by simp [Cell.conditionPieces, Site.within]
  | .default => by simp [Cell.conditionPieces, Site.within]
  | .parentColumn referenced => by simp [Cell.conditionPieces, Site.within, Scope.root]
  | .sql body => by
      simp [Cell.conditionPieces, ← Fragment.pieces_eq_map_within scope body]

/-- The pieces of a fragment in a scope are those of the fragment alone, put into the scope. -/
theorem Fragment.pieces_eq_map_within (scope : Scope) :
    (fragment : Fragment Value) →
      fragment.pieces scope = (fragment.pieces Scope.root).map (Piece.within scope)
  | ⟨segments, last, _, parentAlias⟩ => by
      rw [Fragment.pieces, Fragment.pieces,
        piecesOfSegments_eq_map_within (scope.enter parentAlias) segments,
        piecesOfSegments_eq_map_within (Scope.root.enter parentAlias) segments, List.map_append,
        Piece.map_within_enter]
      rfl

theorem piecesOfSegments_eq_map_within (scope : Scope) :
    (segments : List (String × Node Value)) →
      piecesOfSegments scope segments =
        (piecesOfSegments Scope.root segments).map (Piece.within scope)
  | [] => rfl
  | (literal, node) :: rest => by
      simp [piecesOfSegments, ← Node.pieces_eq_map_within scope node,
        ← piecesOfSegments_eq_map_within scope rest]

theorem piecesOfItems_eq_map_within (scope : Scope) :
    (items : List (Node Value)) →
      piecesOfItems scope items = (piecesOfItems Scope.root items).map (Piece.within scope)
  | [] => rfl
  | node :: rest => by
      simp [piecesOfItems, ← Node.pieces_eq_map_within scope node,
        ← piecesOfItems_eq_map_within scope rest]

theorem piecesOfValues_eq_map_within (scope : Scope) (lead : String) :
    (cells : List (String × Cell Value)) →
      piecesOfValues scope lead cells =
        (piecesOfValues Scope.root lead cells).map (Piece.within scope)
  | [] => rfl
  | (column, cell) :: rest => by
      rw [piecesOfValues, piecesOfValues,
        Cell.pieces_eq_map_within (scope.withColumn column) cell,
        Cell.pieces_eq_map_within (Scope.root.withColumn column) cell,
        piecesOfValues_eq_map_within scope ", " rest, List.map_append, List.map_cons,
        Piece.map_within_withColumn]
      rfl

theorem piecesOfConditions_eq_map_within (scope : Scope) (lead : String) :
    (cells : List (String × Cell Value)) →
      piecesOfConditions scope lead cells =
        (piecesOfConditions Scope.root lead cells).map (Piece.within scope)
  | [] => rfl
  | (column, cell) :: rest => by
      rw [piecesOfConditions, piecesOfConditions,
        Cell.conditionPieces_eq_map_within (scope.withColumn column) column cell,
        Cell.conditionPieces_eq_map_within (Scope.root.withColumn column) column cell,
        piecesOfConditions_eq_map_within scope " AND " rest, List.map_append, List.map_cons,
        Piece.map_within_withColumn]
      rfl

end

theorem Piece.sites_map_within (scope : Scope) (pieces : List (Piece Value)) :
    sites (pieces.map (within scope)) = (sites pieces).map (Site.within scope) := by
  induction pieces with
  | nil => rfl
  | cons piece rest ih => cases piece <;> simp [ih]

/-- The sites of a node in a scope are those of the node alone, put into the scope. -/
theorem Node.sites_eq_map_within (scope : Scope) (node : Node Value) :
    node.sites scope = (node.sites Scope.root).map (Site.within scope) := by
  rw [← Node.sites_pieces, node.pieces_eq_map_within, Piece.sites_map_within, Node.sites_pieces]

/-- The sites of a fragment in a scope are those of the fragment alone, put into the scope. -/
theorem Fragment.sites_eq_map_within (scope : Scope) (fragment : Fragment Value) :
    fragment.sites scope = (fragment.sites Scope.root).map (Site.within scope) := by
  rw [← Fragment.sites_pieces, fragment.pieces_eq_map_within, Piece.sites_map_within,
    Fragment.sites_pieces]

/-- The scope in which no column is current, with the same table around it. -/
def Scope.withoutColumn (scope : Scope) : Scope := { scope with column := none }

/-- A piece where a column is current: a self reference that is open names it. -/
def Piece.naming (column : String) : Piece Value → Piece Value
  | .site (.current none) => .site (.current (some column))
  | piece => piece

/-- Whatever column is current around it, a tree names the one it stands under. -/
theorem Piece.map_within_withColumn_eq (scope : Scope) (column : String)
    (pieces : List (Piece Value)) :
    pieces.map (within (scope.withColumn column)) =
      (pieces.map (within scope.withoutColumn)).map (naming column) := by
  rw [List.map_map]
  refine List.map_congr_left fun piece _ => ?_
  cases piece with
  | text sql => rfl
  | site place =>
      cases place with
      | bound _ | enclosing _ _ | comparedDefault _ => rfl
      | current current => cases current <;> rfl

/-- Under a column, the self references that a cell leaves open name the column. -/
theorem Cell.pieces_withColumn (scope : Scope) (column : String) (cell : Cell Value) :
    cell.pieces (scope.withColumn column) =
      (cell.pieces scope.withoutColumn).map (Piece.naming column) := by
  rw [cell.pieces_eq_map_within, Piece.map_within_withColumn_eq, ← cell.pieces_eq_map_within]

theorem Fragment.pieces_withColumn (scope : Scope) (column : String) (fragment : Fragment Value) :
    fragment.pieces (scope.withColumn column) =
      (fragment.pieces scope.withoutColumn).map (Piece.naming column) := by
  rw [fragment.pieces_eq_map_within, Piece.map_within_withColumn_eq,
    ← fragment.pieces_eq_map_within]

end SqlWeave
