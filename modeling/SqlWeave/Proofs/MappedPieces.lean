import SqlWeave.Proofs.Rendering
import SqlWeave.Sql.MapValues

/-!
# Pieces of trees with replaced values

Replacing the values of a tree replaces those among its pieces.  What the
pieces read like and where the first fault is does not change with them.
-/

namespace SqlWeave

variable {Value Image : Type}

def Site.map (change : Value → Image) : Site Value → Site Image
  | .bound value => .bound (change value)
  | .current column => .current column
  | .enclosing table column => .enclosing table column
  | .comparedDefault column => .comparedDefault column

namespace Piece

def map (change : Value → Image) : Piece Value → Piece Image
  | .text sql => .text sql
  | .site place => .site (place.map change)

variable (change : Value → Image)

@[simp]
theorem map_text (sql : String) : (text sql : Piece Value).map change = text sql := rfl

@[simp]
theorem map_site (place : Site Value) :
    (site place).map change = site (place.map change) := rfl

@[simp]
theorem map_pieces_ident (name : String) :
    (ident name : List (Piece Value)).map (map change) = ident name := rfl

@[simp]
theorem map_pieces_idents (names : List String) :
    (idents names : List (Piece Value)).map (map change) = idents names := by
  cases names with
  | nil => rfl
  | cons first rest => simp [idents, List.map_flatMap]

end Piece

section Trees

variable (change : Value → Image)

mutual

/-- The pieces of a node with replaced values are its pieces with replaced values. -/
@[simp]
theorem Node.pieces_map (scope : Scope) :
    (node : Node Value) →
      (node.map change).pieces scope = (node.pieces scope).map (Piece.map change)
  | .ident name => by simp [Node.map, Node.pieces]
  | .param value => by simp [Node.map, Node.pieces, Site.map]
  | .raw sql => by simp [Node.map, Node.pieces]
  | .default => by simp [Node.map, Node.pieces]
  | .selfColumn => by simp [Node.map, Node.pieces, Site.map]
  | .parentColumn column => by simp [Node.map, Node.pieces, Site.map]
  | .columns names => by simp [Node.map, Node.pieces]
  | .values cells => by
      rw [Node.map, Node.pieces, Node.pieces, piecesOfValues_map scope "" cells]
  | .fragment body => by
      rw [Node.map, Node.pieces, Node.pieces, Fragment.pieces_map scope body]
  | .seq items => by rw [Node.map, Node.pieces, Node.pieces, piecesOfItems_map scope items]
  | .predicate [] => by simp [Node.map, mapCells, Node.pieces]
  | .predicate ((column, cell) :: rest) => by
      have hcells := piecesOfConditions_map scope "" ((column, cell) :: rest)
      rw [mapCells] at hcells
      simp [Node.map, mapCells, Node.pieces, hcells]

theorem Cell.pieces_map (scope : Scope) :
    (cell : Cell Value) →
      (cell.map change).pieces scope = (cell.pieces scope).map (Piece.map change)
  | .value value => by simp [Cell.map, Cell.pieces, Site.map]
  | .default => by simp [Cell.map, Cell.pieces]
  | .parentColumn column => by simp [Cell.map, Cell.pieces, Site.map]
  | .sql body => by rw [Cell.map, Cell.pieces, Cell.pieces, Fragment.pieces_map scope body]

theorem Cell.conditionPieces_map (scope : Scope) (column : String) :
    (cell : Cell Value) →
      (cell.map change).conditionPieces scope column =
        (cell.conditionPieces scope column).map (Piece.map change)
  | .value value => by simp [Cell.map, Cell.conditionPieces, Site.map]
  | .default => by simp [Cell.map, Cell.conditionPieces, Site.map]
  | .parentColumn referenced => by simp [Cell.map, Cell.conditionPieces, Site.map]
  | .sql body => by
      simp [Cell.map, Cell.conditionPieces, Fragment.pieces_map scope body]

/-- The pieces of a fragment with replaced values are its pieces with replaced values. -/
@[simp]
theorem Fragment.pieces_map (scope : Scope) :
    (fragment : Fragment Value) →
      (fragment.map change).pieces scope = (fragment.pieces scope).map (Piece.map change)
  | ⟨segments, last, _, parentAlias⟩ => by
      simp [Fragment.map, Fragment.pieces,
        piecesOfSegments_map (scope.enter parentAlias) segments]

theorem piecesOfSegments_map (scope : Scope) :
    (segments : List (String × Node Value)) →
      piecesOfSegments scope (mapSegments change segments) =
        (piecesOfSegments scope segments).map (Piece.map change)
  | [] => by simp [mapSegments, piecesOfSegments]
  | (literal, node) :: rest => by
      simp [mapSegments, piecesOfSegments, Node.pieces_map scope node,
        piecesOfSegments_map scope rest]

theorem piecesOfItems_map (scope : Scope) :
    (items : List (Node Value)) →
      piecesOfItems scope (mapItems change items) =
        (piecesOfItems scope items).map (Piece.map change)
  | [] => by simp [mapItems, piecesOfItems]
  | node :: rest => by
      simp [mapItems, piecesOfItems, Node.pieces_map scope node, piecesOfItems_map scope rest]

theorem piecesOfValues_map (scope : Scope) (lead : String) :
    (cells : List (String × Cell Value)) →
      piecesOfValues scope lead (mapCells change cells) =
        (piecesOfValues scope lead cells).map (Piece.map change)
  | [] => by simp [mapCells, piecesOfValues]
  | (column, cell) :: rest => by
      simp [mapCells, piecesOfValues, Cell.pieces_map (scope.withColumn column) cell,
        piecesOfValues_map scope ", " rest]

theorem piecesOfConditions_map (scope : Scope) (lead : String) :
    (cells : List (String × Cell Value)) →
      piecesOfConditions scope lead (mapCells change cells) =
        (piecesOfConditions scope lead cells).map (Piece.map change)
  | [] => by simp [mapCells, piecesOfConditions]
  | (column, cell) :: rest => by
      simp [mapCells, piecesOfConditions,
        Cell.conditionPieces_map (scope.withColumn column) column cell,
        piecesOfConditions_map scope " AND " rest]

end

end Trees

namespace Piece

variable (change : Value → Image)

@[simp]
theorem value?_map (piece : Piece Value) :
    (piece.map change).value? = piece.value?.map change := by
  cases piece with
  | text sql => rfl
  | site place => cases place <;> rfl

@[simp]
theorem fault?_map (piece : Piece Value) : (piece.map change).fault? = piece.fault? := by
  cases piece with
  | text sql => rfl
  | site place =>
      cases place with
      | bound _ | comparedDefault _ => rfl
      | current column => cases column <;> rfl
      | enclosing table _ => cases table <;> rfl

@[simp]
theorem content_map (piece : Piece Value) : (piece.map change).content = piece.content := by
  cases piece with
  | text sql => rfl
  | site place =>
      cases place with
      | bound _ | comparedDefault _ => rfl
      | current column => cases column <;> rfl
      | enclosing table _ => cases table <;> rfl

@[simp]
theorem values_map (pieces : List (Piece Value)) :
    values (pieces.map (map change)) = (values pieces).map change := by
  rw [values, values, List.filterMap_map, List.map_filterMap]
  congr 1
  funext piece
  exact value?_map change piece

@[simp]
theorem firstFault?_map (pieces : List (Piece Value)) :
    firstFault? (pieces.map (map change)) = firstFault? pieces := by
  simp [firstFault?, List.findSome?_map, Function.comp_def]

@[simp]
theorem written_map (pieces : List (Piece Value)) :
    written (pieces.map (map change)) = (written pieces).map (map change) := by
  simp [written, List.takeWhile_map, Function.comp_def]

/-- A placeholder shows its number and nothing of its value. -/
@[simp]
theorem render_map (bound : Nat) (pieces : List (Piece Value)) :
    render bound (pieces.map (map change)) = render bound pieces := by
  induction pieces generalizing bound with
  | nil => rfl
  | cons piece rest ih =>
      rw [List.map_cons, render, render, value?_map, content_map]
      simp only [ih]
      cases piece.value? <;> rfl

end Piece

end SqlWeave
