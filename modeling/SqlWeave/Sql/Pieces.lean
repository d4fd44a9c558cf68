import SqlWeave.Sql.Compile
import SqlWeave.Sql.Sites

/-!
# Pieces of a tree

The pieces of a tree in document order: stretches of text, and the sites
between them.  The list depends on the tree and its scope alone, not on what
was written before.  Main statements: compiling a tree is writing its pieces
one after the other, and the sites among its pieces are the sites of the tree.
-/

namespace SqlWeave

variable {Value : Type}

/-- Write what stands at a site, or fail as its fault says. -/
def Site.write : Site Value → Weave Value Unit
  | .bound value => Weave.bind value
  | .current column => Weave.selfColumn { column }
  | .enclosing table column => Weave.parentColumn { parent := table } column
  | .comparedDefault column => throw (.defaultCompared column)

/-- One piece of a tree. -/
inductive Piece (Value : Type) where
  | text (sql : String)
  | site (site : Site Value)
  deriving DecidableEq, Repr

namespace Piece

def site? : Piece Value → Option (Site Value)
  | .text _ => none
  | .site place => some place

def write : Piece Value → Weave Value Unit
  | .text sql => Weave.text sql
  | .site place => place.write

/-- Write pieces one after the other. -/
def writeAll : List (Piece Value) → Weave Value Unit
  | [] => pure ()
  | piece :: rest => do
    piece.write
    writeAll rest

def ident (name : String) : List (Piece Value) := [.text "\"", .text name, .text "\""]

def idents : List String → List (Piece Value)
  | [] => []
  | first :: rest => ident first ++ rest.flatMap fun name => .text ", " :: ident name

end Piece

mutual

def Node.pieces (scope : Scope) : Node Value → List (Piece Value)
  | .ident name => Piece.ident name
  | .param value => [.site (.bound value)]
  | .raw sql => [.text sql]
  | .default => [.text "DEFAULT"]
  | .selfColumn => [.site (.current scope.column)]
  | .parentColumn column => [.site (.enclosing scope.parent column)]
  | .columns names => Piece.idents names
  | .values cells => piecesOfValues scope "" cells
  | .fragment body => body.pieces scope
  | .seq items => piecesOfItems scope items
  | .predicate [] => [.text "TRUE"]
  | .predicate (cell :: cells) =>
    .text "(" :: piecesOfConditions scope "" (cell :: cells) ++ [.text ")"]

/-- The pieces of a cell where it is assigned. -/
def Cell.pieces (scope : Scope) : Cell Value → List (Piece Value)
  | .value value => [.site (.bound value)]
  | .default => [.text "DEFAULT"]
  | .parentColumn column => [.site (.enclosing scope.parent column)]
  | .sql body => body.pieces scope

/-- The pieces of a cell where its column is compared with it. -/
def Cell.conditionPieces (scope : Scope) (column : String) : Cell Value → List (Piece Value)
  | .value value => Piece.ident column ++ [.text " = ", .site (.bound value)]
  | .default => [.site (.comparedDefault column)]
  | .parentColumn referenced =>
    Piece.ident column ++ [.text " = ", .site (.enclosing scope.parent referenced)]
  | .sql body => .text "(" :: body.pieces scope ++ [.text ")"]

def Fragment.pieces (scope : Scope) : Fragment Value → List (Piece Value)
  | ⟨segments, last, _, parentAlias⟩ =>
    piecesOfSegments (scope.enter parentAlias) segments ++ [.text last]

def piecesOfSegments (scope : Scope) : List (String × Node Value) → List (Piece Value)
  | [] => []
  | (literal, node) :: rest => .text literal :: node.pieces scope ++ piecesOfSegments scope rest

def piecesOfItems (scope : Scope) : List (Node Value) → List (Piece Value)
  | [] => []
  | node :: rest => node.pieces scope ++ piecesOfItems scope rest

def piecesOfValues (scope : Scope) (lead : String) :
    List (String × Cell Value) → List (Piece Value)
  | [] => []
  | (column, cell) :: rest =>
    .text lead :: cell.pieces (scope.withColumn column) ++ piecesOfValues scope ", " rest

def piecesOfConditions (scope : Scope) (lead : String) :
    List (String × Cell Value) → List (Piece Value)
  | [] => []
  | (column, cell) :: rest =>
    .text lead :: cell.conditionPieces (scope.withColumn column) column ++
      piecesOfConditions scope " AND " rest

end

namespace Piece

@[simp]
theorem writeAll_nil : writeAll ([] : List (Piece Value)) = pure () := rfl

@[simp]
theorem writeAll_cons (piece : Piece Value) (rest : List (Piece Value)) :
    writeAll (piece :: rest) = (do piece.write; writeAll rest) := rfl

@[simp]
theorem writeAll_append (front back : List (Piece Value)) :
    writeAll (front ++ back) = (do writeAll front; writeAll back) := by
  induction front with
  | nil => simp
  | cons piece rest ih => simp [ih]

@[simp]
theorem writeAll_ident (name : String) :
    writeAll (ident name : List (Piece Value)) = Weave.ident name := by
  simp [ident, write, Weave.ident]

@[simp]
theorem writeAll_idents (names : List String) :
    writeAll (idents names : List (Piece Value)) = Weave.idents names := by
  have htail : ∀ rest : List String,
      writeAll (rest.flatMap fun name => Piece.text ", " :: ident name) =
        rest.forM fun name => (do Weave.text ", "; Weave.ident name : Weave Value Unit) := by
    intro rest
    induction rest with
    | nil => rfl
    | cons name rest ih => simp [ih, write]
  cases names with
  | nil => rfl
  | cons first rest => rw [idents, writeAll_append, htail, writeAll_ident, Weave.idents]

end Piece

mutual

/-- Compiling a node is writing its pieces. -/
theorem Node.weave_eq_writeAll (scope : Scope) :
    (node : Node Value) → node.weave scope = Piece.writeAll (node.pieces scope)
  | .ident name => by simp [Node.weave, Node.pieces]
  | .param value => by simp [Node.weave, Node.pieces, Piece.write, Site.write]
  | .raw sql => by simp [Node.weave, Node.pieces, Piece.write]
  | .default => by simp [Node.weave, Node.pieces, Piece.write]
  | .selfColumn => by
    simp [Node.weave, Node.pieces, Piece.write, Site.write, Weave.selfColumn]
  | .parentColumn column => by
    simp [Node.weave, Node.pieces, Piece.write, Site.write, Weave.parentColumn]
  | .columns names => by simp [Node.weave, Node.pieces]
  | .values cells => by
    rw [Node.weave, Node.pieces, weaveValues_eq_writeAll scope "" cells]
  | .fragment body => by rw [Node.weave, Node.pieces, Fragment.weave_eq_writeAll scope body]
  | .seq items => by rw [Node.weave, Node.pieces, weaveItems_eq_writeAll scope items]
  | .predicate [] => by simp [Node.weave, Node.pieces, Piece.write]
  | .predicate (cell :: cells) => by
    simp [Node.weave, Node.pieces, Piece.write,
      weaveConditions_eq_writeAll scope "" (cell :: cells)]

theorem Cell.weave_eq_writeAll (scope : Scope) :
    (cell : Cell Value) → cell.weave scope = Piece.writeAll (cell.pieces scope)
  | .value value => by simp [Cell.weave, Cell.pieces, Piece.write, Site.write]
  | .default => by simp [Cell.weave, Cell.pieces, Piece.write]
  | .parentColumn column => by
    simp [Cell.weave, Cell.pieces, Piece.write, Site.write, Weave.parentColumn]
  | .sql body => by rw [Cell.weave, Cell.pieces, Fragment.weave_eq_writeAll scope body]

theorem Cell.weaveCondition_eq_writeAll (scope : Scope) (column : String) :
    (cell : Cell Value) →
      cell.weaveCondition scope column = Piece.writeAll (cell.conditionPieces scope column)
  | .value value => by
    simp [Cell.weaveCondition, Cell.conditionPieces, Piece.write, Site.write]
  | .default => by
    simp [Cell.weaveCondition, Cell.conditionPieces, Piece.write, Site.write]
  | .parentColumn referenced => by
    simp [Cell.weaveCondition, Cell.conditionPieces, Piece.write, Site.write,
      Weave.parentColumn]
  | .sql body => by
    simp [Cell.weaveCondition, Cell.conditionPieces, Piece.write,
      Fragment.weave_eq_writeAll scope body]

/-- Compiling a fragment is writing its pieces. -/
theorem Fragment.weave_eq_writeAll (scope : Scope) :
    (fragment : Fragment Value) →
      fragment.weave scope = Piece.writeAll (fragment.pieces scope)
  | ⟨segments, last, _, parentAlias⟩ => by
    simp [Fragment.weave, Fragment.pieces, Piece.write,
      weaveSegments_eq_writeAll (scope.enter parentAlias) segments]

theorem weaveSegments_eq_writeAll (scope : Scope) :
    (segments : List (String × Node Value)) →
      weaveSegments scope segments = Piece.writeAll (piecesOfSegments scope segments)
  | [] => by simp [weaveSegments, piecesOfSegments]
  | (literal, node) :: rest => by
    simp [weaveSegments, piecesOfSegments, Piece.write, Node.weave_eq_writeAll scope node,
      weaveSegments_eq_writeAll scope rest]

theorem weaveItems_eq_writeAll (scope : Scope) :
    (items : List (Node Value)) →
      weaveItems scope items = Piece.writeAll (piecesOfItems scope items)
  | [] => by simp [weaveItems, piecesOfItems]
  | node :: rest => by
    simp [weaveItems, piecesOfItems, Node.weave_eq_writeAll scope node,
      weaveItems_eq_writeAll scope rest]

theorem weaveValues_eq_writeAll (scope : Scope) (lead : String) :
    (cells : List (String × Cell Value)) →
      weaveValues scope lead cells = Piece.writeAll (piecesOfValues scope lead cells)
  | [] => by simp [weaveValues, piecesOfValues]
  | (column, cell) :: rest => by
    simp [weaveValues, piecesOfValues, Piece.write,
      Cell.weave_eq_writeAll (scope.withColumn column) cell,
      weaveValues_eq_writeAll scope ", " rest]

theorem weaveConditions_eq_writeAll (scope : Scope) (lead : String) :
    (cells : List (String × Cell Value)) →
      weaveConditions scope lead cells = Piece.writeAll (piecesOfConditions scope lead cells)
  | [] => by simp [weaveConditions, piecesOfConditions]
  | (column, cell) :: rest => by
    simp [weaveConditions, piecesOfConditions, Piece.write,
      Cell.weaveCondition_eq_writeAll (scope.withColumn column) column cell,
      weaveConditions_eq_writeAll scope " AND " rest]

end

namespace Piece

def sites (pieces : List (Piece Value)) : List (Site Value) := pieces.filterMap site?

@[simp]
theorem sites_nil : sites ([] : List (Piece Value)) = [] := rfl

@[simp]
theorem sites_text (sql : String) (rest : List (Piece Value)) :
    sites (.text sql :: rest) = sites rest := rfl

@[simp]
theorem sites_site (place : Site Value) (rest : List (Piece Value)) :
    sites (.site place :: rest) = place :: sites rest := rfl

@[simp]
theorem sites_append (front back : List (Piece Value)) :
    sites (front ++ back) = sites front ++ sites back :=
  List.filterMap_append

@[simp]
theorem sites_ident (name : String) : sites (ident name : List (Piece Value)) = [] := rfl

@[simp]
theorem sites_idents (names : List String) : sites (idents names : List (Piece Value)) = [] := by
  cases names with
  | nil => rfl
  | cons first rest =>
      rw [idents, sites_append, sites_ident, List.nil_append]
      induction rest with
      | nil => rfl
      | cons name rest ih => simpa using ih

end Piece

mutual

/-- The sites among the pieces of a node are the sites of the node. -/
@[simp]
theorem Node.sites_pieces (scope : Scope) :
    (node : Node Value) → Piece.sites (node.pieces scope) = node.sites scope
  | .ident name => by simp [Node.pieces, Node.sites]
  | .param value => by simp [Node.pieces, Node.sites]
  | .raw sql => by simp [Node.pieces, Node.sites]
  | .default => by simp [Node.pieces, Node.sites]
  | .selfColumn => by simp [Node.pieces, Node.sites]
  | .parentColumn column => by simp [Node.pieces, Node.sites]
  | .columns names => by simp [Node.pieces, Node.sites]
  | .values cells => by rw [Node.pieces, Node.sites, sites_piecesOfValues scope "" cells]
  | .fragment body => by rw [Node.pieces, Node.sites, Fragment.sites_pieces scope body]
  | .seq items => by rw [Node.pieces, Node.sites, sites_piecesOfItems scope items]
  | .predicate [] => by simp [Node.pieces, Node.sites, sitesOfConditions]
  | .predicate (cell :: cells) => by
    simp [Node.pieces, Node.sites, sites_piecesOfConditions scope "" (cell :: cells)]

theorem Cell.sites_pieces (scope : Scope) :
    (cell : Cell Value) → Piece.sites (cell.pieces scope) = cell.sites scope
  | .value value => by simp [Cell.pieces, Cell.sites]
  | .default => by simp [Cell.pieces, Cell.sites]
  | .parentColumn column => by simp [Cell.pieces, Cell.sites]
  | .sql body => by rw [Cell.pieces, Cell.sites, Fragment.sites_pieces scope body]

theorem Cell.sites_conditionPieces (scope : Scope) (column : String) :
    (cell : Cell Value) →
      Piece.sites (cell.conditionPieces scope column) = cell.conditionSites scope column
  | .value value => by simp [Cell.conditionPieces, Cell.conditionSites]
  | .default => by simp [Cell.conditionPieces, Cell.conditionSites]
  | .parentColumn referenced => by simp [Cell.conditionPieces, Cell.conditionSites]
  | .sql body => by
    simp [Cell.conditionPieces, Cell.conditionSites, Fragment.sites_pieces scope body]

/-- The sites among the pieces of a fragment are the sites of the fragment. -/
@[simp]
theorem Fragment.sites_pieces (scope : Scope) :
    (fragment : Fragment Value) →
      Piece.sites (fragment.pieces scope) = fragment.sites scope
  | ⟨segments, last, _, parentAlias⟩ => by
    simp [Fragment.pieces, Fragment.sites,
      sites_piecesOfSegments (scope.enter parentAlias) segments]

theorem sites_piecesOfSegments (scope : Scope) :
    (segments : List (String × Node Value)) →
      Piece.sites (piecesOfSegments scope segments) = sitesOfSegments scope segments
  | [] => by simp [piecesOfSegments, sitesOfSegments]
  | (literal, node) :: rest => by
    simp [piecesOfSegments, sitesOfSegments, Node.sites_pieces scope node,
      sites_piecesOfSegments scope rest]

theorem sites_piecesOfItems (scope : Scope) :
    (items : List (Node Value)) →
      Piece.sites (piecesOfItems scope items) = sitesOfItems scope items
  | [] => by simp [piecesOfItems, sitesOfItems]
  | node :: rest => by
    simp [piecesOfItems, sitesOfItems, Node.sites_pieces scope node,
      sites_piecesOfItems scope rest]

theorem sites_piecesOfValues (scope : Scope) (lead : String) :
    (cells : List (String × Cell Value)) →
      Piece.sites (piecesOfValues scope lead cells) = sitesOfValues scope cells
  | [] => by simp [piecesOfValues, sitesOfValues]
  | (column, cell) :: rest => by
    simp [piecesOfValues, sitesOfValues, Cell.sites_pieces (scope.withColumn column) cell,
      sites_piecesOfValues scope ", " rest]

theorem sites_piecesOfConditions (scope : Scope) (lead : String) :
    (cells : List (String × Cell Value)) →
      Piece.sites (piecesOfConditions scope lead cells) = sitesOfConditions scope cells
  | [] => by simp [piecesOfConditions, sitesOfConditions]
  | (column, cell) :: rest => by
    simp [piecesOfConditions, sitesOfConditions,
      Cell.sites_conditionPieces (scope.withColumn column) column cell,
      sites_piecesOfConditions scope " AND " rest]

end

end SqlWeave
