import SqlWeave.Sql.Fault
import SqlWeave.Sql.Scope
import SqlWeave.Sql.Tree

/-!
# Sites of a tree

What a tree holds besides text, in document order: bound values, references,
and defaults that are compared.  A reference carries the name that its
surroundings give it, so the sites say what every reference resolves to and
which places of a tree cannot be written, without a word of the statement text.
-/

namespace SqlWeave

/-- A place of a tree that is not text. -/
inductive Site (Value : Type) where
  /-- A bound value. -/
  | bound (value : Value)
  /-- A self reference, with the column that is current there. -/
  | current (column : Option String)
  /-- A parent reference, with the table that encloses it. -/
  | enclosing (table : Option String) (column : String)
  /-- A default where its column is compared. -/
  | comparedDefault (column : String)
  deriving DecidableEq, Repr

namespace Site

variable {Value : Type}

def value? : Site Value → Option Value
  | .bound value => some value
  | .current _ | .enclosing _ _ | .comparedDefault _ => none

/-- The table and column of a parent reference. -/
def reference? : Site Value → Option (Option String × String)
  | .enclosing table column => some (table, column)
  | .bound _ | .current _ | .comparedDefault _ => none

/-- What is wrong with a site that cannot be written. -/
def fault? : Site Value → Option TreeFault
  | .current none => some .selfOutsideColumn
  | .enclosing none column => some (.parentOutsideLateral column)
  | .comparedDefault column => some (.defaultCompared column)
  | .bound _ | .current (some _) | .enclosing (some _) _ => none

end Site

variable {Value : Type}

mutual

def Node.sites (scope : Scope) : Node Value → List (Site Value)
  | .ident _ | .raw _ | .default | .columns _ => []
  | .param value => [.bound value]
  | .selfColumn => [.current scope.column]
  | .parentColumn column => [.enclosing scope.parent column]
  | .values cells => sitesOfValues scope cells
  | .fragment body => body.sites scope
  | .seq items => sitesOfItems scope items
  | .predicate cells => sitesOfConditions scope cells

/-- The sites of a cell where it is assigned. -/
def Cell.sites (scope : Scope) : Cell Value → List (Site Value)
  | .value value => [.bound value]
  | .default => []
  | .parentColumn column => [.enclosing scope.parent column]
  | .sql body => body.sites scope

/-- The sites of a cell where its column is compared with it. -/
def Cell.conditionSites (scope : Scope) (column : String) : Cell Value → List (Site Value)
  | .value value => [.bound value]
  | .default => [.comparedDefault column]
  | .parentColumn referenced => [.enclosing scope.parent referenced]
  | .sql body => body.sites scope

/-- The sites of a fragment, whose own alias replaces the inherited one. -/
def Fragment.sites (scope : Scope) : Fragment Value → List (Site Value)
  | ⟨segments, _, _, parentAlias⟩ => sitesOfSegments (scope.enter parentAlias) segments

def sitesOfSegments (scope : Scope) : List (String × Node Value) → List (Site Value)
  | [] => []
  | (_, node) :: rest => node.sites scope ++ sitesOfSegments scope rest

def sitesOfItems (scope : Scope) : List (Node Value) → List (Site Value)
  | [] => []
  | node :: rest => node.sites scope ++ sitesOfItems scope rest

/-- The sites of assigned cells; in each of them its own column is current. -/
def sitesOfValues (scope : Scope) : List (String × Cell Value) → List (Site Value)
  | [] => []
  | (column, cell) :: rest =>
    cell.sites (scope.withColumn column) ++ sitesOfValues scope rest

def sitesOfConditions (scope : Scope) : List (String × Cell Value) → List (Site Value)
  | [] => []
  | (column, cell) :: rest =>
    cell.conditionSites (scope.withColumn column) column ++ sitesOfConditions scope rest

end

theorem sitesOfSegments_eq_flatMap (scope : Scope) (segments : List (String × Node Value)) :
    sitesOfSegments scope segments = segments.flatMap fun segment => segment.2.sites scope := by
  induction segments with
  | nil => rfl
  | cons segment rest ih => rw [sitesOfSegments, ih, List.flatMap_cons]

theorem sitesOfItems_eq_flatMap (scope : Scope) (items : List (Node Value)) :
    sitesOfItems scope items = items.flatMap fun node => node.sites scope := by
  induction items with
  | nil => rfl
  | cons node rest ih => rw [sitesOfItems, ih, List.flatMap_cons]

theorem sitesOfValues_eq_flatMap (scope : Scope) (cells : List (String × Cell Value)) :
    sitesOfValues scope cells =
      cells.flatMap fun entry => entry.2.sites (scope.withColumn entry.1) := by
  induction cells with
  | nil => rfl
  | cons entry rest ih => rw [sitesOfValues, ih, List.flatMap_cons]

theorem sitesOfConditions_eq_flatMap (scope : Scope) (cells : List (String × Cell Value)) :
    sitesOfConditions scope cells =
      cells.flatMap fun entry => entry.2.conditionSites (scope.withColumn entry.1) entry.1 := by
  induction cells with
  | nil => rfl
  | cons entry rest ih => rw [sitesOfConditions, ih, List.flatMap_cons]

namespace Site

/-- What a site becomes where its tree stands in a scope: a name that the tree
leaves open is taken from there. -/
def within (scope : Scope) : Site Value → Site Value
  | .bound value => .bound value
  | .current column => .current (column.or scope.column)
  | .enclosing table column => .enclosing (table.or scope.parent) column
  | .comparedDefault column => .comparedDefault column

/-- A column that a record makes current hides the one around the record. -/
theorem within_withColumn (scope : Scope) (column : String) (place : Site Value) :
    (place.within (Scope.root.withColumn column)).within scope =
      place.within (scope.withColumn column) := by
  cases place with
  | bound _ | comparedDefault _ => rfl
  | current current => cases current <;> rfl
  | enclosing table _ => cases table <;> rfl

/-- An alias that a fragment has hides the one around the fragment. -/
theorem within_enter (scope : Scope) (parentAlias : Option String) (place : Site Value) :
    (place.within (Scope.root.enter parentAlias)).within scope =
      place.within (scope.enter parentAlias) := by
  cases place with
  | bound _ | comparedDefault _ => rfl
  | current current => cases current <;> cases parentAlias <;> rfl
  | enclosing table _ => cases table <;> cases parentAlias <;> rfl

end Site

end SqlWeave
