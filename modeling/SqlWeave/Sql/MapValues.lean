import SqlWeave.KeyMap.Lemmas
import SqlWeave.Sql.Fragment

/-!
# Replacing bound values

A tree with every bound value replaced by a function of it.  All that is built
from trees comes out the same whether the values are replaced before it is
built or afterwards.
-/

namespace SqlWeave

variable {Value Image : Type}

mutual

/-- Replace every value that a node binds. -/
def Node.map (change : Value → Image) : Node Value → Node Image
  | .ident name => .ident name
  | .param value => .param (change value)
  | .raw sql => .raw sql
  | .default => .default
  | .selfColumn => .selfColumn
  | .parentColumn column => .parentColumn column
  | .columns names => .columns names
  | .values cells => .values (mapCells change cells)
  | .fragment body => .fragment (body.map change)
  | .seq items => .seq (mapItems change items)
  | .predicate cells => .predicate (mapCells change cells)

def Cell.map (change : Value → Image) : Cell Value → Cell Image
  | .value value => .value (change value)
  | .default => .default
  | .parentColumn column => .parentColumn column
  | .sql body => .sql (body.map change)

/-- Replace every value that a fragment binds. -/
def Fragment.map (change : Value → Image) : Fragment Value → Fragment Image
  | ⟨segments, last, shape, parentAlias⟩ =>
    ⟨mapSegments change segments, last, shape, parentAlias⟩

def mapSegments (change : Value → Image) : List (String × Node Value) → List (String × Node Image)
  | [] => []
  | (literal, node) :: rest => (literal, node.map change) :: mapSegments change rest

def mapItems (change : Value → Image) : List (Node Value) → List (Node Image)
  | [] => []
  | node :: rest => node.map change :: mapItems change rest

def mapCells (change : Value → Image) : List (String × Cell Value) → List (String × Cell Image)
  | [] => []
  | (column, cell) :: rest => (column, cell.map change) :: mapCells change rest

end

/-- Replace every value that a record binds. -/
def Record.map (change : Value → Image) (record : Record Value) : Record Image :=
  record.mapEntries fun _ cell => cell.map change

theorem mapSegments_eq_map (change : Value → Image) (segments : List (String × Node Value)) :
    mapSegments change segments = segments.map fun segment =>
      (segment.1, segment.2.map change) := by
  induction segments with
  | nil => rfl
  | cons segment rest ih => rw [mapSegments, ih, List.map_cons]

theorem mapItems_eq_map (change : Value → Image) (items : List (Node Value)) :
    mapItems change items = items.map fun node => node.map change := by
  induction items with
  | nil => rfl
  | cons node rest ih => rw [mapItems, ih, List.map_cons]

theorem mapCells_eq_map (change : Value → Image) (cells : List (String × Cell Value)) :
    mapCells change cells = cells.map fun entry => (entry.1, entry.2.map change) := by
  induction cells with
  | nil => rfl
  | cons entry rest ih => rw [mapCells, ih, List.map_cons]

namespace Record

@[simp]
theorem columns_map (change : Value → Image) (record : Record Value) :
    (record.map change).columns = record.columns :=
  KeyMap.keys_mapEntries record _

@[simp]
theorem isEmpty_map (change : Value → Image) (record : Record Value) :
    KeyMap.isEmpty (record.map change) = KeyMap.isEmpty record :=
  KeyMap.isEmpty_mapEntries record _

end Record

namespace Node

variable (change : Value → Image)

@[simp]
theorem map_ident (name : String) : (ident name : Node Value).map change = ident name := by
  rw [map]

@[simp]
theorem map_raw (sql : String) : (raw sql : Node Value).map change = raw sql := by rw [map]

@[simp]
theorem map_columns (names : List String) :
    (columns names : Node Value).map change = columns names := by rw [map]

@[simp]
theorem map_fragment (body : Fragment Value) :
    (fragment body).map change = fragment (body.map change) := by rw [map]

@[simp]
theorem map_seq (items : List (Node Value)) :
    (seq items).map change = seq (items.map fun node => node.map change) := by
  rw [map, mapItems_eq_map]

@[simp]
theorem map_empty : (empty : Node Value).map change = empty := by rw [empty, map_seq]; rfl

@[simp]
theorem map_columnsOf (record : Record Value) :
    (columnsOf record).map change = columnsOf (record.map change) := by
  rw [columnsOf, columnsOf, map_columns, Record.columns_map]

@[simp]
theorem map_valuesOf (record : Record Value) :
    (valuesOf record).map change = valuesOf (record.map change) := by
  rw [valuesOf, valuesOf, map, mapCells_eq_map]
  rfl

@[simp]
theorem map_matching (record : Record Value) :
    (matching record).map change = matching (record.map change) := by
  rw [matching, matching, map, mapCells_eq_map]
  rfl

@[simp]
theorem map_join (items : List (Node Value)) (separator : String) :
    (join items separator).map change =
      join (items.map fun node => node.map change) separator := by
  rw [join, join, map_seq]
  congr 1
  induction items with
  | nil => rfl
  | cons first rest ih =>
      cases rest with
      | nil => rfl
      | cons second rest =>
          rw [List.intersperse_cons_cons, List.map_cons, List.map_cons, ih, map_raw]
          rfl

end Node

namespace Fragment

variable (change : Value → Image)

@[simp]
theorem map_ofText (sql : String) : (ofText sql : Fragment Value).map change = ofText sql := rfl

@[simp]
theorem map_push (fragment : Fragment Value) (sql : String) :
    (fragment.push sql).map change = (fragment.map change).push sql := by
  cases fragment
  rfl

@[simp]
theorem map_pushNode (fragment : Fragment Value) (node : Node Value) :
    (fragment.pushNode node).map change = (fragment.map change).pushNode (node.map change) := by
  cases fragment
  simp [pushNode, map, mapSegments_eq_map]

@[simp]
theorem map_withShape (fragment : Fragment Value) (shape : ResultShape) :
    (fragment.withShape shape).map change = (fragment.map change).withShape shape := by
  cases fragment
  rfl

@[simp]
theorem map_withParentAlias (fragment : Fragment Value) (tableAlias : String) :
    (fragment.withParentAlias tableAlias).map change =
      (fragment.map change).withParentAlias tableAlias := by
  cases fragment
  rfl

end Fragment

end SqlWeave
