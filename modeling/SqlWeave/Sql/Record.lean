import SqlWeave.KeyMap
import SqlWeave.Sql.Tree

/-!
# Records

A record holds one cell per column.  Its columns ascend, so a column list and
the value list made from one record always line up, and two records with the
same cells are the same record.
-/

namespace SqlWeave

/-- One cell per column, in ascending order of the columns. -/
abbrev Record (Value : Type) := KeyMap (Cell Value)

namespace Record

variable {Value : Type}

def set (record : Record Value) (column : String) (cell : Cell Value) : Record Value :=
  record.insert column cell

def setDefault (record : Record Value) (column : String) : Record Value :=
  record.set column .default

/-- Set a column, and hand back the cell that stood there before. -/
def replace (record : Record Value) (column : String) (cell : Cell Value) :
    Option (Cell Value) × Record Value :=
  (record.get? column, record.set column cell)

def columns (record : Record Value) : List String := KeyMap.keys record

end Record

namespace Node

variable {Value : Type}

def columnsOf (record : Record Value) : Node Value := .columns record.columns

/-- The values of a record, in the order of its columns. -/
def valuesOf (record : Record Value) : Node Value := .values record.toList

/-- A record as a condition: every column equals its cell. -/
def matching (record : Record Value) : Node Value := .predicate record.toList

/-- Nodes with a raw separator between each two neighbours. -/
def join (items : List (Node Value)) (separator : String) : Node Value :=
  .seq (items.intersperse (.raw separator))

/-- The sequence without items, which compiles to nothing. -/
def empty : Node Value := .seq []

end Node

end SqlWeave
