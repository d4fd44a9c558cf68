import SqlWeave.Query.Projection
import SqlWeave.Sql.Fragment

/-!
# Lateral sub-selects

Each keyed sub-select is joined to every row of the enclosing query, and its
result is merged into the row's object under its key.  The filter of a
sub-select is inside the join, so a row is never dropped for lack of a match.
Parent references inside a sub-select resolve to the enclosing query's table
reference, and every join opens a scope of its own.
-/

namespace SqlWeave.Query

variable {Value : Type}

/-- The alias under which the sub-select of a key is joined. -/
def lateralAlias (key : String) : String := "lateral_" ++ key

def lateralResult (key : String) : Node Value :=
  .seq [.ident (lateralAlias key), .raw ".result"]

/-- Merge the result of every sub-select under its key. -/
def mergeLaterals (subselects : KeyMap (Fragment Value)) : Node Value :=
  jsonMerge (subselects.keys.map fun key => (key, lateralResult key))

/-- Join one sub-select to the rows of a table reference. -/
def joinLateral (tableRef key : String) (subselect : Fragment Value) : Node Value :=
  .seq [.raw " LEFT JOIN LATERAL (", .fragment (subselect.withParentAlias tableRef),
    .raw ") AS ", .ident (lateralAlias key), .raw " ON true"]

/-- Join every sub-select, in ascending order of the keys. -/
def joinLaterals (tableRef : String) (subselects : KeyMap (Fragment Value)) : Node Value :=
  .seq (subselects.toList.map fun entry => joinLateral tableRef entry.1 entry.2)

end SqlWeave.Query
