import SqlWeave.Sql.Record

/-!
# Conditions and filters

Which rows a statement touches.  Statements that write need a condition, and
an empty record is the explicit way to say "every row"; statements that only
read may also go without one.
-/

namespace SqlWeave.Query

variable {Value : Type}

/-- A row condition that cannot be left out. -/
inductive Condition (Value : Type) where
  /-- Every column of the record equals its cell. -/
  | matching (record : Record Value)
  /-- Whatever the fragment says. -/
  | sql (fragment : Fragment Value)

def Condition.node : Condition Value → Node Value
  | .matching record => .matching record
  | .sql fragment => .fragment fragment

/-- Which rows are read. -/
inductive Filter (Value : Type) where
  /-- All of them, without a `WHERE` clause. -/
  | all
  /-- Those that meet a condition. -/
  | only (condition : Condition Value)

end SqlWeave.Query
