import SqlWeave.Query.Condition
import SqlWeave.Query.Projection
import SqlWeave.Sql.Fragment

/-!
# Update and delete

Both statements take a condition that cannot be left out, and both return the
rows they touched.
-/

namespace SqlWeave.Query

variable {Value : Type}

/-- The rows that meet a condition, read and not written. -/
def readMatching (table : String) (condition : Condition Value) : Fragment Value :=
  let projected := (Fragment.ofText "SELECT ").pushNode (rowJson table)
  (((projected.push " AS result FROM ").pushIdent table).push " WHERE ").pushNode condition.node

/-- Set columns of the rows that meet a condition.

A cell that is a fragment sees its own column as the self reference.  Without
values nothing is written and the matching rows are returned. -/
def update (table : String) (values : Record Value) (condition : Condition Value) :
    Fragment Value :=
  if values.isEmpty then (readMatching table condition).withShape .all
  else
    let target := ((Fragment.ofText "UPDATE ").pushIdent table).push " SET ("
    let assigned := ((target.pushColumns values).push ") = ROW(").pushValues values
    let matched := (assigned.push ") WHERE ").pushNode condition.node
    (((matched.push " RETURNING ").pushNode (rowJson table)).push " AS result").withShape .all

def delete (table : String) (condition : Condition Value) : Fragment Value :=
  let target := ((Fragment.ofText "DELETE FROM ").pushIdent table).push " WHERE "
  let matched := (target.pushNode condition.node).push " RETURNING "
  ((matched.pushNode (rowJson table)).push " AS result").withShape .all

end SqlWeave.Query
