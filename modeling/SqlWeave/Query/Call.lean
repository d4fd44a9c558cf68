import SqlWeave.Query.Insert
import SqlWeave.Query.Select
import SqlWeave.Query.Truncate
import SqlWeave.Query.Update

/-!
# Calls

A ready-made statement that is asked for, with everything it is made from.
What holds of every such statement is stated once, of the statement of a call.
-/

namespace SqlWeave.Query

/-- A ready-made statement and its arguments. -/
inductive Call (Value : Type) where
  | insert (table : String) (rows : Rows Value)
  | upsert (table : String) (rows : Rows Value) (uniqueColumns noNull : List String)
  | update (table : String) (values : Record Value) (condition : Condition Value)
  | delete (table : String) (condition : Condition Value)
  | truncate (tables : List String) (options : TruncateOptions)
  | selectMode (table : String) (filter : Filter Value) (options : SelectOptions Value)
      (mode : SelectMode)
  | select (table : String) (filter : Filter Value) (options : SelectOptions Value)
  | selectOne (table : String) (filter : Filter Value) (options : SelectOptions Value)
  | count (table : String) (filter : Filter Value) (options : CountOptions)

def Call.statement {Value : Type} : Call Value → Fragment Value
  | .insert table rows => Query.insert table rows
  | .upsert table rows uniqueColumns noNull => Query.upsert table rows uniqueColumns noNull
  | .update table values condition => Query.update table values condition
  | .delete table condition => Query.delete table condition
  | .truncate tables options => Query.truncate tables options
  | .selectMode table filter options mode => Query.selectMode table filter options mode
  | .select table filter options => Query.select table filter options
  | .selectOne table filter options => Query.selectOne table filter options
  | .count table filter options => Query.count table filter options

end SqlWeave.Query
