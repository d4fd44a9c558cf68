import SqlWeave.Sql.Record

/-!
# Projections

Expressions that the ready-made statements put between `SELECT` or
`RETURNING` and the result column: qualified columns, a whole row as JSON, and
JSON objects built from keyed expressions.
-/

namespace SqlWeave.Query

variable {Value : Type}

def qualified (table column : String) : Node Value :=
  .seq [.ident table, .raw ".", .ident column]

/-- The whole row of a table as a JSON object. -/
def rowJson (table : String) : Node Value :=
  .seq [.raw "to_jsonb(", .ident table, .raw ".*)"]

/-- One key of a JSON object with the expression of its value. -/
def jsonPair (key : String) (expression : Node Value) : Node Value :=
  .seq [.raw ("'" ++ key ++ "', "), expression]

/-- A JSON object with the given keys and expressions, in the given order. -/
def jsonObject (pairs : List (String × Node Value)) : Node Value :=
  .seq [.raw "jsonb_build_object(",
    .join (pairs.map fun pair => jsonPair pair.1 pair.2) ", ",
    .raw ")"]

/-- The object of the given keys merged into the object before it, or nothing without keys. -/
def jsonMerge : List (String × Node Value) → Node Value
  | [] => .empty
  | pair :: pairs => .seq [.raw " || ", jsonObject (pair :: pairs)]

end SqlWeave.Query
