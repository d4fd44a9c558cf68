/-!
# Statement trees

A statement is literal SQL text interleaved with typed nodes.  Names, bound
values, column references and records stay nodes until the statement is
compiled, so a value is never spliced into the text.  The trees are parametric
in the type of bound values: nothing below can look at one.
-/

namespace SqlWeave

/-- How the rows of an executed statement become one JSON value. -/
inductive ResultShape where
  /-- Every row's result, as an array. -/
  | all
  /-- The first row's result, or null when there are no rows. -/
  | first
  /-- The first row's number, or zero when there are no rows. -/
  | count
  deriving DecidableEq, Repr, Inhabited

mutual

/-- One typed expression between the literal texts of a fragment. -/
inductive Node (Value : Type) where
  /-- A table or column name, written between double quotes and not escaped. -/
  | ident (name : String)
  /-- A bound value, written as the next placeholder. -/
  | param (value : Value)
  /-- Trusted SQL, written as it stands. -/
  | raw (sql : String)
  /-- The keyword for a column's default. -/
  | default
  /-- The column that is being assigned or compared. -/
  | selfColumn
  /-- A column of the enclosing query's row. -/
  | parentColumn (column : String)
  /-- Quoted column names, separated by commas. -/
  | columns (names : List String)
  /-- The cells of a record, separated by commas. -/
  | values (cells : List (String × Cell Value))
  /-- A nested fragment. -/
  | fragment (body : Fragment Value)
  /-- Nodes one after the other with nothing in between. -/
  | seq (items : List (Node Value))
  /-- A record read as a conjunction of conditions, one per column. -/
  | predicate (cells : List (String × Cell Value))

/-- What a record holds under one column. -/
inductive Cell (Value : Type) where
  /-- A plain value, bound as a parameter. -/
  | value (value : Value)
  /-- The column's default. -/
  | default
  /-- A column of the enclosing query's row. -/
  | parentColumn (column : String)
  /-- A fragment in which the cell's own column is the current one. -/
  | sql (body : Fragment Value)

/-- Literal texts and the nodes between them.

Each node is kept with the literal before it and the literal after the last
node stands alone, so there is one more literal than there are nodes whatever
is built. -/
structure Fragment (Value : Type) where
  /-- Every node with the literal text before it. -/
  segments : List (String × Node Value)
  /-- The literal text after the last node. -/
  last : String
  /-- How executed rows become the result. -/
  shape : ResultShape
  /-- The table alias that parent references inside resolve to, if it is set here. -/
  parentAlias : Option String

end

end SqlWeave
