import SqlWeave.Proofs.BatchRows
import SqlWeave.Proofs.Parentheses

/-!
# Parts of a call

What the statement of a call is made from: names, and the fragments and nodes
that the caller gave, each in the scope where it stands in the statement.  Some
of what a statement is made from stands there between parentheses.
-/

namespace SqlWeave

variable {Value : Type}

/-- A node that is put into a statement, with the scope in which it stands there. -/
structure Part (Value : Type) where
  scope : Scope
  node : Node Value

namespace Part

def weave (part : Part Value) : Weave Value Unit := part.node.weave part.scope

def reading (part : Part Value) : Reading Value := part.node.reading part.scope

theorem writes_weave (part : Part Value) : part.weave.Writes part.reading :=
  part.node.writes_weave part.scope

/-- A part whose text is balanced whenever it can be written. -/
def Balanced (part : Part Value) : Prop :=
  ∀ reached, part.weave.run {} = .ok () reached → SqlWeave.Balanced reached.text

instance : DecidablePred (Balanced : Part Value → Prop) := fun part =>
  match hrun : part.weave.run {} with
  | .ok _ reached =>
    decidable_of_iff (SqlWeave.Balanced reached.text)
      ⟨fun hreached _ hother => by cases hrun.symm.trans hother; exact hreached,
        fun hpart => hpart reached hrun⟩
  | .error _ _ => .isTrue fun _ hother => by cases hrun.symm.trans hother

/-- The text of a part is balanced behind every statement if it is so alone. -/
theorem Balanced.reading {part : Part Value} (hpart : part.Balanced) : part.reading.Balanced := by
  intro hfault bound
  have halone := hpart _ (part.writes_weave.run {} hfault)
  rw [Compiled.followedBy, String.empty_append, balanced_iff_nest] at halone
  rw [balanced_iff_nest, ← halone]
  exact Piece.nest_render 0 bound _ (part.node.pieces part.scope)

end Part

/-- The fragments in a cell, which is in a scope of its own. -/
def Cell.parts (scope : Scope) : Cell Value → List (Part Value)
  | .sql body => [⟨scope, .fragment body⟩]
  | .value _ | .default | .parentColumn _ => []

/-- The names in a cell. -/
def Cell.names : Cell Value → List String
  | .parentColumn column => [column]
  | .value _ | .default | .sql _ => []

def Record.parts (scope : Scope) (record : Record Value) : List (Part Value) :=
  record.toList.flatMap fun entry => entry.2.parts (scope.withColumn entry.1)

def Record.names (record : Record Value) : List String :=
  record.toList.flatMap fun entry => entry.1 :: entry.2.names

namespace Query

namespace Condition

def parts (scope : Scope) : Condition Value → List (Part Value)
  | .matching record => Record.parts scope record
  | .sql body => [⟨scope, .fragment body⟩]

def names : Condition Value → List String
  | .matching record => Record.names record
  | .sql _ => []

/-- The parts that stand between parentheses: cells, but not a whole condition. -/
def enclosed (scope : Scope) : Condition Value → List (Part Value)
  | .matching record => Record.parts scope record
  | .sql _ => []

end Condition

namespace Filter

def parts (scope : Scope) : Filter Value → List (Part Value)
  | .all => []
  | .only condition => condition.parts scope

def names : Filter Value → List String
  | .all => []
  | .only condition => condition.names

def enclosed (scope : Scope) : Filter Value → List (Part Value)
  | .all => []
  | .only condition => condition.enclosed scope

end Filter

def extraParts (scope : Scope) (extras : KeyMap (Fragment Value)) : List (Part Value) :=
  extras.toList.map fun entry => ⟨scope, .fragment entry.2⟩

/-- Sub-selects stand under the table reference they are joined to. -/
def joinedParts (scope : Scope) (tableRef : String) (subselects : KeyMap (Fragment Value)) :
    List (Part Value) :=
  subselects.toList.map fun entry => ⟨scope, .fragment (entry.2.withParentAlias tableRef)⟩

def orderParts (scope : Scope) (order : List (OrderItem Value)) : List (Part Value) :=
  order.map fun item => ⟨scope, item.expression⟩

/-- The parts of a query over rows; a count has a filter only. -/
def rowsParts (scope : Scope) (tableRef : String) (filter : Filter Value)
    (options : SelectOptions Value) : SelectMode → List (Part Value)
  | .count => filter.parts scope
  | .many | .one =>
    extraParts scope options.extras ++ joinedParts scope tableRef options.laterals ++
      filter.parts scope ++ orderParts scope options.order

/-- The parts between parentheses in a query over rows, in the order of the statement. -/
def rowsEnclosed (scope : Scope) (tableRef : String) (filter : Filter Value)
    (options : SelectOptions Value) : SelectMode → List (Part Value)
  | .count => filter.enclosed scope
  | .many | .one => joinedParts scope tableRef options.laterals ++ filter.enclosed scope

def SelectOptions.names (options : SelectOptions Value) : List String :=
  options.columns.getD [] ++ options.extras.keys ++ options.laterals.keys ++
    options.tableAlias.toList

/-- The tuples of an insert. -/
def TupleSource.enclosed (scope : Scope) : TupleSource Value → List (Part Value)
  | .tuples _ rows => rows.map fun row => ⟨scope, .valuesOf row⟩
  | .nothing | .defaults _ => []

namespace Call

/-- The names of a call: tables, aliases, columns and keys. -/
def names : Call Value → List String
  | .insert table rows => table :: rows.records.flatMap Record.names
  | .upsert table rows uniqueColumns _ =>
    table :: uniqueColumns ++ rows.records.flatMap Record.names
  | .update table values condition => table :: Record.names values ++ condition.names
  | .delete table condition => table :: condition.names
  | .truncate tables _ => tables
  | .selectMode table filter options _ | .select table filter options
  | .selectOne table filter options => table :: filter.names ++ options.names
  | .count table filter options =>
    table :: filter.names ++ (options.toSelect : SelectOptions Value).names

/-- The fragments and nodes that the caller gave, where they stand in the statement. -/
def parts (scope : Scope) : Call Value → List (Part Value)
  | .insert _ rows | .upsert _ rows _ _ => rows.records.flatMap (Record.parts scope)
  | .update _ values condition => Record.parts scope values ++ condition.parts scope
  | .delete _ condition => condition.parts scope
  | .truncate _ _ => []
  | .selectMode table filter options mode =>
    rowsParts scope (options.tableRef table) filter options mode
  | .select table filter options => rowsParts scope (options.tableRef table) filter options .many
  | .selectOne table filter options => rowsParts scope (options.tableRef table) filter options .one
  | .count _ filter _ => filter.parts scope

/-- What the statement puts between parentheses, in the order of the opening ones: tuples of
values, the cells of conditions, sub-selects, and the rows of an aggregated select. -/
def enclosed (scope : Scope) : Call Value → List (Part Value)
  | .insert _ rows | .upsert _ rows _ _ => rows.source.enclosed scope
  | .update _ values condition =>
    (if values.isEmpty then [] else [⟨scope, .valuesOf values⟩]) ++ condition.enclosed scope
  | .delete _ condition => condition.enclosed scope
  | .truncate _ _ => []
  | .selectMode table filter options .many | .select table filter options =>
    ⟨scope, .fragment (selectRows table filter options .many)⟩ ::
      rowsEnclosed scope (options.tableRef table) filter options .many
  | .selectMode table filter options .one | .selectOne table filter options =>
    rowsEnclosed scope (options.tableRef table) filter options .one
  | .selectMode _ filter _ .count | .count _ filter _ => filter.enclosed scope

end Call

end Query

end SqlWeave
