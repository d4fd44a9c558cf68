/-!
# Scopes

What a self reference and a parent reference stand for at a point of a tree.
A record rebinds the column for each of its cells; a fragment with an alias of
its own rebinds the parent for everything inside it.
-/

namespace SqlWeave

/-- The names that references resolve to. -/
structure Scope where
  /-- The column that is being assigned or compared. -/
  column : Option String := none
  /-- The table alias of the enclosing query. -/
  parent : Option String := none
  deriving DecidableEq, Repr, Inhabited

namespace Scope

/-- The scope of a whole statement, where no reference resolves. -/
def root : Scope := {}

def withColumn (scope : Scope) (column : String) : Scope :=
  { scope with column := some column }

/-- Qualify parent references with a table alias. -/
def withParent (scope : Scope) (tableAlias : String) : Scope :=
  { scope with parent := some tableAlias }

/-- The scope inside a fragment: its own alias, if it has one, replaces the inherited one. -/
def enter (scope : Scope) (parentAlias : Option String) : Scope :=
  match parentAlias with
  | some tableAlias => scope.withParent tableAlias
  | none => scope

end Scope

end SqlWeave
