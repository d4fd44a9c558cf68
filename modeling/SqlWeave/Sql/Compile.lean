import SqlWeave.Sql.Fragment
import SqlWeave.Sql.Scope

/-!
# Compiling trees

Compilation is one walk over a tree, strictly from left to right, that appends
to a statement text and to a list of bound values.  A value is appended before
its placeholder is written, so the placeholder's number is always the value's
position, however deeply the tree nests.  A fault stops the walk and leaves
what was written so far.
-/

namespace SqlWeave

/-- Statement text and the values of its placeholders, in order. -/
structure Compiled (Value : Type) where
  text : String := ""
  params : Array Value := #[]
  deriving DecidableEq, Repr, Inhabited

/-- A walk that writes to a statement and may meet a fault. -/
abbrev Weave (Value : Type) := EStateM TreeFault (Compiled Value)

namespace Weave

variable {Value : Type}

def text (sql : String) : Weave Value Unit :=
  modify fun out => { out with text := out.text ++ sql }

/-- Append a name between double quotes. -/
def ident (name : String) : Weave Value Unit := do
  text "\""
  text name
  text "\""

def idents (names : List String) : Weave Value Unit :=
  match names with
  | [] => pure ()
  | first :: rest => do
    ident first
    rest.forM fun name => do
      text ", "
      ident name

/-- Append a value and the placeholder that carries its position. -/
def bind (value : Value) : Weave Value Unit :=
  modify fun out =>
    let params := out.params.push value
    { text := out.text ++ "$" ++ toString params.size, params }

def selfColumn (scope : Scope) : Weave Value Unit :=
  match scope.column with
  | some column => ident column
  | none => throw .selfOutsideColumn

/-- Append a column of the enclosing query's row. -/
def parentColumn (scope : Scope) (column : String) : Weave Value Unit :=
  match scope.parent with
  | some tableAlias => do
    ident tableAlias
    text "."
    ident column
  | none => throw (.parentOutsideLateral column)

end Weave

variable {Value : Type}

mutual

def Node.weave (scope : Scope) : Node Value → Weave Value Unit
  | .ident name => Weave.ident name
  | .param value => Weave.bind value
  | .raw sql => Weave.text sql
  | .default => Weave.text "DEFAULT"
  | .selfColumn => Weave.selfColumn scope
  | .parentColumn column => Weave.parentColumn scope column
  | .columns names => Weave.idents names
  | .values cells => weaveValues scope "" cells
  | .fragment body => body.weave scope
  | .seq items => weaveItems scope items
  | .predicate [] => Weave.text "TRUE"
  | .predicate (cell :: cells) => do
    Weave.text "("
    weaveConditions scope "" (cell :: cells)
    Weave.text ")"

/-- Write a cell where it is assigned. -/
def Cell.weave (scope : Scope) : Cell Value → Weave Value Unit
  | .value value => Weave.bind value
  | .default => Weave.text "DEFAULT"
  | .parentColumn column => Weave.parentColumn scope column
  | .sql body => body.weave scope

/-- Write a cell where its column, the current one, is compared with it. -/
def Cell.weaveCondition (scope : Scope) (column : String) : Cell Value → Weave Value Unit
  | .value value => do
    Weave.ident column
    Weave.text " = "
    Weave.bind value
  | .default => throw (.defaultCompared column)
  | .parentColumn referenced => do
    Weave.ident column
    Weave.text " = "
    Weave.parentColumn scope referenced
  | .sql body => do
    Weave.text "("
    body.weave scope
    Weave.text ")"

/-- Write a fragment, whose own alias replaces the inherited one. -/
def Fragment.weave (scope : Scope) : Fragment Value → Weave Value Unit
  | ⟨segments, last, _, parentAlias⟩ => do
    weaveSegments (scope.enter parentAlias) segments
    Weave.text last

/-- Write every node after its literal. -/
def weaveSegments (scope : Scope) : List (String × Node Value) → Weave Value Unit
  | [] => pure ()
  | (literal, node) :: rest => do
    Weave.text literal
    node.weave scope
    weaveSegments scope rest

def weaveItems (scope : Scope) : List (Node Value) → Weave Value Unit
  | [] => pure ()
  | node :: rest => do
    node.weave scope
    weaveItems scope rest

/-- Write cells as values: `lead` before the first and a comma before the others. -/
def weaveValues (scope : Scope) (lead : String) : List (String × Cell Value) → Weave Value Unit
  | [] => pure ()
  | (column, cell) :: rest => do
    Weave.text lead
    cell.weave (scope.withColumn column)
    weaveValues scope ", " rest

/-- Write cells as conditions: `lead` before the first and a conjunction before the others. -/
def weaveConditions (scope : Scope) (lead : String) :
    List (String × Cell Value) → Weave Value Unit
  | [] => pure ()
  | (column, cell) :: rest => do
    Weave.text lead
    cell.weaveCondition (scope.withColumn column) column
    weaveConditions scope " AND " rest

end

/-- The statement of a whole fragment, outside any column or enclosing query. -/
def Fragment.compile (fragment : Fragment Value) : Except TreeFault (Compiled Value) :=
  match (fragment.weave Scope.root).run {} with
  | .ok _ out => .ok out
  | .error fault _ => .error fault

end SqlWeave
