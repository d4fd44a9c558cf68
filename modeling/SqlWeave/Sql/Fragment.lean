import SqlWeave.Sql.Fault
import SqlWeave.Sql.Record

/-!
# Building fragments

Text is appended to the last literal; a node closes the last literal and
opens an empty one.  A fragment can also be taken apart into its literals and
nodes and put together again.
-/

namespace SqlWeave.Fragment

variable {Value : Type}

def ofText (sql : String) : Fragment Value where
  segments := []
  last := sql
  shape := .all
  parentAlias := none

def empty : Fragment Value := ofText ""

instance : Inhabited (Fragment Value) := ⟨empty⟩

def push (fragment : Fragment Value) (sql : String) : Fragment Value :=
  { fragment with last := fragment.last ++ sql }

def pushNode (fragment : Fragment Value) (node : Node Value) : Fragment Value :=
  { fragment with segments := fragment.segments ++ [(fragment.last, node)], last := "" }

def pushIdent (fragment : Fragment Value) (name : String) : Fragment Value :=
  fragment.pushNode (.ident name)

/-- Append a placeholder and bind its value. -/
def pushBind (fragment : Fragment Value) (value : Value) : Fragment Value :=
  fragment.pushNode (.param value)

/-- Append trusted SQL as a node of its own. -/
def pushRaw (fragment : Fragment Value) (sql : String) : Fragment Value :=
  fragment.pushNode (.raw sql)

/-- Append the keyword for a column's default. -/
def pushDefault (fragment : Fragment Value) : Fragment Value :=
  fragment.pushNode .default

/-- Append a reference to the column being assigned or compared. -/
def pushSelf (fragment : Fragment Value) : Fragment Value :=
  fragment.pushNode .selfColumn

/-- Append a reference to a column of the enclosing query's row. -/
def pushParent (fragment : Fragment Value) (column : String) : Fragment Value :=
  fragment.pushNode (.parentColumn column)

def pushColumns (fragment : Fragment Value) (record : Record Value) : Fragment Value :=
  fragment.pushNode (.columnsOf record)

def pushValues (fragment : Fragment Value) (record : Record Value) : Fragment Value :=
  fragment.pushNode (.valuesOf record)

def pushMatching (fragment : Fragment Value) (record : Record Value) : Fragment Value :=
  fragment.pushNode (.matching record)

def pushFragment (fragment nested : Fragment Value) : Fragment Value :=
  fragment.pushNode (.fragment nested)

def withShape (fragment : Fragment Value) (shape : ResultShape) : Fragment Value :=
  { fragment with shape := shape }

/-- Set the table alias that parent references inside resolve to. -/
def withParentAlias (fragment : Fragment Value) (tableAlias : String) : Fragment Value :=
  { fragment with parentAlias := some tableAlias }

/-- The literal texts, from the first to the one after the last node. -/
def literals (fragment : Fragment Value) : List String :=
  fragment.segments.map Prod.fst ++ [fragment.last]

def nodes (fragment : Fragment Value) : List (Node Value) :=
  fragment.segments.map Prod.snd

@[simp]
theorem nodes_push (fragment : Fragment Value) (sql : String) :
    (fragment.push sql).nodes = fragment.nodes := rfl

@[simp]
theorem nodes_pushNode (fragment : Fragment Value) (node : Node Value) :
    (fragment.pushNode node).nodes = fragment.nodes ++ [node] := by
  simp [nodes, pushNode]

@[simp]
theorem literals_pushNode (fragment : Fragment Value) (node : Node Value) :
    (fragment.pushNode node).literals = fragment.literals ++ [""] := by
  simp [literals, pushNode]

/-- There is one more literal than there are nodes. -/
theorem length_literals (fragment : Fragment Value) :
    fragment.literals.length = fragment.nodes.length + 1 := by
  simp [literals, nodes]

/-- Pair literals with the nodes that follow them, and keep the last literal. -/
def alternate : List String → List (Node Value) → Option (List (String × Node Value) × String)
  | [literal], [] => some ([], literal)
  | literal :: literals, node :: nodes =>
    (alternate literals nodes).map fun (segments, last) => ((literal, node) :: segments, last)
  | _, _ => none

/-- Put literals and the nodes between them together, if their numbers fit. -/
def ofParts (literals : List String) (nodes : List (Node Value)) :
    Except TreeFault (Fragment Value) :=
  match alternate literals nodes with
  | some (segments, last) => .ok { segments, last, shape := .all, parentAlias := none }
  | none => .error (.unevenParts literals.length nodes.length)

end SqlWeave.Fragment
