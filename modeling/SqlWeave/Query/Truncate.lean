import SqlWeave.Sql.Fragment

/-!
# Truncate

Empty tables at once.  The statement returns no rows.
-/

namespace SqlWeave.Query

variable {Value : Type}

/-- What happens to the sequences of the emptied tables. -/
inductive Identity where
  | continue
  | restart
  deriving DecidableEq, Repr

def Identity.sql : Identity → String
  | .continue => "CONTINUE IDENTITY"
  | .restart => "RESTART IDENTITY"

/-- What happens to tables that refer to the emptied ones. -/
inductive ForeignKeys where
  | restrict
  | cascade
  deriving DecidableEq, Repr

def ForeignKeys.sql : ForeignKeys → String
  | .restrict => "RESTRICT"
  | .cascade => "CASCADE"

/-- The options of a truncate; what is left out is left to the server. -/
structure TruncateOptions where
  identity : Option Identity := none
  foreignKeys : Option ForeignKeys := none
  deriving DecidableEq, Repr

/-- Append a keyword after a blank, if there is one. -/
def pushKeyword (statement : Fragment Value) : Option String → Fragment Value
  | some keyword => (statement.push " ").pushRaw keyword
  | none => statement

/-- Empty the given tables. -/
def truncate (tables : List String) (options : TruncateOptions) : Fragment Value :=
  let target := (Fragment.ofText "TRUNCATE ").pushNode (.join (tables.map .ident) ", ")
  pushKeyword (pushKeyword target (options.identity.map Identity.sql))
    (options.foreignKeys.map ForeignKeys.sql)

end SqlWeave.Query
