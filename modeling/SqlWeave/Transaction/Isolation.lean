/-!
# Isolation levels

The combinations of isolation and access mode that a transaction can ask for,
and which of them give at least the guarantees of another.
-/

namespace SqlWeave.Transaction

/-- The isolation and access mode of a transaction. -/
inductive Isolation where
  | serializable
  | repeatableRead
  | readCommitted
  | serializableReadOnly
  | repeatableReadReadOnly
  | readCommittedReadOnly
  | serializableReadOnlyDeferrable
  deriving DecidableEq, Repr, Inhabited

namespace Isolation

def sql : Isolation → String
  | .serializable => "SERIALIZABLE"
  | .repeatableRead => "REPEATABLE READ"
  | .readCommitted => "READ COMMITTED"
  | .serializableReadOnly => "SERIALIZABLE, READ ONLY"
  | .repeatableReadReadOnly => "REPEATABLE READ, READ ONLY"
  | .readCommittedReadOnly => "READ COMMITTED, READ ONLY"
  | .serializableReadOnlyDeferrable => "SERIALIZABLE, READ ONLY, DEFERRABLE"

/-- How much a transaction is shielded from concurrent ones. -/
def strictness : Isolation → Nat
  | .readCommitted | .readCommittedReadOnly => 0
  | .repeatableRead | .repeatableReadReadOnly => 1
  | .serializable | .serializableReadOnly | .serializableReadOnlyDeferrable => 2

def isReadOnly : Isolation → Bool
  | .serializable | .repeatableRead | .readCommitted => false
  | .serializableReadOnly | .repeatableReadReadOnly | .readCommittedReadOnly
  | .serializableReadOnlyDeferrable => true

/-- A level gives the guarantees of another when it is as strict and can do as
much; a deferrable transaction may wait before it starts, so it stands in for
no other. -/
def Satisfies (level required : Isolation) : Prop :=
  level = required ∨
    (level ≠ .serializableReadOnlyDeferrable ∧ required.strictness ≤ level.strictness ∧
      (level.isReadOnly → required.isReadOnly))

instance (level required : Isolation) : Decidable (level.Satisfies required) :=
  inferInstanceAs (Decidable (_ ∨ _))

end Isolation

end SqlWeave.Transaction
