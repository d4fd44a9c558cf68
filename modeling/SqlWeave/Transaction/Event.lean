import SqlWeave.Error
import SqlWeave.Log
import SqlWeave.Transaction.Isolation

/-!
# Events of transactions

What is noted about a transaction while it runs, with the level and the
message of every event.
-/

namespace SqlWeave.Transaction

/-- The name of a transaction in the events it notes. -/
structure TransactionId where
  number : Nat
  deriving DecidableEq, Repr

/-- What happens to a transaction. -/
inductive TransactionEvent where
  | started (isolation : Isolation)
  | retrying (attempt limit : Nat)
  | committed (attempt : Nat)
  | rollbackFailed (failure : Error)
  /-- An attempt was rolled back and another follows after a delay. -/
  | backingOff (code : String) (attempt limit delayMillis : Nat)
  /-- The last attempt was rolled back. -/
  | gaveUp (code : String) (attempt limit : Nat)
  | released

namespace TransactionEvent

def level : TransactionEvent → LogLevel
  | .started _ | .retrying _ _ | .committed _ => .debug
  | .rollbackFailed _ | .backingOff _ _ _ _ | .gaveUp _ _ _ => .warn
  | .released => .trace

def message : TransactionEvent → String
  | .started _ => "transaction started"
  | .retrying _ _ => "retrying transaction"
  | .committed _ => "committed"
  | .rollbackFailed _ => "rollback failed"
  | .backingOff _ _ _ _ => "transaction rolled back, retrying"
  | .gaveUp _ _ _ => "transaction rolled back, giving up"
  | .released => "connection released"

end TransactionEvent

end SqlWeave.Transaction
