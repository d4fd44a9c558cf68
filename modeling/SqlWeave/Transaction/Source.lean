import SqlWeave.Connection.Statement
import SqlWeave.Transaction.Event
import SqlWeave.Transaction.Retry

/-!
# Connection sources

What code that obtains its own connections may do: acquire and release them,
work on the ones it holds, note the events of a transaction, and draw and wait
out a delay.
-/

namespace SqlWeave.Transaction

open Connection (Work)

/-- The name of an acquired connection. -/
structure Handle where
  number : Nat
  deriving DecidableEq, Repr

/-- What code with a source of connections may do. -/
inductive SourceEffect (Value : Type) where
  | identify
  | acquire
  | release (handle : Handle)
  /-- Work on an acquired connection. -/
  | work (handle : Handle) (effect : Connection.Effect Value)
  | note (transaction : TransactionId) (event : TransactionEvent)
  | draw (range : DelayRange)
  /-- Wait for so many microseconds. -/
  | wait (delay : Nat)

def SourceEffect.Response {Value : Type} : SourceEffect Value → Type
  | .identify => TransactionId
  | .acquire => Except Error Handle
  | .release _ => Unit
  | .work _ effect => effect.Response
  | .note _ _ => Unit
  | .draw range => range.Delay
  | .wait _ => Unit

def sourceSignature (Value : Type) : Signature := ⟨SourceEffect Value, SourceEffect.Response⟩

abbrev SourceProgram (Value Result : Type) := Program (sourceSignature Value) Result

namespace SourceProgram

variable {Value Result : Type}

def call (effect : SourceEffect Value) : SourceProgram Value effect.Response :=
  @Program.call (sourceSignature Value) effect

/-- Perform the effects of work on a connection on the given one. -/
def onHandle (handle : Handle) :
    Program.Embedding (Connection.signature Value) (sourceSignature Value) where
  effect := .work handle
  response := fun _ response => response

def work (handle : Handle) (program : Program (Connection.signature Value) Result) :
    SourceProgram Value Result :=
  program.embed (onHandle handle)

/-- Acquire a connection, work on it, and release it whatever comes out. -/
def withConnection (program : Work Value Result) : SourceProgram Value (Except Error Result) := do
  match ← call .acquire with
  | .error failure => return .error failure
  | .ok handle =>
    let result ← work handle program
    call (.release handle)
    return result

end SourceProgram

end SqlWeave.Transaction
