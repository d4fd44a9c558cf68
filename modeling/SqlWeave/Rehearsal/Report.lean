import SqlWeave.Rehearsal.Script
import SqlWeave.Rehearsal.Step

/-!
# Reports of a rehearsal

What can be told about a step after it ran: its result, the statements that
were sent and the events that were noted, all read off the trace of the run.
-/

namespace SqlWeave.Rehearsal

open Connection (Statement StatementEvent)
open Transaction
  (Outcome RetryPolicy SourceProgram TransactionEvent TransactionId sourceSignature)

/-- Where the steps of a rehearsal get their connection. -/
inductive Venue where
  /-- From a source, for every step anew. -/
  | source (supply : Supply)
  /-- They are given one that is already held. -/
  | held

/-- A noted event. -/
inductive Event where
  | statement (event : StatementEvent)
  | transaction (id : TransactionId) (event : TransactionEvent)

/-- What the rehearsal tells about one step. -/
structure Report (Value : Type) where
  /-- What the step yields or fails with; nothing if no delay can be drawn. -/
  result : Option (Except Error (List Yield))
  /-- How often the callback ran, for a transaction. -/
  callbackRuns : Option Nat
  /-- The total delay in milliseconds, where it does not depend on chance. -/
  slept : Option Nat
  statements : List (Statement Value)
  events : List Event
  /-- The numbers of connections acquired and released since the rehearsal began. -/
  acquired : Nat
  released : Nat

variable {Value : Type}

def sentStatement? : Interaction (sourceSignature Value) → Option (Statement Value)
  | ⟨.work _ (.send statement), _⟩ => some statement
  | _ => none

def notedEvent? : Interaction (sourceSignature Value) → Option Event
  | ⟨.work _ (.note event), _⟩ => some (.statement event)
  | ⟨.note transaction event, _⟩ => some (.transaction transaction event)
  | _ => none

/-- The longest wait in milliseconds: thirty years of 365 days. -/
def longestWait : Nat := 946080000000

/-- The milliseconds that pass while so many microseconds are waited: the clock ticks once in a
millisecond, and a wait is over at the first tick that is not before its end. -/
def waitMillis (delay : Nat) : Nat := min ((delay + 999) / 1000) longestWait

def interactionMillis : Interaction (sourceSignature Value) → Nat
  | ⟨.wait delay, _⟩ => waitMillis delay
  | _ => 0

def totalMillis (trace : List (Interaction (sourceSignature Value))) : Nat :=
  trace.foldl (fun total interaction => total + interactionMillis interaction) 0

/-- The total delay of a trace in milliseconds, if the policy leaves nothing to chance. -/
def sleptMillis (policy : RetryPolicy) (trace : List (Interaction (sourceSignature Value))) :
    Option Nat :=
  if policy.firstBound = policy.secondBound then some (totalMillis trace) else none

/-- The result of a transaction, if a delay could be drawn for every retry. -/
def outcomeResult {Result : Type} : Outcome Result → Option (Except Error Result)
  | .committed result => some (.ok result)
  | .failed error => some (.error error)
  | .noDelay => none

/-- The program of a single action, on a connection from the venue. -/
def singleProgram (venue : Venue) (action : Action Value) :
    SourceProgram Value (Except Error Yield) :=
  match venue with
  | .source _ => SourceProgram.withConnection action.work
  | .held => SourceProgram.work ⟨0⟩ action.work

/-- The supply of a venue; a connection that is held is shared by all steps. -/
def Venue.supply : Venue → Supply
  | .source supply => supply
  | .held => .shared

/-- The program of a transaction step. -/
def transactionProgram (level : Transaction.Isolation) (policy : Option RetryPolicy)
    (isTyped : Bool) (scripts : List (List (Command Value))) :
    SourceProgram Value (Outcome (List Yield) × Nat) :=
  if isTyped then
    Transaction.runAt level (policy.getD {}) (fun txn => callback (some txn.isolation) scripts) 0
  else match policy with
    | some policy => Transaction.runWith policy level (callback none scripts) 0
    | none => Transaction.run level (callback none scripts) 0

/-- Run one step, and tell about it. -/
def runStep (venue : Venue) (step : Step Value) (stage : Stage) : Report Value × Stage :=
  let world := world Value venue.supply
  match step with
  | .single action =>
    let { result, trace, state } := (singleProgram venue action).run world stage
    ({ result := some (result.map ([·])), callbackRuns := none, slept := none
       statements := trace.filterMap sentStatement?, events := trace.filterMap notedEvent?
       acquired := state.acquired, released := state.released }, state)
  | .transaction level policy isTyped scripts =>
    let { result, trace, state } :=
      (transactionProgram level policy isTyped scripts).run world stage
    ({ result := outcomeResult result.1, callbackRuns := some result.2
       slept := sleptMillis (policy.getD {}) trace
       statements := trace.filterMap sentStatement?, events := trace.filterMap notedEvent?
       acquired := state.acquired, released := state.released }, state)

/-- Run the steps of a rehearsal one after the other. -/
def rehearse (venue : Venue) : List (Step Value) → Stage → List (Report Value)
  | [], _ => []
  | step :: steps, stage =>
    let (report, stage) := runStep venue step stage
    report :: rehearse venue steps stage

end SqlWeave.Rehearsal
