import SqlWeave.Connection.Execution
import SqlWeave.Rehearsal.Author
import SqlWeave.Rehearsal.Rows
import SqlWeave.Transaction.Control

/-!
# Steps of a rehearsal

A step runs one fragment on a connection of its own, or a whole transaction
whose callback is a list of commands.
-/

namespace SqlWeave.Rehearsal

open Connection (Work)
open Transaction (Callback Isolation RetryPolicy)

variable {Value : Type}

/-- A fragment as it is given to a step, unless it could not be built. -/
abbrev Draft (Value : Type) := Except TreeFault (Fragment Value)

/-- One way to run one fragment. -/
inductive Action (Value : Type) where
  | run (draft : Draft Value)
  | execute (draft : Draft Value)
  | runRows (draft : Draft Value)
  | runAs (draft : Draft Value) (type : ResultType)

/-- What an action or a command yields. -/
inductive Yield where
  | json (value : Json)
  | affected (count : Nat)
  /-- The number of rows, and the names of their columns if there are rows. -/
  | rows (count : Nat) (columns : Option (List String))
  /-- The level of the transaction, if its type knows it. -/
  | isolation (level : Option Isolation)
  /-- The error of an action that was tried. -/
  | failed (error : Error)

/-- Change what work yields. -/
def yielding {Result : Type} (wrap : Result → Yield) (work : Work Value Result) :
    Work Value Yield :=
  work.bind fun result => .done (result.map wrap)

/-- The rows of a reply as they are reported. -/
def rowsYield (reply : Connection.Reply) : Yield :=
  .rows reply.rows.length
    (if reply.rows.isEmpty then none else some (reply.columns.map Connection.Column.name))

/-- Work with the fragment of a draft, or fail as it could not be built. -/
def withDraft (draft : Draft Value) (work : Fragment Value → Work Value Yield) :
    Work Value Yield :=
  match draft with
  | .ok fragment => work fragment
  | .error fault => .done (.error (.ofTreeFault fault))

def Action.work : Action Value → Work Value Yield
  | .run draft => withDraft draft fun fragment => yielding .json (fragment.run rowReader)
  | .execute draft => withDraft draft fun fragment => yielding .affected fragment.execute
  | .runRows draft => withDraft draft fun fragment => yielding rowsYield fragment.runRows
  | .runAs draft type =>
    withDraft draft fun fragment => yielding .json (fragment.runAs rowReader type.decode)

/-- One command of a transaction's callback. -/
inductive Command (Value : Type) where
  | act (action : Action Value)
  /-- Run an action and go on even if it fails. -/
  | attempt (action : Action Value)
  /-- Send text straight to the driver. -/
  | raw (sql : String)
  | fail (error : Error)
  /-- End the callback successfully. -/
  | finish (value : Json)
  /-- Ask for the level of the transaction. -/
  | isolation

/-- The work of a command that yields something and lets the callback go on. -/
def Command.work (level : Option Isolation) : Command Value → Work Value Yield
  | .act action => action.work
  | .attempt action =>
    action.work.bind fun
      | .ok value => .done (.ok value)
      | .error error => .done (.ok (.failed error))
  | .raw sql => yielding (fun reply => .affected reply.affected) (Connection.send ⟨.raw, sql, #[]⟩)
  | .fail error => .done (.error error)
  | .finish value => .done (.ok (.json value))
  | .isolation => .done (.ok (.isolation level))

/-- Whether a command is the last of its callback. -/
def Command.isFinal : Command Value → Bool
  | .finish _ => true
  | _ => false

/-- Perform commands until one fails or ends the callback. -/
def perform (level : Option Isolation) : List (Command Value) → Work Value (List Yield)
  | [] => .done (.ok [])
  | command :: rest =>
    (command.work level).bind fun
      | .error error => .done (.error error)
      | .ok value =>
        if command.isFinal then .done (.ok [value])
        else (perform level rest).bind fun values => .done (values.map (value :: ·))

/-- The commands of the callback's run of a number; the last list is repeated. -/
def commandsOfRun (scripts : List (List (Command Value))) (run : Nat) : List (Command Value) :=
  scripts[run]?.getD (scripts.getLast?.getD [])

/-- The callback that performs the list of its run's number and counts its runs. -/
def callback (level : Option Isolation) (scripts : List (List (Command Value))) :
    Callback Value Nat (List Yield) := fun run => do
  let result ← perform level (commandsOfRun scripts run)
  return (result, run + 1)

/-- One step of a rehearsal. -/
inductive Step (Value : Type) where
  /-- Run a fragment on a connection of its own. -/
  | single (action : Action Value)
  /-- Run a transaction; without a policy, with the usual one. -/
  | transaction (level : Isolation) (policy : Option RetryPolicy) (isTyped : Bool)
      (scripts : List (List (Command Value)))

end SqlWeave.Rehearsal
