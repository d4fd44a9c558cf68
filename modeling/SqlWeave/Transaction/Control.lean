import SqlWeave.Transaction.Source

/-!
# Retrying transactions

A transaction runs a callback between a start and a commit on one connection.
A failed attempt is rolled back; a conflict with another transaction is tried
again after a delay, as long as attempts are left, and every other error is
handed back as it is.  The connection is acquired once and released once.
-/

namespace SqlWeave.Transaction

open Connection (Method Reply Statement Work)

/-- How a transaction ends. -/
inductive Outcome (Result : Type) where
  | committed (result : Result)
  | failed (error : Error)
  /-- No delay can be drawn before a retry. -/
  | noDelay

/-- The body of a transaction: work on its connection that may keep a state from
one attempt to the next. -/
abbrev Callback (Value State Result : Type) :=
  State → Program (Connection.signature Value) (Except Error Result × State)

/-- A statement without parameters that controls the transaction. -/
def control {Value : Type} (sql : String) : Statement Value := ⟨.execute, sql, #[]⟩

def startSql (isolation : Isolation) : String :=
  "START TRANSACTION ISOLATION LEVEL " ++ isolation.sql

def commitSql : String := "COMMIT"

def rollbackSql : String := "ROLLBACK"

/-- What stays the same through all attempts of a transaction. -/
structure Setting (Value State Result : Type) where
  handle : Handle
  transaction : TransactionId
  policy : RetryPolicy
  isolation : Isolation
  callback : Callback Value State Result

namespace Setting

variable {Value State Result : Type}

/-- Send a control statement on the transaction's connection. -/
def send (setting : Setting Value State Result) (sql : String) :
    SourceProgram Value (Except Error Reply) :=
  SourceProgram.work setting.handle (Connection.send (control sql))

def note (setting : Setting Value State Result) (event : TransactionEvent) :
    SourceProgram Value Unit :=
  SourceProgram.call (.note setting.transaction event)

/-- Start, run the callback, and commit; the first failure ends the attempt. -/
def attempt (setting : Setting Value State Result) (state : State) :
    SourceProgram Value (Except Error Result × State) := do
  match ← setting.send (startSql setting.isolation) with
  | .error failure => return (.error failure, state)
  | .ok _ =>
    match ← SourceProgram.work setting.handle (setting.callback state) with
    | (.error failure, state) => return (.error failure, state)
    | (.ok result, state) =>
      match ← setting.send commitSql with
      | .error failure => return (.error failure, state)
      | .ok _ => return (.ok result, state)

/-- The SQLSTATE of a failure for an event. -/
def eventCode (failure : Error) : String := failure.sqlstate?.getD "-"

/-- Wait for a delay of the policy after the attempt of a number, and then go on. -/
def backOff (setting : Setting Value State Result) (number : Nat) (failure : Error)
    (state : State) (next : SourceProgram Value (Outcome Result × State)) :
    SourceProgram Value (Outcome Result × State) :=
  match setting.policy.delayRange? with
  | none => return (.noDelay, state)
  | some range => do
    let delay ← SourceProgram.call (.draw range)
    setting.note (.backingOff (eventCode failure) number setting.policy.attemptLimit
      (delay.val / 1000))
    SourceProgram.call (.wait delay.val)
    next

/-- Note that an attempt after the first begins. -/
def announce (setting : Setting Value State Result) (number : Nat) : SourceProgram Value Unit :=
  if 1 < number then setting.note (.retrying number setting.policy.attemptLimit) else return ()

/-- Make the attempt of a number, and as many more as are left while it conflicts. -/
def attempts (setting : Setting Value State Result) :
    (left number : Nat) → State → SourceProgram Value (Outcome Result × State)
  | left, number, state => do
    setting.announce number
    match ← setting.attempt state with
    | (.ok result, state) =>
      setting.note (.committed number)
      return (.committed result, state)
    | (.error failure, state) =>
      match ← setting.send rollbackSql with
      | .error rollback =>
        setting.note (.rollbackFailed rollback)
        return (.failed (.rollbackFailed failure rollback), state)
      | .ok _ =>
        if failure.isRetryable then
          match left with
          | 0 =>
            setting.note (.gaveUp (eventCode failure) number setting.policy.attemptLimit)
            return (.failed (.retriesExhausted number failure), state)
          | left + 1 =>
            setting.backOff number failure state (setting.attempts left (number + 1) state)
        else return (.failed failure, state)

end Setting

variable {Value State Result : Type}

/-- Run a callback in a transaction, retrying on conflicts as the policy says. -/
def runWith (policy : RetryPolicy) (isolation : Isolation)
    (callback : Callback Value State Result) (state : State) :
    SourceProgram Value (Outcome Result × State) := do
  let transaction ← SourceProgram.call .identify
  match ← SourceProgram.call .acquire with
  | .error failure => return (.failed failure, state)
  | .ok handle =>
    let setting : Setting Value State Result :=
      { handle, transaction, policy, isolation, callback }
    setting.note (.started isolation)
    let ended ← setting.attempts (policy.attemptLimit - 1) 1 state
    SourceProgram.call (.release handle)
    setting.note .released
    return ended

/-- Run a callback in a transaction with the usual policy. -/
def run (isolation : Isolation) (callback : Callback Value State Result) (state : State) :
    SourceProgram Value (Outcome Result × State) :=
  runWith {} isolation callback state

/-- A transaction whose isolation level is known to its type. -/
structure Txn (level : Isolation) where

def Txn.isolation {level : Isolation} (_ : Txn level) : Isolation := level

/-- Run a callback that is handed the transaction at its level. -/
def runAt (level : Isolation) (policy : RetryPolicy)
    (callback : Txn level → Callback Value State Result) (state : State) :
    SourceProgram Value (Outcome Result × State) :=
  runWith policy level (callback ⟨⟩) state

end SqlWeave.Transaction
