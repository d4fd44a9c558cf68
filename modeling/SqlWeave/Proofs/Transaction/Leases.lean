import SqlWeave.Proofs.Transaction.Acts
import SqlWeave.Rehearsal.Script

/-!
# Leases

How transactions deal with the connections of a source.  Every call acquires
once, whatever the number of its attempts, works on nothing but the connection
it was given, and releases it once on every way out; so between any two calls
no connection is missing.
-/

namespace SqlWeave.Transaction

open Connection (Reply)

variable {Value : Type}

/-- One way to run a transaction, with everything it is run with. -/
inductive Call (Value : Type) : Type 1 where
  | run {State Result : Type} (isolation : Isolation) (callback : Callback Value State Result)
      (start : State)
  | runWith {State Result : Type} (policy : RetryPolicy) (isolation : Isolation)
      (callback : Callback Value State Result) (start : State)
  | runAt {State Result : Type} (level : Isolation) (policy : RetryPolicy)
      (callback : Txn level → Callback Value State Result) (start : State)

namespace Call

/-- What the callback keeps from one attempt to the next. -/
def State : Call Value → Type
  | @run _ State _ _ _ _ => State
  | @runWith _ State _ _ _ _ _ => State
  | @runAt _ State _ _ _ _ _ => State

def Result : Call Value → Type
  | @run _ _ Result _ _ _ => Result
  | @runWith _ _ Result _ _ _ _ => Result
  | @runAt _ _ Result _ _ _ _ => Result

/-- What the call does, and how it ends. -/
def program : (call : Call Value) → SourceProgram Value (Outcome call.Result × call.State)
  | .run isolation callback start => Transaction.run isolation callback start
  | .runWith policy isolation callback start =>
      Transaction.runWith policy isolation callback start
  | .runAt level policy callback start => Transaction.runAt level policy callback start

def policy : Call Value → RetryPolicy
  | .run _ _ _ => {}
  | .runWith policy _ _ _ => policy
  | .runAt _ policy _ _ => policy

def isolation : Call Value → Isolation
  | .run isolation _ _ => isolation
  | .runWith _ isolation _ _ => isolation
  | .runAt level _ _ _ => level

/-- The callback with the transaction at its level, if it asks for one. -/
def callback : (call : Call Value) → Callback Value call.State call.Result
  | .run _ callback _ => callback
  | .runWith _ _ callback _ => callback
  | .runAt _ _ callback _ => callback ⟨⟩

def start : (call : Call Value) → call.State
  | .run _ _ start => start
  | .runWith _ _ _ start => start
  | .runAt _ _ _ start => start

/-- All ways to run a transaction come down to one. -/
theorem program_eq (call : Call Value) :
    call.program = Transaction.runWith call.policy call.isolation call.callback call.start := by
  cases call <;> rfl

end Call

def acquired? : Interaction (sourceSignature Value) → Option (Except Error Handle)
  | ⟨.acquire, response⟩ => some response
  | _ => none

def released? : Interaction (sourceSignature Value) → Option Handle
  | ⟨.release handle, _⟩ => some handle
  | _ => none

def worked? : Interaction (sourceSignature Value) → Option Handle
  | ⟨.work handle _, _⟩ => some handle
  | _ => none

/-- What came of the acquisitions of a trace, in order. -/
def acquisitions (trace : Trace Value) : List (Except Error Handle) := trace.filterMap acquired?

/-- The connections that a trace releases, in order. -/
def releases (trace : Trace Value) : List Handle := trace.filterMap released?

/-- The connections that a trace works on, once for every effect. -/
def worked (trace : Trace Value) : List Handle := trace.filterMap worked?

/-- The connections that a trace is given, in order. -/
def leased (trace : Trace Value) : List Handle := (acquisitions trace).filterMap Except.toOption

/-- The trace of a call that is given no connection: it asks once, and does nothing more. -/
structure Trace.Refused (failure : Error) (trace : Trace Value) : Prop where
  acquisitions : acquisitions trace = [.error failure]
  releases : releases trace = []
  worked : worked trace = []

/-- The trace of a call that is given a connection: it asks once, works on that
connection alone, between the acquisition and the release of it, and releases it once. -/
structure Trace.Leases (handle : Handle) (trace : Trace Value) : Prop where
  acquisitions : acquisitions trace = [.ok handle]
  releases : releases trace = [handle]
  worked : ∀ used ∈ worked trace, used = handle
  between : ∃ front held back,
    trace = front ++ ⟨.acquire, (.ok handle : Except Error Handle)⟩ ::
      (held ++ ⟨.release handle, ()⟩ :: back) ∧
    Transaction.worked front = [] ∧ Transaction.worked back = []

theorem filterMap_eq_nil_of_staysOn {Image : Type} {handle : Handle} {trace : Trace Value}
    {view? : Interaction (sourceSignature Value) → Option Image} (hstays : trace.StaysOn handle)
    (hview : ∀ interaction, StaysOn handle interaction.effect → view? interaction = none) :
    trace.filterMap view? = [] :=
  List.filterMap_eq_nil_iff.2 fun interaction hmem => hview interaction (hstays interaction hmem)

/-- While a transaction stays on its connection it acquires nothing. -/
theorem acquisitions_of_staysOn {handle : Handle} {trace : Trace Value}
    (hstays : trace.StaysOn handle) : acquisitions trace = [] := by
  refine filterMap_eq_nil_of_staysOn hstays fun interaction hstay => ?_
  obtain ⟨effect, response⟩ := interaction
  cases effect with
  | acquire => exact hstay.elim
  | identify | release _ | work _ _ | note _ _ | draw _ | wait _ => rfl

/-- While a transaction stays on its connection it releases nothing. -/
theorem releases_of_staysOn {handle : Handle} {trace : Trace Value}
    (hstays : trace.StaysOn handle) : releases trace = [] := by
  refine filterMap_eq_nil_of_staysOn hstays fun interaction hstay => ?_
  obtain ⟨effect, response⟩ := interaction
  cases effect with
  | release _ => exact hstay.elim
  | identify | acquire | work _ _ | note _ _ | draw _ | wait _ => rfl

theorem eq_of_mem_worked {handle used : Handle} {trace : Trace Value}
    (hstays : trace.StaysOn handle) (hused : used ∈ worked trace) : used = handle := by
  obtain ⟨⟨effect, response⟩, hmem, hworked⟩ := List.mem_filterMap.1 hused
  cases effect with
  | work _ _ =>
      cases hworked
      exact hstays _ hmem
  | identify | acquire | release _ | note _ _ | draw _ | wait _ => cases hworked

theorem refused_refusedTrace (transaction : TransactionId) (failure : Error) :
    (refusedTrace transaction failure : Trace Value).Refused failure :=
  ⟨rfl, rfl, rfl⟩

/-- A trace around attempts that stay on the acquired connection leases it. -/
theorem leases_heldTrace (transaction : TransactionId) (isolation : Isolation) {handle : Handle}
    {course : Trace Value} (hstays : course.StaysOn handle) :
    (heldTrace transaction handle isolation course).Leases handle where
  acquisitions := by
    change .ok handle :: acquisitions (course ++ [_, _]) = [.ok handle]
    rw [acquisitions, List.filterMap_append, ← acquisitions, acquisitions_of_staysOn hstays]
    rfl
  releases := by
    change releases (course ++ [_, _]) = [handle]
    rw [releases, List.filterMap_append, ← releases, releases_of_staysOn hstays]
    rfl
  worked used hused := by
    change used ∈ worked (course ++ [_, _]) at hused
    rw [worked, List.filterMap_append, List.mem_append] at hused
    rcases hused with hused | hused
    · exact eq_of_mem_worked hstays hused
    · cases hused
  between :=
    ⟨[⟨.identify, transaction⟩], noted transaction (.started isolation) :: course,
      [noted transaction .released], rfl, rfl, rfl⟩

/-- A call that ended, with everything it did. -/
structure Performed (Value : Type) : Type 1 where
  call : Call Value
  trace : Trace Value
  outcome : Outcome call.Result
  state : call.State

/-- Run calls one after the other, each in the surroundings that the one before it left. -/
def performAll {Surroundings : Type} (world : World (sourceSignature Value) Surroundings) :
    List (Call Value) → Surroundings → List (Performed Value)
  | [], _ => []
  | call :: rest, start =>
      let run := call.program.run world start
      ⟨call, run.trace, run.result.1, run.result.2⟩ :: performAll world rest run.state

/-- A call asks its source for a connection once.  If it gets none, it fails with
the reason and leaves its state as it was; otherwise all its attempts, with
their control statements and those of the callback, are made on the one
connection that it leases. -/
def Performed.LeasesOnce (performed : Performed Value) : Prop :=
  (∃ failure, performed.trace.Refused failure ∧ performed.outcome = .failed failure ∧
    performed.state = performed.call.start) ∨
  ∃ handle, performed.trace.Leases handle ∧
    ∃ retries last, Consists handle performed.call.isolation performed.call.callback
      performed.call.start performed.state performed.trace retries last

/-- What a call yields asks for one connection. -/
theorem leasesOnce_of_yields {call : Call Value} {trace : Trace Value}
    {outcome : Outcome call.Result} {state : call.State}
    (hcall : call.program.Yields trace (outcome, state)) :
    Performed.LeasesOnce ⟨call, trace, outcome, state⟩ := by
  rw [call.program_eq] at hcall
  obtain ⟨transaction, failure, hended, rfl⟩ |
    ⟨transaction, handle, retries, last, course, hstays, hcourse, rfl⟩ := runWith_cases hcall
  · cases hended
    exact .inl ⟨failure, refused_refusedTrace transaction failure, rfl, rfl⟩
  · exact .inr ⟨handle, leases_heldTrace transaction call.isolation hstays, retries, last,
      hcourse.consists_heldTrace transaction⟩

theorem leasesOnce_of_mem_performAll {Surroundings : Type}
    {world : World (sourceSignature Value) Surroundings} {calls : List (Call Value)}
    {start : Surroundings} {performed : Performed Value}
    (hmem : performed ∈ performAll world calls start) : performed.LeasesOnce := by
  induction calls generalizing start with
  | nil => cases hmem
  | cons call rest ih =>
      rcases List.mem_cons.1 hmem with rfl | hmem
      · exact leasesOnce_of_yields (Program.yields_run world call.program start)
      · exact ih hmem

/-- A call gives back what it was given. -/
theorem Performed.LeasesOnce.leased_eq {performed : Performed Value}
    (honce : performed.LeasesOnce) : leased performed.trace = releases performed.trace := by
  obtain ⟨failure, hrefused, -⟩ | ⟨handle, hleases, -⟩ := honce
  · rw [leased, hrefused.acquisitions, hrefused.releases]
    rfl
  · rw [leased, hleases.acquisitions, hleases.releases]
    rfl

/-- Transactions that are run one after the other, in every way there is and
whatever the source, the server and the callbacks do: every call returns, asks
for a connection exactly once, makes all its attempts on the connection it is
given, and releases that connection exactly once, after everything it does on
it.  So after any number of calls the connections that were given out are those
that were released, in the same order. -/
theorem every_call_leases_one_connection {Surroundings : Type}
    (world : World (sourceSignature Value) Surroundings) (start : Surroundings)
    (calls : List (Call Value)) :
    (performAll world calls start).map Performed.call = calls ∧
    (∀ performed ∈ performAll world calls start, performed.LeasesOnce) ∧
    ∀ count,
      ((performAll world calls start).take count).flatMap (fun ended => leased ended.trace) =
        ((performAll world calls start).take count).flatMap fun ended => releases ended.trace := by
  refine ⟨?_, fun performed hmem => leasesOnce_of_mem_performAll hmem, ?_⟩
  · induction calls generalizing start with
    | nil => rfl
    | cons call rest ih => rw [performAll, List.map_cons, ih]
  · intro count
    rw [List.flatMap_def, List.flatMap_def]
    refine congrArg List.flatten (List.map_congr_left fun performed hmem => ?_)
    exact (leasesOnce_of_mem_performAll (List.mem_of_mem_take hmem)).leased_eq

/-- A callback that does nothing in its first invocation and fails in every later one. -/
def failingLater : Callback Nat Nat Unit
  | 0 => .done (.ok (), 1)
  | invocations + 1 => .done (.error (.other "later"), invocations + 2)

/-- A server where the first commit runs into a conflict and the second rollback fails. -/
def conflictThenLostRollback : Rehearsal.Stage where
  replies := [.silent, .failure (.serializationFailure "commit"), .silent, .silent,
    .failure (.other "rollback")]

/-- Two calls of which the first one makes two attempts and cannot roll the second
back: each has a connection of its own, and both connections are given back. -/
theorem two_calls_lease_two_connections :
    let calls : List (Call Nat) :=
      [.runWith { maxAttempts := 3 } .serializable failingLater 0,
        .runAt .readCommittedReadOnly {} (fun _ => failingLater) 0]
    let performed := performAll (Rehearsal.world Nat .shared) calls conflictThenLostRollback
    performed.flatMap (fun ended => leased ended.trace) = [⟨0⟩, ⟨1⟩] ∧
    performed.flatMap (fun ended => releases ended.trace) = [⟨0⟩, ⟨1⟩] ∧
    ∀ ended ∈ performed.head?, ended.LeasesOnce := by
  intro calls performed
  obtain ⟨-, honce, hequal⟩ :=
    every_call_leases_one_connection (Rehearsal.world Nat .shared) conflictThenLostRollback calls
  have hleased : performed.flatMap (fun ended => leased ended.trace) = [⟨0⟩, ⟨1⟩] := by
    decide +kernel
  refine ⟨hleased, (hequal 2).symm.trans hleased, ?_⟩
  intro ended hmem
  exact honce ended (List.mem_of_mem_head? hmem)

end SqlWeave.Transaction
