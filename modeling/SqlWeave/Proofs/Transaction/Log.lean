import SqlWeave.Proofs.ErrorClassification
import SqlWeave.Proofs.Transaction.Events
import SqlWeave.Proofs.Transaction.Outcome
import SqlWeave.Proofs.Transaction.Protocol

/-!
# The log of a transaction

What can be seen of a transaction without a look at its connection: the events
that are noted under its name, and the waits between them.  Main statement: the
log is read off the attempts one by one, what is noted at the end says how the
transaction ended, and every conflict is noted with its own code.
-/

namespace SqlWeave.Transaction

open Connection (Reply)

variable {Value State Result : Type}

/-- An event that is noted under a name, or a wait of so many microseconds. -/
inductive Moment where
  | noted (transaction : TransactionId) (event : TransactionEvent)
  | waited (delay : Nat)

def moment? : Interaction (sourceSignature Value) → Option Moment
  | ⟨.note transaction event, _⟩ => some (.noted transaction event)
  | ⟨.wait delay, _⟩ => some (.waited delay)
  | _ => none

/-- The moments of a trace, in order. -/
def moments (trace : Trace Value) : List Moment := trace.filterMap moment?

@[simp]
theorem moments_nil : moments ([] : Trace Value) = [] := rfl

@[simp]
theorem moments_append (front back : Trace Value) :
    moments (front ++ back) = moments front ++ moments back :=
  List.filterMap_append

@[simp]
theorem moments_controlled (handle : Handle) (sql : String) (reply : Except Error Reply)
    (rest : Trace Value) : moments (controlled handle sql reply :: rest) = moments rest := rfl

@[simp]
theorem moments_onConnection (handle : Handle) (body : Body Value) :
    moments (body.map (onConnection handle)) = [] :=
  List.filterMap_eq_nil_iff.2 fun interaction hmem => by
    obtain ⟨_, _, rfl⟩ := List.mem_map.1 hmem
    rfl

@[simp]
theorem moments_refusedTrace (transaction : TransactionId) (failure : Error) :
    moments (refusedTrace transaction failure : Trace Value) = [] := rfl

@[simp]
theorem moments_heldTrace (transaction : TransactionId) (handle : Handle)
    (isolation : Isolation) (course : Trace Value) :
    moments (heldTrace transaction handle isolation course) =
      .noted transaction (.started isolation) ::
        (moments course ++ [.noted transaction .released]) := by
  change _ :: moments (course ++ [_, _]) = _
  rw [moments_append]
  rfl

/-- What is seen between an attempt of a number, out of so many, and the next one. -/
def Retry.moments (retry : Retry Value Result) (transaction : TransactionId)
    (limit number : Nat) : List Moment :=
  [.noted transaction (.backingOff retry.block.code number limit (retry.delay.val / 1000)),
    .waited retry.delay.val,
    .noted transaction (.retrying (number + 1) limit)]

@[simp]
theorem Block.moments_trace (handle : Handle) (isolation : Isolation)
    (block : Block Value Result) : moments (block.trace handle isolation) = [] := by
  cases block <;> simp [trace]

namespace Setting

variable {setting : Setting Value State Result} {left number : Nat} {before : State}
  {retries : List (Retry Value Result)} {last : Block Value Result} {trace : Trace Value}
  {outcome : Outcome Result} {ended : Outcome Result × State}

@[simp]
theorem moments_announcement (setting : Setting Value State Result) (number : Nat) :
    moments (setting.announcement number) =
      (beginEvents number setting.policy.attemptLimit).map (.noted setting.transaction) := by
  rw [announcement, beginEvents]
  split <;> rfl

@[simp]
theorem moments_pause (setting : Setting Value State Result) (number : Nat) (failure : Error)
    {range : DelayRange} (delay : range.Delay) :
    moments (setting.pause number failure delay) =
      [.noted setting.transaction (.backingOff (eventCode failure) number
          setting.policy.attemptLimit (delay.val / 1000)),
        .waited delay.val] := rfl

/-- Nothing but events is seen at the end. -/
theorem Ends.moments_eq (hends : setting.Ends left number last trace outcome) :
    moments trace = (events trace).map (.noted setting.transaction) := by
  cases hends <;> rfl

/-- What is seen of the attempts: every retry, and how the last attempt ends. -/
theorem Course.exists_closing
    (hcourse : setting.Course left number before retries last trace ended)
    (hnumber : 1 ≤ number) :
    ∃ closing,
      setting.Ends (left - retries.length) (number + retries.length) last closing ended.1 ∧
      moments trace =
        (beginEvents number setting.policy.attemptLimit).map (.noted setting.transaction) ++
          ((retries.zipIdx number).flatMap fun retry =>
            retry.1.moments setting.transaction setting.policy.attemptLimit retry.2) ++
          (events closing).map (.noted setting.transaction) := by
  induction hcourse with
  | last hinvokes hends =>
      refine ⟨_, hends, ?_⟩
      simp [hends.moments_eq]
  | @retry left number before middle block last retries failure reply range delay rest ended
      hinvokes hfailure hrollback hretry hdelay hrest ih =>
      obtain ⟨closing, hends, hmoments⟩ := ih (by omega)
      have hleft : left + 1 - (retries.length + 1) = left - retries.length := by omega
      have hlast : number + (retries.length + 1) = number + 1 + retries.length := by omega
      -- the next attempt itself notes that it begins, which is told of this retry
      have hbegin : beginEvents (number + 1) setting.policy.attemptLimit =
          [.retrying (number + 1) setting.policy.attemptLimit] := if_pos (by omega)
      refine ⟨closing, ?_, ?_⟩
      · rw [List.length_cons, hleft, hlast]
        exact hends
      · simp [hmoments, hbegin, Retry.moments, Block.code, hfailure]

end Setting

/-- The error of an attempt is none that wraps it. -/
theorem ne_retriesExhausted_self (number : Nat) (failure : Error) :
    failure ≠ .retriesExhausted number failure := by
  intro heq
  have hsize := congrArg sizeOf heq
  rw [Error.retriesExhausted.sizeOf_spec] at hsize
  omega

/-- The attempt failed with a conflict of this code, a serialization failure or a deadlock. -/
def Block.ConflictsWith (block : Block Value Result) (code : String) : Prop :=
  ∃ failure, block.failure? = some failure ∧ failure.sqlstate? = some code ∧
    code ∈ ["40001", "40P01"]

/-- A conflict is noted with its own code. -/
theorem Block.IsConflict.conflictsWith {block : Block Value Result}
    (hconflict : block.IsConflict) : block.ConflictsWith block.code := by
  obtain ⟨⟨failure, hfailure, hretry⟩, -⟩ := hconflict
  rw [Block.code, hfailure, Option.map_some, Option.getD_some, Setting.eventCode]
  obtain hcode | hcode := (Error.isRetryable_iff_sqlstate? failure).1 hretry
  · rw [hcode, Option.getD_some]
    exact ⟨failure, hfailure, hcode, .head _⟩
  · rw [hcode, Option.getD_some]
    exact ⟨failure, hfailure, hcode, .tail _ (.head _)⟩

/-- The rollback of some attempt fails for this reason. -/
def RollbackFails (retries : List (Retry Value Result)) (last : Block Value Result)
    (reason : Error) : Prop :=
  ∃ block ∈ retries.map Retry.block ++ [last], block.rollback? = some (.error reason)

/-- What is noted at the end, after these retries out of at most a limit of
attempts, tells how the transaction ended. -/
structure Closes (limit : Nat) (retries : List (Retry Value Result)) (last : Block Value Result)
    (outcome : Outcome Result) (closing : List TransactionEvent) : Prop where
  kinds : closing = [] ∨ closing = [.committed (retries.length + 1)] ∨
    (∃ code, closing = [.gaveUp code limit limit]) ∨ ∃ reason, closing = [.rollbackFailed reason]
  committed_iff : closing = [.committed (retries.length + 1)] ↔
    ∃ result, outcome = .committed result
  /-- The error that is wrapped is that of the last attempt, so an error that its
  callback brings along from another transaction does not count. -/
  gaveUp_iff : (∃ code, closing = [.gaveUp code limit limit]) ↔
    ∃ attempts failure, last.failure? = some failure ∧
      outcome = .failed (.retriesExhausted attempts failure)
  gaveUp_conflict : ∀ code, closing = [.gaveUp code limit limit] →
    retries.length + 1 = limit ∧ last.ConflictsWith code
  rollbackFailed_iff : ∀ reason,
    closing = [.rollbackFailed reason] ↔ RollbackFails retries last reason
  nothing_iff : closing = [] ↔
    ∃ failure reply, last.failure? = some failure ∧ failure.isRetryable = false ∧
      last.rollback? = some (.ok reply) ∧ outcome = .failed failure

section Closes

variable {retries : List (Retry Value Result)} {last : Block Value Result} {limit : Nat}

/-- Retries were rolled back, so a rollback that fails is that of the last attempt. -/
theorem rollbackFails_iff (hconflicts : ∀ retry ∈ retries, retry.block.IsConflict)
    (reason : Error) :
    RollbackFails retries last reason ↔ last.rollback? = some (.error reason) := by
  constructor
  · rintro ⟨block, hmem, hrollback⟩
    rcases List.mem_append.1 hmem with hmem | hmem
    · obtain ⟨retry, hretry, rfl⟩ := List.mem_map.1 hmem
      obtain ⟨-, reply, hreply⟩ := hconflicts retry hretry
      rw [hrollback] at hreply
      cases hreply
    · rw [← List.mem_singleton.1 hmem]
      exact hrollback
  · intro hrollback
    exact ⟨last, List.mem_append_right _ (List.mem_singleton_self last), hrollback⟩

theorem closes_of_result? {result : Result} (hresult : last.result? = some result)
    (hconflicts : ∀ retry ∈ retries, retry.block.IsConflict) :
    Closes limit retries last (.committed result) [.committed (retries.length + 1)] := by
  have hfailure := Block.failure?_eq_none_of_result? hresult
  have hrollback : last.rollback? = none := by
    cases last <;> first | rfl | cases hresult
  constructor <;> simp [rollbackFails_iff hconflicts, hfailure, hrollback]

theorem closes_of_rollbackFailed {failure reason : Error}
    (hfailure : last.failure? = some failure) (hrollback : last.rollback? = some (.error reason))
    (hconflicts : ∀ retry ∈ retries, retry.block.IsConflict) :
    Closes limit retries last (.failed (.rollbackFailed failure reason))
      [.rollbackFailed reason] := by
  constructor <;>
    simp [rollbackFails_iff hconflicts, hfailure, hrollback, Error.rollbackFailed]

theorem closes_of_refused {failure : Error} {reply : Reply}
    (hfailure : last.failure? = some failure) (hrollback : last.rollback? = some (.ok reply))
    (hretry : failure.isRetryable = false)
    (hconflicts : ∀ retry ∈ retries, retry.block.IsConflict) :
    Closes limit retries last (.failed failure) [] := by
  constructor <;>
    simp [rollbackFails_iff hconflicts, hfailure, hrollback, hretry, ne_retriesExhausted_self]

theorem closes_of_gaveUp {failure : Error} {reply : Reply}
    (hfailure : last.failure? = some failure) (hrollback : last.rollback? = some (.ok reply))
    (hretry : failure.isRetryable = true) (hlimit : retries.length + 1 = limit)
    (hconflicts : ∀ retry ∈ retries, retry.block.IsConflict) :
    Closes limit retries last (.failed (.retriesExhausted (retries.length + 1) failure))
      [.gaveUp (Setting.eventCode failure) (retries.length + 1) limit] := by
  have hconflict := (Block.isConflict_iff_isRetryable hfailure hrollback).2 hretry
  have hcode := hconflict.conflictsWith
  rw [Block.code, hfailure, Option.map_some, Option.getD_some] at hcode
  constructor <;>
    simp [rollbackFails_iff hconflicts, hfailure, hrollback, hretry, hlimit, hcode]

/-- The last attempt closes the log, unless there is no delay to go on with. -/
theorem Setting.Ends.closes {setting : Setting Value State Result} {left : Nat}
    {trace : Trace Value} {outcome : Outcome Result} {range : DelayRange}
    (hends : setting.Ends left (1 + retries.length) last trace outcome)
    (hrange : setting.policy.delayRange? = some range)
    (hleft : left = 0 → retries.length + 1 = setting.policy.attemptLimit)
    (hconflicts : ∀ retry ∈ retries, retry.block.IsConflict) :
    Closes setting.policy.attemptLimit retries last outcome (events trace) := by
  rw [Nat.add_comm] at hends
  cases hends with
  | committed hresult => exact closes_of_result? hresult hconflicts
  | rollbackFailed hfailure hrollback =>
      exact closes_of_rollbackFailed hfailure hrollback hconflicts
  | refused hfailure hrollback hretry =>
      exact closes_of_refused hfailure hrollback hretry hconflicts
  | gaveUp hfailure hrollback hretry hnone =>
      exact closes_of_gaveUp hfailure hrollback hretry (hleft hnone) hconflicts
  | noDelay _ _ _ _ hnone =>
      rw [hrange] at hnone
      cases hnone

end Closes

/-- What is seen of a transaction that acquires its connection, whatever the
connection and the callback do and provided that there are delays to draw: that
it started; after every attempt that is tried again a warning with its number
and the code of its conflict, the wait whose milliseconds the warning tells, and
that the next attempt begins; at most one event that tells how the transaction
ended; and that the connection was released.  If it acquires none, nothing is
seen of it. -/
theorem runWith_is_told_by_its_log {Surroundings : Type}
    (world : World (sourceSignature Value) Surroundings) (start : Surroundings)
    (policy : RetryPolicy) (isolation : Isolation) (callback : Callback Value State Result)
    (state : State) (range : DelayRange) (hrange : policy.delayRange? = some range) :
    (∀ failure, ⟨.acquire, (.error failure : Except Error Handle)⟩ ∈
        (runIn world start policy isolation callback state).trace →
      moments (runIn world start policy isolation callback state).trace = []) ∧
    ∀ handle, ⟨.acquire, (.ok handle : Except Error Handle)⟩ ∈
        (runIn world start policy isolation callback state).trace →
      ∃ (transaction : TransactionId) (retries : List (Retry Value Result))
          (last : Block Value Result) (closing : List TransactionEvent),
        Consists handle isolation callback state
          (runIn world start policy isolation callback state).result.2
          (runIn world start policy isolation callback state).trace retries last ∧
        retries.length + 1 ≤ max 1 policy.maxAttempts ∧
        moments (runIn world start policy isolation callback state).trace =
          [.noted transaction (.started isolation)] ++
            ((retries.zipIdx 1).flatMap fun (retry, number) =>
              [.noted transaction (.backingOff retry.block.code number
                  (max 1 policy.maxAttempts) (retry.delay.val / 1000)),
                .waited retry.delay.val,
                .noted transaction (.retrying (number + 1) (max 1 policy.maxAttempts))]) ++
            closing.map (.noted transaction) ++
            [.noted transaction .released] ∧
        (∀ retry ∈ retries, retry.block.ConflictsWith retry.block.code) ∧
        Closes (max 1 policy.maxAttempts) retries last
          (runIn world start policy isolation callback state).result.1 closing := by
  have hlimit : max 1 policy.maxAttempts = policy.attemptLimit := Nat.max_comm _ _
  rw [hlimit]
  have hyields := Program.yields_run world (runWith policy isolation callback state) start
  constructor
  · intro failure hacquire
    obtain ⟨-, transaction, htrace⟩ := exists_refusedTrace_of_acquire hyields hacquire
    rw [htrace, moments_refusedTrace]
  · intro handle hacquire
    obtain ⟨transaction, retries, last, course, hcourse, htrace⟩ :=
      exists_course_of_acquire hyields hacquire
    obtain ⟨closing, hends, hmoments⟩ := hcourse.exists_closing (Nat.le_refl 1)
    have hconflicts := hcourse.consists.conflicts
    have hlength := hcourse.length_le
    have hpositive : 1 ≤ policy.attemptLimit := Nat.le_max_right _ _
    have hleft : policy.attemptLimit - 1 - retries.length = 0 →
        retries.length + 1 = policy.attemptLimit := by omega
    refine ⟨transaction, retries, last, events closing, ?_, by omega, ?_, ?_,
      hends.closes hrange hleft hconflicts⟩
    · rw [htrace]
      exact hcourse.consists_heldTrace transaction
    · rw [htrace, moments_heldTrace, hmoments, beginEvents, if_neg (Nat.lt_irrefl 1)]
      simp [Retry.moments]
    · intro retry hmem
      exact (hconflicts retry hmem).conflictsWith

/-- Two deadlocks in the callback of a transaction with two attempts: both are
told with their code, and that the transaction gives up after the second one. -/
theorem runWith_is_told_by_its_log_of_two_deadlocks :
    moments (runIn (Rehearsal.world Nat .shared) idleStage { maxAttempts := 2 }
        .serializable conflicting 0).trace =
      [.noted ⟨1⟩ (.started .serializable),
        .noted ⟨1⟩ (.backingOff "40P01" 1 2 25), .waited 25000, .noted ⟨1⟩ (.retrying 2 2),
        .noted ⟨1⟩ (.gaveUp "40P01" 2 2), .noted ⟨1⟩ .released] ∧
    ∃ (retries : List (Retry Nat Unit)) (last : Block Nat Unit)
        (closing : List TransactionEvent),
      retries.length + 1 ≤ 2 ∧
      Closes 2 retries last (runIn (Rehearsal.world Nat .shared) idleStage { maxAttempts := 2 }
        .serializable conflicting 0).result.1 closing := by
  have hmoments : moments (runIn (Rehearsal.world Nat .shared) idleStage { maxAttempts := 2 }
      .serializable conflicting 0).trace =
      [.noted ⟨1⟩ (.started .serializable),
        .noted ⟨1⟩ (.backingOff "40P01" 1 2 25), .waited 25000, .noted ⟨1⟩ (.retrying 2 2),
        .noted ⟨1⟩ (.gaveUp "40P01" 2 2), .noted ⟨1⟩ .released] := by
    simp only [runIn, runWith, RetryPolicy.attemptLimit, Nat.max_def, Nat.reduceLeDiff,
      if_false, Nat.reduceSub, Setting.attempts]
    rfl
  obtain ⟨-, htold⟩ := runWith_is_told_by_its_log (Rehearsal.world Nat .shared) idleStage
    { maxAttempts := 2 } .serializable conflicting 0 ⟨25000, 250000, by decide⟩ rfl
  obtain ⟨_, retries, last, closing, -, hlength, -, -, hcloses⟩ :=
    htold ⟨0⟩ (.tail _ (.head _))
  exact ⟨hmoments, retries, last, closing, hlength, hcloses⟩

end SqlWeave.Transaction
