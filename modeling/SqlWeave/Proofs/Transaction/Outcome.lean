import SqlWeave.Proofs.Transaction.Acts
import SqlWeave.Rehearsal.Script

/-!
# Outcomes of failed transactions

Which error a transaction fails with.  The error of its last attempt and the
reply to the rollback after it decide: a rollback that fails comes first, then
whether the error is a conflict, and only then whether attempts are left.
-/

namespace SqlWeave.Transaction

open Connection (Reply)

variable {Value State Result : Type}

/-- Not even a conflict is retried if it could not be rolled back. -/
theorem isRetryable_rollbackFailed (failure reason : Error) :
    (Error.rollbackFailed failure reason).isRetryable = false := rfl

/-- Exhausted retries are no conflict themselves. -/
theorem isRetryable_retriesExhausted (attempts : Nat) (source : Error) :
    (Error.retriesExhausted attempts source).isRetryable = false := rfl

/-- What the error of the last attempt and the reply to its rollback say about
the error that the transaction fails with. -/
structure Verdict (left number : Nat) (failure : Error) (rollback : Except Error Reply)
    (error : Error) : Prop where
  final : error.isRetryable = false
  rollbackFailed : ∀ reason, rollback = .error reason →
    error = .other (failure.message ++ " (rollback failed: " ++ reason.message ++ ")")
  unchanged : ∀ reply, rollback = .ok reply → failure.isRetryable = false → error = failure
  exhausted : ∀ reply, rollback = .ok reply → failure.isRetryable = true →
    left = 0 ∧ error = .retriesExhausted number failure

theorem Setting.Ends.verdict {setting : Setting Value State Result} {left number : Nat}
    {block : Block Value Result} {closing : Trace Value} {error : Error}
    (hends : setting.Ends left number block closing (.failed error)) :
    ∃ failure rollback, block.failure? = some failure ∧ block.rollback? = some rollback ∧
      Verdict left number failure rollback error := by
  cases hends with
  | rollbackFailed hfailure hrollback =>
      refine ⟨_, _, hfailure, hrollback, isRetryable_rollbackFailed _ _, ?_, ?_, ?_⟩
      · intro reason hreason
        cases hreason
        rfl
      · intro reply hreply
        cases hreply
      · intro reply hreply
        cases hreply
  | refused hfailure hrollback hretry =>
      refine ⟨_, _, hfailure, hrollback, hretry, ?_, ?_, ?_⟩
      · intro reason hreason
        cases hreason
      · intro reply hreply hfinal
        rfl
      · intro reply hreply hconflict
        rw [hretry] at hconflict
        cases hconflict
  | gaveUp hfailure hrollback hretry hleft =>
      refine ⟨_, _, hfailure, hrollback, isRetryable_retriesExhausted _ _, ?_, ?_, ?_⟩
      · intro reason hreason
        cases hreason
      · intro reply hreply hfinal
        rw [hretry] at hfinal
        cases hfinal
      · intro reply hreply hconflict
        exact ⟨hleft, rfl⟩

/-- A transaction that acquires no connection fails with that error and does
nothing else.  One that fails later fails with an error that is no conflict: if
the rollback after its last attempt failed, with both errors in one text;
otherwise with the error of that attempt itself, unless it is a conflict, which
is wrapped with the number of attempts once all of them were made.  What a
transaction inside the callback gave up with is handed on like any other error. -/
theorem runWith_fails_with_error_of_last_attempt {Surroundings : Type}
    (world : World (sourceSignature Value) Surroundings) (start : Surroundings)
    (policy : RetryPolicy) (isolation : Isolation) (callback : Callback Value State Result)
    (state : State) :
    (∀ error, ⟨.acquire, (.error error : Except Error Handle)⟩ ∈
        (runIn world start policy isolation callback state).trace →
      (runIn world start policy isolation callback state).result = (.failed error, state) ∧
      acts (runIn world start policy isolation callback state).trace = []) ∧
    (∀ handle error, ⟨.acquire, (.ok handle : Except Error Handle)⟩ ∈
        (runIn world start policy isolation callback state).trace →
      (runIn world start policy isolation callback state).result.1 = .failed error →
      error.isRetryable = false ∧
      ∃ (retries : List (Retry Value Result)) (last : Block Value Result) (failure : Error)
          (rollback : Except Error Reply),
        Consists handle isolation callback state
          (runIn world start policy isolation callback state).result.2
          (runIn world start policy isolation callback state).trace retries last ∧
        retries.length + 1 ≤ max 1 policy.maxAttempts ∧
        last.failure? = some failure ∧ last.rollback? = some rollback ∧
        (∀ reason, rollback = .error reason →
          error = .other (failure.message ++ " (rollback failed: " ++ reason.message ++ ")")) ∧
        (∀ reply, rollback = .ok reply → failure.isRetryable = false → error = failure) ∧
        (∀ reply, rollback = .ok reply → failure.isRetryable = true →
          retries.length + 1 = max 1 policy.maxAttempts ∧
          error = .retriesExhausted (max 1 policy.maxAttempts) failure) ∧
        (∀ reply attempts source, rollback = .ok reply →
          failure = .retriesExhausted attempts source → error = failure)) := by
  have hyields := Program.yields_run world (runWith policy isolation callback state) start
  refine ⟨?_, ?_⟩
  · intro error hacquire
    obtain ⟨transaction, failure, hended, htrace⟩ |
      ⟨transaction, handle, retries, last, course, hstays, hcourse, htrace⟩ :=
        runWith_cases hyields
    · rw [htrace] at hacquire ⊢
      cases eq_error_of_mem_refusedTrace hacquire
      exact ⟨hended, acts_refusedTrace transaction error⟩
    · rw [htrace] at hacquire
      cases eq_ok_of_mem_heldTrace hstays hacquire
  · intro handle error hacquire hfailed
    obtain ⟨transaction, retries, last, closing, hconsists, hlength, hends⟩ :=
      exists_blocks_of_acquire hyields hacquire
    rw [hfailed] at hends
    obtain ⟨failure, rollback, hfailure, hrollback, hverdict⟩ := hends.verdict
    have hlimit : max 1 policy.maxAttempts = policy.attemptLimit := Nat.max_comm _ _
    rw [hlimit]
    refine ⟨hverdict.final, retries, last, failure, rollback, hconsists, hlength, hfailure,
      hrollback, hverdict.rollbackFailed, hverdict.unchanged, ?_, ?_⟩
    · intro reply hreply hconflict
      obtain ⟨hleft, herror⟩ := hverdict.exhausted reply hreply hconflict
      have hall : 1 + retries.length = policy.attemptLimit := by omega
      rw [hall] at herror
      exact ⟨by omega, herror⟩
    · intro reply attempts source hreply hnested
      apply hverdict.unchanged reply hreply
      rw [hnested, isRetryable_retriesExhausted]

/-- A callback that runs into a conflict and says in which invocation. -/
def conflicting : Callback Nat Nat Unit := fun invocations =>
  .done (.error (.deadlockDetected (toString invocations)), invocations + 1)

/-- A server without a script and without a client. -/
def idleStage : Rehearsal.Stage where
  replies := []

/-- A conflict of the pool is not tried again, and of two conflicts in the
callback the second one is wrapped. -/
theorem runWith_wraps_second_of_two_conflicts :
    (runIn (Rehearsal.world Nat (.refused (.deadlockDetected "pool"))) idleStage {}
      .serializable conflicting 0).result = (.failed (.deadlockDetected "pool"), 0) ∧
    (runIn (Rehearsal.world Nat .shared) idleStage { maxAttempts := 2 }
      .serializable conflicting 0).result.1 =
        .failed (.retriesExhausted 2 (.deadlockDetected "1")) ∧
    ∃ (retries : List (Retry Nat Unit)) (last : Block Nat Unit) (failure : Error),
      Consists ⟨0⟩ .serializable conflicting 0 2
        (runIn (Rehearsal.world Nat .shared) idleStage { maxAttempts := 2 }
          .serializable conflicting 0).trace retries last ∧
      last.failure? = some failure ∧
      (failure.isRetryable = true →
        retries.length + 1 = 2 ∧ failure = .deadlockDetected "1") := by
  have hresult : (runIn (Rehearsal.world Nat .shared) idleStage { maxAttempts := 2 }
      .serializable conflicting 0).result =
        (.failed (.retriesExhausted 2 (.deadlockDetected "1")), 2) := by
    simp only [runIn, runWith, RetryPolicy.attemptLimit, Nat.max_def, Nat.reduceLeDiff,
      if_false, Nat.reduceSub, Setting.attempts]
    rfl
  refine ⟨((runWith_fails_with_error_of_last_attempt
    (Rehearsal.world Nat (.refused (.deadlockDetected "pool"))) idleStage {}
    .serializable conflicting 0).1 (.deadlockDetected "pool") (.tail _ (.head _))).1,
    congrArg Prod.fst hresult, ?_⟩
  obtain ⟨_, retries, last, failure, rollback, hconsists, _, hfailure, _, hrolledBack, _,
    hconflict, _⟩ := (runWith_fails_with_error_of_last_attempt (Rehearsal.world Nat .shared)
      idleStage { maxAttempts := 2 } .serializable conflicting 0).2 ⟨0⟩
      (.retriesExhausted 2 (.deadlockDetected "1")) (.tail _ (.head _))
      (congrArg Prod.fst hresult)
  rw [hresult] at hconsists
  refine ⟨retries, last, failure, hconsists, hfailure, fun hretry => ?_⟩
  cases rollback with
  | error reason => cases hrolledBack reason rfl
  | ok reply =>
      obtain ⟨hlength, herror⟩ := hconflict reply rfl hretry
      cases herror
      exact ⟨hlength, rfl⟩

end SqlWeave.Transaction
