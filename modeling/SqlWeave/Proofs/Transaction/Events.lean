import SqlWeave.Proofs.Transaction.Acts

/-!
# The events of a transaction

What is noted while a transaction runs, and how it ends, read off its blocks:
every retry notes that it backs off and that it begins, and the last block
decides what is noted at the end.  Numbers of attempts stand in events and in
the error of a transaction that gives up, and nowhere else.
-/

namespace SqlWeave.Transaction

open Connection (Reply)

variable {Value State Result : Type}

def event? : Interaction (sourceSignature Value) → Option TransactionEvent
  | ⟨.note _ event, _⟩ => some event
  | _ => none

/-- The events that are noted in a trace, in order. -/
def events (trace : Trace Value) : List TransactionEvent := trace.filterMap event?

@[simp]
theorem events_nil : events ([] : Trace Value) = [] := rfl

@[simp]
theorem events_append (front back : Trace Value) :
    events (front ++ back) = events front ++ events back :=
  List.filterMap_append

@[simp]
theorem events_noted (transaction : TransactionId) (event : TransactionEvent)
    (rest : Trace Value) : events (noted transaction event :: rest) = event :: events rest := rfl

@[simp]
theorem events_controlled (handle : Handle) (sql : String) (reply : Except Error Reply)
    (rest : Trace Value) : events (controlled handle sql reply :: rest) = events rest := rfl

@[simp]
theorem events_onConnection (handle : Handle) (body : Body Value) :
    events (body.map (onConnection handle)) = [] :=
  List.filterMap_eq_nil_iff.2 fun interaction hmem => by
    obtain ⟨_, _, rfl⟩ := List.mem_map.1 hmem
    rfl

@[simp]
theorem events_heldTrace (transaction : TransactionId) (handle : Handle) (isolation : Isolation)
    (course : Trace Value) :
    events (heldTrace transaction handle isolation course) =
      .started isolation :: (events course ++ [.released]) := by
  change .started isolation :: events (course ++ [_, _]) = _
  rw [events_append]
  rfl

/-- What is noted of an attempt that fails and is rolled back so, if it is the last one. -/
def abortEvents (number limit : Nat) (failure : Error) :
    Except Error Reply → List TransactionEvent
  | .error rollback => [.rollbackFailed rollback]
  | .ok _ =>
    if failure.isRetryable then [.gaveUp (Setting.eventCode failure) number limit] else []

/-- The error of a transaction whose last attempt fails and is rolled back so. -/
def abortError (number : Nat) (failure : Error) : Except Error Reply → Error
  | .error rollback => .rollbackFailed failure rollback
  | .ok _ => if failure.isRetryable then .retriesExhausted number failure else failure

namespace Block

/-- An attempt itself notes nothing. -/
@[simp]
theorem events_trace (handle : Handle) (isolation : Isolation) (block : Block Value Result) :
    events (block.trace handle isolation) = [] := by
  cases block <;> simp [trace]

/-- What is noted of the error of an attempt. -/
def code (block : Block Value Result) : String :=
  (block.failure?.map Setting.eventCode).getD "-"

/-- What is noted at the end if an attempt of a number, out of so many, is the last one. -/
def closing (number limit : Nat) : Block Value Result → List TransactionEvent
  | .notStarted failure rollback | .abandoned _ _ failure rollback
  | .notCommitted _ _ _ failure rollback => abortEvents number limit failure rollback
  | .committed _ _ _ _ => [.committed number]

/-- How a transaction ends if an attempt of a number is the last one. -/
def outcome (number : Nat) : Block Value Result → Outcome Result
  | .notStarted failure rollback | .abandoned _ _ failure rollback
  | .notCommitted _ _ _ failure rollback => .failed (abortError number failure rollback)
  | .committed _ _ result _ => .committed result

variable {block : Block Value Result} {failure : Error} {rollback : Except Error Reply}

theorem closing_of_rollback? (hfailure : block.failure? = some failure)
    (hrollback : block.rollback? = some rollback) (number limit : Nat) :
    block.closing number limit = abortEvents number limit failure rollback := by
  cases block <;> cases hfailure <;> cases hrollback <;> rfl

theorem outcome_of_rollback? (hfailure : block.failure? = some failure)
    (hrollback : block.rollback? = some rollback) (number : Nat) :
    block.outcome number = .failed (abortError number failure rollback) := by
  cases block <;> cases hfailure <;> cases hrollback <;> rfl

theorem ends_of_result? {result : Result} (hresult : block.result? = some result)
    (number limit : Nat) :
    block.closing number limit = [.committed number] ∧
      block.outcome number = .committed result := by
  cases block <;> cases hresult
  exact ⟨rfl, rfl⟩

/-- An attempt has a result, or it failed and was rolled back. -/
theorem result_or_failure (block : Block Value Result) :
    (∃ result, block.result? = some result) ∨
      ∃ failure rollback, block.failure? = some failure ∧ block.rollback? = some rollback := by
  cases block with
  | notStarted failure rollback | abandoned _ _ failure rollback
  | notCommitted _ _ _ failure rollback => exact .inr ⟨failure, rollback, rfl, rfl⟩
  | committed _ _ result _ => exact .inl ⟨result, rfl⟩

/-- A failure that was rolled back is a conflict exactly if it is retryable. -/
theorem isConflict_iff_isRetryable {reply : Reply} (hfailure : block.failure? = some failure)
    (hrollback : block.rollback? = some (.ok reply)) :
    block.IsConflict ↔ failure.isRetryable = true := by
  constructor
  · rintro ⟨⟨other, hother, hretry⟩, -⟩
    rw [hfailure] at hother
    cases hother
    exact hretry
  · intro hretry
    exact ⟨⟨failure, hfailure, hretry⟩, reply, hrollback⟩

/-- The number of an attempt does not count for its end, unless it is a conflict. -/
theorem outcome_of_not_isConflict (hlast : ¬ block.IsConflict) (number other : Nat) :
    block.outcome number = block.outcome other := by
  obtain ⟨result, hresult⟩ | ⟨failure, rollback | reply, hfailure, hrollback⟩ :=
    block.result_or_failure
  · rw [(ends_of_result? hresult number 0).2, (ends_of_result? hresult other 0).2]
  · rw [outcome_of_rollback? hfailure hrollback, outcome_of_rollback? hfailure hrollback]
    rfl
  · rw [isConflict_iff_isRetryable hfailure hrollback] at hlast
    rw [outcome_of_rollback? hfailure hrollback, outcome_of_rollback? hfailure hrollback,
      abortError, abortError, if_neg hlast, if_neg hlast]

/-- A last attempt that is a conflict exhausts the attempts. -/
theorem exists_outcome_of_isConflict (hlast : block.IsConflict) (number : Nat) :
    ∃ failure, block.failure? = some failure ∧
      block.outcome number = .failed (.retriesExhausted number failure) := by
  obtain ⟨⟨failure, hfailure, hretry⟩, reply, hrollback⟩ := hlast
  refine ⟨failure, hfailure, ?_⟩
  rw [outcome_of_rollback? hfailure hrollback, abortError, if_pos hretry]

/-- Giving up is noted exactly if the last attempt is a conflict. -/
theorem exists_gaveUp_mem_closing_iff (number limit : Nat) :
    (∃ code other bound, .gaveUp code other bound ∈ block.closing number limit) ↔
      block.IsConflict := by
  obtain ⟨result, hresult⟩ | ⟨failure, rollback | reply, hfailure, hrollback⟩ :=
    block.result_or_failure
  · have hfailure : block.failure? = none := by
      cases block <;> first | rfl | cases hresult
    simp [(ends_of_result? hresult number limit).1, IsConflict, hfailure]
  · simp [closing_of_rollback? hfailure hrollback, abortEvents, IsConflict, hrollback]
  · rw [closing_of_rollback? hfailure hrollback, isConflict_iff_isRetryable hfailure hrollback,
      abortEvents]
    cases failure.isRetryable <;> simp

end Block

/-- What is noted between attempts and at their end, from an attempt of a number
out of so many on, but not that it begins. -/
def eventsOfBlocks (number limit : Nat) :
    List (Retry Value Result) → Block Value Result → List TransactionEvent
  | [], last => last.closing number limit
  | retry :: retries, last =>
      .backingOff retry.block.code number limit (retry.delay.val / 1000) ::
        .retrying (number + 1) limit :: eventsOfBlocks (number + 1) limit retries last

/-- What is noted where an attempt of a number, out of so many, begins. -/
def beginEvents (number limit : Nat) : List TransactionEvent :=
  if 1 < number then [.retrying number limit] else []

namespace Setting

variable {setting : Setting Value State Result} {left number : Nat} {before : State}
  {retries : List (Retry Value Result)} {block last : Block Value Result} {trace : Trace Value}
  {outcome : Outcome Result} {ended : Outcome Result × State}

@[simp]
theorem events_announcement (setting : Setting Value State Result) (number : Nat) :
    events (setting.announcement number) =
      beginEvents number setting.policy.attemptLimit := by
  rw [announcement, beginEvents]
  split <;> rfl

@[simp]
theorem events_pause (setting : Setting Value State Result) (number : Nat) (failure : Error)
    {range : DelayRange} (delay : range.Delay) :
    events (setting.pause number failure delay) =
      [.backingOff (eventCode failure) number setting.policy.attemptLimit
        (delay.val / 1000)] := rfl

/-- The last block decides what is noted at the end and how the transaction ends. -/
theorem Ends.eq_of_delayRange? {range : DelayRange}
    (hends : setting.Ends left number block trace outcome)
    (hrange : setting.policy.delayRange? = some range) :
    events trace = block.closing number setting.policy.attemptLimit ∧
      outcome = block.outcome number := by
  cases hends with
  | committed hresult =>
      obtain ⟨hclosing, houtcome⟩ :=
        Block.ends_of_result? hresult number setting.policy.attemptLimit
      rw [hclosing, houtcome]
      exact ⟨rfl, rfl⟩
  | rollbackFailed hfailure hrollback =>
      rw [Block.closing_of_rollback? hfailure hrollback,
        Block.outcome_of_rollback? hfailure hrollback]
      exact ⟨rfl, rfl⟩
  | refused hfailure hrollback hretry =>
      rw [Block.closing_of_rollback? hfailure hrollback,
        Block.outcome_of_rollback? hfailure hrollback]
      simp [abortEvents, abortError, hretry]
  | gaveUp hfailure hrollback hretry hleft =>
      rw [Block.closing_of_rollback? hfailure hrollback,
        Block.outcome_of_rollback? hfailure hrollback]
      simp [abortEvents, abortError, hretry]
  | noDelay hfailure hrollback hretry hleft hnone =>
      rw [hrange] at hnone
      cases hnone

/-- What is noted during the attempts is read off their blocks. -/
theorem Course.events_eq {range : DelayRange}
    (hcourse : setting.Course left number before retries last trace ended)
    (hrange : setting.policy.delayRange? = some range) (hnumber : 1 ≤ number) :
    events trace = beginEvents number setting.policy.attemptLimit ++
      eventsOfBlocks number setting.policy.attemptLimit retries last := by
  induction hcourse with
  | last hinvokes hends =>
      simp [(hends.eq_of_delayRange? hrange).1, eventsOfBlocks]
  | @retry left number before middle block last retries failure reply range delay rest ended
      hinvokes hfailure hrollback hretry hdelay hrest ih =>
      have hbegin : beginEvents (number + 1) setting.policy.attemptLimit =
          [.retrying (number + 1) setting.policy.attemptLimit] := if_pos (by omega)
      simp [ih (by omega), eventsOfBlocks, hbegin, Block.code, hfailure]

/-- The outcome of the attempts is that of the last block. -/
theorem Course.outcome_eq {range : DelayRange}
    (hcourse : setting.Course left number before retries last trace ended)
    (hrange : setting.policy.delayRange? = some range) :
    ended.1 = last.outcome (number + retries.length) := by
  obtain ⟨closing, hends⟩ := hcourse.ends
  exact (hends.eq_of_delayRange? hrange).2

end Setting

/-- A transaction gives up when it notes so. -/
def GivesUp (trace : Trace Value) : Prop :=
  ∃ code number limit, .gaveUp code number limit ∈ events trace

theorem exists_gaveUp_mem_eventsOfBlocks_iff (number limit : Nat)
    (retries : List (Retry Value Result)) (last : Block Value Result) :
    (∃ code other bound, .gaveUp code other bound ∈ eventsOfBlocks number limit retries last) ↔
      last.IsConflict := by
  induction retries generalizing number with
  | nil => exact Block.exists_gaveUp_mem_closing_iff number limit
  | cons retry retries ih => simpa [eventsOfBlocks] using ih (number + 1)

/-- A transaction that acquired its connection gives up exactly if its last
attempt is a conflict. -/
theorem givesUp_heldTrace_iff {setting : Setting Value State Result} {left number : Nat}
    {before : State} {retries : List (Retry Value Result)} {last : Block Value Result}
    {course : Trace Value} {ended : Outcome Result × State} {range : DelayRange}
    (hcourse : setting.Course left number before retries last course ended)
    (hrange : setting.policy.delayRange? = some range) (hnumber : 1 ≤ number)
    (transaction : TransactionId) (handle : Handle) (isolation : Isolation) :
    GivesUp (heldTrace transaction handle isolation course) ↔ last.IsConflict := by
  rw [← exists_gaveUp_mem_eventsOfBlocks_iff number setting.policy.attemptLimit retries last,
    GivesUp, events_heldTrace, hcourse.events_eq hrange hnumber, beginEvents]
  split <;> simp

end SqlWeave.Transaction
