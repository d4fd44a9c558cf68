import SqlWeave.Proofs.Transaction.Acts

/-!
# Delays

Which delays may be drawn before a retry.  The bounds of a policy are put in
order as spans of time, but a delay is drawn between their words of 64 bits, and
two words need not stand in the order of the counts they are taken from.  Main
statement: the delays are those between the two words; they keep between the
bounds exactly if the shorter bound fits a word and the word of the longer one is
not below it, and they are all of those between the bounds exactly if both fit.
-/

namespace SqlWeave.Transaction

variable {Value State Result : Type}

namespace Duration

@[simp]
theorem micros_shorter (left right : Duration) :
    (left.shorter right).micros = min left.micros right.micros := by
  simp only [micros, shorter, perMicro]
  omega

@[simp]
theorem micros_longer (left right : Duration) :
    (left.longer right).micros = max left.micros right.micros := by
  simp only [micros, longer, perMicro]
  omega

theorem shorter_comm (left right : Duration) : left.shorter right = right.shorter left := by
  rw [shorter, shorter, Nat.min_comm]

theorem longer_comm (left right : Duration) : left.longer right = right.longer left := by
  rw [longer, longer, Nat.max_comm]

theorem wordCount_pos : 0 < wordCount := by decide

end Duration

namespace RetryPolicy

open Duration (wordCount wordCount_pos)

/-- A delay of so many microseconds may be drawn before a retry. -/
def MayDraw (policy : RetryPolicy) (delay : Nat) : Prop :=
  ∃ range, policy.delayRange? = some range ∧ range.least ≤ delay ∧ delay ≤ range.greatest

/-- The whole microseconds of the shorter bound. -/
def leastMicros (policy : RetryPolicy) : Nat :=
  min policy.firstBound.micros policy.secondBound.micros

/-- The whole microseconds of the longer bound. -/
def greatestMicros (policy : RetryPolicy) : Nat :=
  max policy.firstBound.micros policy.secondBound.micros

variable (policy : RetryPolicy)

theorem leastMicros_le_greatestMicros : policy.leastMicros ≤ policy.greatestMicros := by
  rw [leastMicros, greatestMicros]
  omega

theorem microsWord_leastDelay :
    policy.leastDelay.microsWord = policy.leastMicros % wordCount := by
  rw [Duration.microsWord, leastDelay, Duration.micros_shorter, leastMicros]

theorem microsWord_greatestDelay :
    policy.greatestDelay.microsWord = policy.greatestMicros % wordCount := by
  rw [Duration.microsWord, greatestDelay, Duration.micros_longer, greatestMicros]

/-- The delays that may be drawn are those between the words of the two bounds. -/
theorem mayDraw_iff (delay : Nat) :
    policy.MayDraw delay ↔
      policy.leastMicros % wordCount ≤ delay ∧ delay ≤ policy.greatestMicros % wordCount := by
  rw [MayDraw, delayRange?, ← microsWord_leastDelay, ← microsWord_greatestDelay]
  constructor
  · rintro ⟨range, hrange, hbounds⟩
    split at hrange
    · cases hrange
      exact hbounds
    · cases hrange
  · intro hbounds
    rw [dif_pos (Nat.le_trans hbounds.1 hbounds.2)]
    exact ⟨_, rfl, hbounds⟩

/-- There is a delay to draw exactly if the words of the bounds are in order. -/
theorem exists_mayDraw_iff :
    (∃ delay, policy.MayDraw delay) ↔
      policy.leastMicros % wordCount ≤ policy.greatestMicros % wordCount := by
  simp only [mayDraw_iff]
  exact ⟨fun ⟨_, hleast, hgreatest⟩ => Nat.le_trans hleast hgreatest,
    fun hle => ⟨_, Nat.le_refl _, hle⟩⟩

/-- The order in which the bounds are given does not matter. -/
theorem delayRange?_withDelayBounds_comm (first second : Duration) :
    (policy.withDelayBounds second first).delayRange? =
      (policy.withDelayBounds first second).delayRange? := by
  have hleast : (policy.withDelayBounds second first).leastDelay =
      (policy.withDelayBounds first second).leastDelay := Duration.shorter_comm second first
  have hgreatest : (policy.withDelayBounds second first).greatestDelay =
      (policy.withDelayBounds first second).greatestDelay := Duration.longer_comm second first
  simp only [delayRange?, hleast, hgreatest]

/-- There are delays and all of them keep between the bounds, exactly if the
shorter bound fits a word and the word of the longer one is not below it. -/
theorem mayDraw_between_iff :
    ((∃ delay, policy.MayDraw delay) ∧ ∀ delay, policy.MayDraw delay →
        policy.leastMicros ≤ delay ∧ delay ≤ policy.greatestMicros) ↔
      policy.leastMicros < wordCount ∧
        policy.leastMicros ≤ policy.greatestMicros % wordCount := by
  rw [exists_mayDraw_iff]
  constructor
  · rintro ⟨hwords, hbetween⟩
    have hleast : policy.leastMicros ≤ policy.leastMicros % wordCount :=
      (hbetween _ ((policy.mayDraw_iff _).2 ⟨Nat.le_refl _, hwords⟩)).1
    exact ⟨Nat.lt_of_le_of_lt hleast (Nat.mod_lt _ wordCount_pos), Nat.le_trans hleast hwords⟩
  · rintro ⟨hfits, hle⟩
    refine ⟨Nat.le_trans (Nat.mod_le _ _) hle, fun delay hdelay => ?_⟩
    rw [mayDraw_iff, Nat.mod_eq_of_lt hfits] at hdelay
    exact ⟨hdelay.1, Nat.le_trans hdelay.2 (Nat.mod_le _ _)⟩

/-- The delays are those between the bounds, exactly if both bounds fit a word. -/
theorem mayDraw_iff_between_iff :
    (∀ delay, policy.MayDraw delay ↔
        policy.leastMicros ≤ delay ∧ delay ≤ policy.greatestMicros) ↔
      policy.greatestMicros < wordCount := by
  have hordered := policy.leastMicros_le_greatestMicros
  constructor
  · intro hall
    have hgreatest := (policy.mayDraw_iff _).1 ((hall policy.greatestMicros).2
      ⟨hordered, Nat.le_refl _⟩)
    exact Nat.lt_of_le_of_lt hgreatest.2 (Nat.mod_lt _ wordCount_pos)
  · intro hfits delay
    rw [mayDraw_iff, Nat.mod_eq_of_lt hfits, Nat.mod_eq_of_lt (Nat.lt_of_le_of_lt hordered hfits)]

end RetryPolicy

namespace Setting

variable {setting : Setting Value State Result} {left number : Nat} {before : State}
  {retries : List (Retry Value Result)} {last : Block Value Result} {trace : Trace Value}
  {ended : Outcome Result × State}

/-- Every retry of a transaction waits for a delay that its policy may draw. -/
theorem Course.mayDraw (hcourse : setting.Course left number before retries last trace ended) :
    ∀ retry ∈ retries, setting.policy.MayDraw retry.delay.val := by
  induction hcourse with
  | last hinvokes hends => exact fun retry hmem => nomatch hmem
  | @retry _ _ _ _ _ _ _ _ _ _ delay _ _ hinvokes hfailure hrollback hretry hrange hrest ih =>
      intro retry hmem
      rcases List.mem_cons.1 hmem with rfl | hmem
      · exact ⟨_, hrange, delay.property⟩
      · exact ih retry hmem

/-- A transaction ends for want of a delay only if its policy has none. -/
theorem Ends.delayRange?_of_noDelay {block : Block Value Result} {closing : Trace Value}
    {outcome : Outcome Result} (hends : setting.Ends left number block closing outcome)
    (houtcome : outcome = .noDelay) : setting.policy.delayRange? = none := by
  cases hends with
  | noDelay _ _ _ _ hrange => exact hrange
  | committed _ | rollbackFailed _ _ | refused _ _ _ | gaveUp _ _ _ _ => cases houtcome

end Setting

/-- The waits of several attempts are the delays of the retries. -/
theorem waited_mem_actsOfBlocks_iff {handle : Handle} {isolation : Isolation}
    {retries : List (Retry Value Result)} {last : Block Value Result} {delay : Nat} :
    .waited delay ∈ actsOfBlocks handle isolation retries last ↔
      ∃ retry ∈ retries, retry.delay.val = delay := by
  simp [actsOfBlocks, Block.waited_not_mem_acts, eq_comm]

section Runs

variable {policy : RetryPolicy} {isolation : Isolation} {callback : Callback Value State Result}
  {state : State} {trace : Trace Value} {ended : Outcome Result × State}

/-- Whatever a transaction waits for is a delay that its policy may draw. -/
theorem mayDraw_of_waited_mem_acts
    (hrun : (runWith policy isolation callback state).Yields trace ended) {delay : Nat}
    (hwaited : .waited delay ∈ acts trace) : policy.MayDraw delay := by
  obtain ⟨transaction, failure, -, rfl⟩ |
    ⟨transaction, handle, retries, last, course, -, hcourse, rfl⟩ := runWith_cases hrun
  · rw [acts_refusedTrace] at hwaited
    cases hwaited
  · rw [acts_heldTrace, hcourse.consists.acts_eq, waited_mem_actsOfBlocks_iff] at hwaited
    obtain ⟨retry, hmem, rfl⟩ := hwaited
    exact hcourse.mayDraw retry hmem

/-- A transaction ends for want of a delay only if no delay may be drawn. -/
theorem not_mayDraw_of_noDelay
    (hrun : (runWith policy isolation callback state).Yields trace ended)
    (hended : ended.1 = .noDelay) : ¬ ∃ delay, policy.MayDraw delay := by
  obtain ⟨transaction, failure, rfl, -⟩ |
    ⟨transaction, handle, retries, last, course, -, hcourse, -⟩ := runWith_cases hrun
  · cases hended
  · obtain ⟨closing, hends⟩ := hcourse.ends
    rintro ⟨delay, range, hrange, -⟩
    cases (hends.delayRange?_of_noDelay hended).symm.trans hrange

end Runs

/-- The delays that may be drawn before a retry are those between the words of
the two bounds, in whichever order these are given.  There are delays and all
keep between the bounds exactly if the shorter bound fits a word and the word of
the longer one is not below it; they are all of those between the bounds exactly
if both fit.  A transaction waits for such delays only, and ends for want of one
only if there is none. -/
theorem delay_is_drawn_between_words_of_bounds (policy : RetryPolicy) :
    (∀ delay, policy.MayDraw delay ↔
      policy.leastMicros % Duration.wordCount ≤ delay ∧
        delay ≤ policy.greatestMicros % Duration.wordCount) ∧
    (∀ delay, (policy.withDelayBounds policy.secondBound policy.firstBound).MayDraw delay ↔
      policy.MayDraw delay) ∧
    (((∃ delay, policy.MayDraw delay) ∧ ∀ delay, policy.MayDraw delay →
        policy.leastMicros ≤ delay ∧ delay ≤ policy.greatestMicros) ↔
      policy.leastMicros < Duration.wordCount ∧
        policy.leastMicros ≤ policy.greatestMicros % Duration.wordCount) ∧
    ((∀ delay, policy.MayDraw delay ↔
        policy.leastMicros ≤ delay ∧ delay ≤ policy.greatestMicros) ↔
      policy.greatestMicros < Duration.wordCount) ∧
    ∀ {Value State Result Surroundings : Type}
      (world : World (sourceSignature Value) Surroundings) (start : Surroundings)
      (isolation : Isolation) (callback : Callback Value State Result) (state : State),
      (∀ delay, .waited delay ∈ acts (runIn world start policy isolation callback state).trace →
        policy.MayDraw delay) ∧
      ((runIn world start policy isolation callback state).result.1 = .noDelay →
        ¬ ∃ delay, policy.MayDraw delay) := by
  refine ⟨policy.mayDraw_iff, ?_, policy.mayDraw_between_iff, policy.mayDraw_iff_between_iff, ?_⟩
  · intro delay
    rw [RetryPolicy.MayDraw, policy.delayRange?_withDelayBounds_comm]
    rfl
  · intro Value State Result Surroundings world start isolation callback state
    have hyields := Program.yields_run world (runWith policy isolation callback state) start
    exact ⟨fun delay hwaited => mayDraw_of_waited_mem_acts hyields hwaited,
      not_mayDraw_of_noDelay hyields⟩

/-- The usual bounds, the longer one first. -/
theorem delay_is_drawn_between_usual_bounds :
    (RetryPolicy.withDelayBounds {} (.ofMillis 250) (.ofMillis 25)).greatestMicros <
      Duration.wordCount ∧
    ∀ delay, (RetryPolicy.withDelayBounds {} (.ofMillis 250) (.ofMillis 25)).MayDraw delay ↔
      25000 ≤ delay ∧ delay ≤ 250000 := by
  have hfits : (RetryPolicy.withDelayBounds {} (.ofMillis 250) (.ofMillis 25)).greatestMicros <
      Duration.wordCount := by decide
  have hdelays := delay_is_drawn_between_words_of_bounds
    (RetryPolicy.withDelayBounds {} (.ofMillis 250) (.ofMillis 25))
  exact ⟨hfits, hdelays.2.2.2.1.2 hfits⟩

/-- Where the longer bound does not fit a word, its word may stand below the
shorter bound, so that there is no delay; and where neither fits, a delay may be
far below both. -/
theorem delays_miss_bounds_beyond_word :
    (¬ ∃ delay, (RetryPolicy.withDelayBounds {} (.ofParts 1 0)
      (.ofParts 18446744073709 551616000)).MayDraw delay) ∧
    (RetryPolicy.withDelayBounds {} (.ofParts 18446744073709 551626000)
      (.ofParts 18446744073709 551636000)).MayDraw 15 ∧
    15 < (RetryPolicy.withDelayBounds {} (.ofParts 18446744073709 551626000)
      (.ofParts 18446744073709 551636000)).leastMicros := by
  rw [RetryPolicy.exists_mayDraw_iff, RetryPolicy.mayDraw_iff]
  decide

end SqlWeave.Transaction
