import Mathlib.Data.List.Forall2
import Mathlib.Data.List.Infix
import SqlWeave.Proofs.Transaction.Events
import SqlWeave.Proofs.Transaction.Protocol
import SqlWeave.Proofs.Transaction.Scripted

/-!
# Attempt budgets

How many attempts a transaction may make decides when it gives up and nothing
else.  Two runs in a world that keeps to its script go the same way round by
round until the one with the smaller budget ends, and nothing but the number of
the next attempt is carried from one round to another.
-/

namespace SqlWeave.Transaction

open Connection (Reply)

variable {Value State Result Surroundings View : Type}

namespace Setting

variable {world : World (sourceSignature Value) Surroundings} {view : Surroundings → View}
  {setting : Setting Value State Result} {before after : State} {start here there : Surroundings}
  {block : Block Value Result} {seen : View}

/-- A round whose block ends the attempts is their whole course. -/
theorem Round.course_last (hround : Round world view setting before start block after seen)
    (transaction : TransactionId) (policy : RetryPolicy) (left number : Nat)
    (hview : view here = view start) (hlast : block.IsConflict → left = 0) :
    let run := ((setting.under transaction policy).attempts left number before).run world here
    (setting.under transaction policy).Course left number before [] block run.trace run.result ∧
      run.result.2 = after ∧ view run.state = seen := by
  obtain ⟨closing, outcome, there, hthere, hends, hrun⟩ :=
    hround.last transaction policy left number here hview hlast
  rw [hrun]
  exact ⟨.last hround.invokes hends, rfl, hthere⟩

/-- A round with a conflict is followed by the course of the attempts that are left. -/
theorem Round.course_retry (hround : Round world view setting before start block after seen)
    (transaction : TransactionId) {policy : RetryPolicy} (left number : Nat) {range : DelayRange}
    (hview : view here = view start) (hconflict : block.IsConflict)
    (hrange : policy.delayRange? = some range) :
    ∃ (delay : range.Delay) (there : Surroundings) (front : Trace Value), view there = seen ∧
      acts front = block.acts setting.handle setting.isolation ++ [.waited delay.val] ∧
      let run := ((setting.under transaction policy).attempts (left + 1) number before).run
        world here
      let rest := ((setting.under transaction policy).attempts left (number + 1) after).run
        world there
      run = { rest with trace := front ++ rest.trace } ∧
      ∀ {retries last},
        (setting.under transaction policy).Course left (number + 1) after retries last
          rest.trace rest.result →
        (setting.under transaction policy).Course (left + 1) number before
          (⟨block, range, delay⟩ :: retries) last run.trace run.result := by
  obtain ⟨failure, delay, there, hfailure, hretry, hthere, hrun⟩ :=
    hround.retry transaction policy left number here range hview hconflict hrange
  obtain ⟨-, reply, hrollback⟩ := hconflict
  refine ⟨delay, there, _, hthere, ?_, hrun, ?_⟩
  · simp [Block.acts]
  · intro retries last hrest
    rw [hrun]
    exact .retry hround.invokes hfailure hrollback hretry hrange hrest

/-- What the attempts under a larger budget have in common with those under a
smaller one: everything if these do not give up, and their blocks if they do. -/
structure Prolongs (view : Surroundings → View) (left more : Nat)
    (short long : Run (sourceSignature Value) Surroundings (Outcome Result × State))
    (retries : List (Retry Value Result)) (last : Block Value Result)
    (others : List (Retry Value Result)) (final : Block Value Result) : Prop where
  same : (last.IsConflict → left = more) →
    others.map Retry.block = retries.map Retry.block ∧ final = last ∧
      long.result.2 = short.result.2 ∧ view long.state = view short.state
  further : last.IsConflict →
    retries.map Retry.block ++ [last] <+: others.map Retry.block ++ [final]

/-- The attempts under two budgets have courses, and the second one prolongs the first. -/
def Parallel (view : Surroundings → View) (first second : Setting Value State Result)
    (left number more later : Nat) (before : State)
    (short long : Run (sourceSignature Value) Surroundings (Outcome Result × State)) : Prop :=
  ∃ retries last others final,
    first.Course left number before retries last short.trace short.result ∧
    second.Course more later before others final long.trace long.result ∧
    Prolongs view left more short long retries last others final

/-- A round that ends the attempts under both budgets ends them alike. -/
theorem Round.parallel_last (hround : Round world view setting before start block after seen)
    (name other : TransactionId) (fewer more : RetryPolicy) {left further : Nat}
    (number later : Nat) (hhere : view here = view start) (hthere : view there = view start)
    (hleft : block.IsConflict → left = 0) (hfurther : block.IsConflict → further = 0) :
    Parallel view (setting.under name fewer) (setting.under other more) left number further later
      before (((setting.under name fewer).attempts left number before).run world here)
      (((setting.under other more).attempts further later before).run world there) := by
  obtain ⟨hshort, hshortAfter, hshortSeen⟩ :=
    hround.course_last name fewer left number hhere hleft
  obtain ⟨hlong, hlongAfter, hlongSeen⟩ :=
    hround.course_last other more further later hthere hfurther
  refine ⟨[], block, [], block, hshort, hlong, ?_, ?_⟩
  · exact fun _ => ⟨rfl, rfl, hlongAfter.trans hshortAfter.symm,
      hlongSeen.trans hshortSeen.symm⟩
  · exact fun _ => List.prefix_rfl

/-- Attempts under two budgets go the same way, round by round. -/
theorem parallel_attempts (hscripted : Scripted world view)
    (setting : Setting Value State Result) (name other : TransactionId)
    {fewer more : RetryPolicy} {range wide : DelayRange}
    (hfewer : fewer.delayRange? = some range) (hmore : more.delayRange? = some wide)
    {left further : Nat} (hleft : left ≤ further) (number later : Nat) (before : State)
    {here there : Surroundings} (hview : view there = view here) :
    Parallel view (setting.under name fewer) (setting.under other more) left number further later
      before (((setting.under name fewer).attempts left number before).run world here)
      (((setting.under other more).attempts further later before).run world there) := by
  induction left generalizing further number later before here there with
  | zero =>
      obtain ⟨block, after, seen, hround⟩ := exists_round hscripted setting before here
      by_cases hconflict : block.IsConflict ∧ 0 < further
      · -- The smaller budget gives up here, and the larger one goes on.
        obtain ⟨hconflict, hfurther⟩ := hconflict
        obtain ⟨further, rfl⟩ : ∃ fewer, further = fewer + 1 := ⟨further - 1, by omega⟩
        obtain ⟨hshort, -, -⟩ := hround.course_last name fewer 0 number rfl fun _ => rfl
        obtain ⟨delay, next, front, hnext, -, hlong, hcourse⟩ :=
          hround.course_retry other further later hview hconflict hmore
        obtain ⟨others, final, hrest⟩ :=
          exists_course_of_yields (Program.yields_run world
            ((setting.under other more).attempts further (later + 1) after) next)
        refine ⟨[], block, _, final, hshort, hcourse hrest, ?_, ?_⟩
        · intro hlast
          cases hlast hconflict
        · intro _
          exact List.prefix_append [block] _
      · refine hround.parallel_last name other fewer more number later rfl hview (fun _ => rfl) ?_
        intro hlast
        exact Nat.eq_zero_of_not_pos fun hfurther => hconflict ⟨hlast, hfurther⟩
  | succ left ih =>
      obtain ⟨further, rfl⟩ : ∃ fewer, further = fewer + 1 := ⟨further - 1, by omega⟩
      obtain ⟨block, after, seen, hround⟩ := exists_round hscripted setting before here
      by_cases hconflict : block.IsConflict
      · obtain ⟨delay, next, front, hnext, -, hshort, hshortCourse⟩ :=
          hround.course_retry name left number rfl hconflict hfewer
        obtain ⟨delay', next', front', hnext', -, hlong, hlongCourse⟩ :=
          hround.course_retry other further later hview hconflict hmore
        obtain ⟨retries, last, others, final, hfirst, hsecond, hprolongs⟩ :=
          ih (Nat.le_of_succ_le_succ hleft) (number + 1) (later + 1) after
            (hnext'.trans hnext.symm)
        refine ⟨_, last, _, final, hshortCourse hfirst, hlongCourse hsecond, ?_, ?_⟩
        · intro hlast
          obtain ⟨hblocks, hfinal, hstate, hend⟩ :=
            hprolongs.same fun hlast' => Nat.succ.inj (hlast hlast')
          refine ⟨congrArg (block :: ·) hblocks, hfinal, ?_, ?_⟩
          · rwa [← congrArg Run.result hlong, ← congrArg Run.result hshort] at hstate
          · rwa [← congrArg Run.state hlong, ← congrArg Run.state hshort] at hend
        · intro hlast
          exact List.cons_prefix_cons.2 ⟨rfl, hprolongs.further hlast⟩
      · exact hround.parallel_last name other fewer more number later rfl hview
          (fun hlast => (hconflict hlast).elim) (fun hlast => (hconflict hlast).elim)

/-- What attempts have done before some retry, and what is left to be done then. -/
structure Resumes (world : World (sourceSignature Value) Surroundings)
    (setting : Setting Value State Result) (left number : Nat) (before : State)
    (whole : Run (sourceSignature Value) Surroundings (Outcome Result × State))
    (done : List (Retry Value Result)) (front : Trace Value) (middle : State)
    (there : Surroundings) : Prop where
  whole_eq : whole =
    let rest := (setting.attempts left number middle).run world there
    { rest with trace := front ++ rest.trace }
  acts_eq : acts front = done.flatMap fun retry =>
    retry.block.acts setting.handle setting.isolation ++ [.waited retry.delay.val]
  invocations : Invocations setting.callback before (done.map Retry.block) middle

theorem resumes_at_start (setting : Setting Value State Result) (left number : Nat)
    (before : State) (here : Surroundings) :
    Resumes world setting left number before
      ((setting.attempts left number before).run world here) [] [] before here :=
  ⟨rfl, rfl, rfl⟩

/-- Attempts can be cut before every retry. -/
theorem exists_resumes (hscripted : Scripted world view) (setting : Setting Value State Result)
    (name : TransactionId) {policy : RetryPolicy} {range : DelayRange}
    (hrange : policy.delayRange? = some range) (left number : Nat) (before : State)
    (here : Surroundings) :
    let whole := ((setting.under name policy).attempts left number before).run world here
    ∃ retries last,
      (setting.under name policy).Course left number before retries last
        whole.trace whole.result ∧
      ∀ done ≤ retries.length, ∃ front middle there,
        Resumes world (setting.under name policy) (left - done) (number + done) before whole
          (retries.take done) front middle there := by
  intro whole
  induction left generalizing number before here with
  | zero =>
      obtain ⟨block, after, seen, hround⟩ := exists_round hscripted setting before here
      obtain ⟨hcourse, -, -⟩ := hround.course_last name policy 0 number rfl fun _ => rfl
      refine ⟨[], block, hcourse, fun done hdone => ?_⟩
      obtain rfl := Nat.le_zero.1 hdone
      exact ⟨[], before, here, resumes_at_start _ 0 number before here⟩
  | succ left ih =>
      obtain ⟨block, after, seen, hround⟩ := exists_round hscripted setting before here
      by_cases hconflict : block.IsConflict
      · obtain ⟨delay, next, front, -, hacts, hwhole, hcourse⟩ :=
          hround.course_retry name left number rfl hconflict hrange
        obtain ⟨retries, last, hrest, hcuts⟩ := ih (number + 1) after next
        refine ⟨_, last, hcourse hrest, fun done hdone => ?_⟩
        cases done with
        | zero => exact ⟨[], before, here, resumes_at_start _ (left + 1) number before here⟩
        | succ done =>
            obtain ⟨back, middle, there, hrest, hback, hinvocations⟩ :=
              hcuts done (Nat.le_of_succ_le_succ hdone)
            refine ⟨front ++ back, middle, there, ?_, ?_, after, hround.invokes, hinvocations⟩
            · rw [Nat.add_sub_add_right, ← Nat.add_assoc, Nat.add_right_comm]
              refine hwhole.trans ?_
              rw [hrest]
              simp only [List.append_assoc]
            · rw [acts_append, hacts, hback]
              rfl
      · obtain ⟨hcourse, -, -⟩ :=
          hround.course_last name policy (left + 1) number rfl fun hlast => (hconflict hlast).elim
        refine ⟨[], block, hcourse, fun done hdone => ?_⟩
        obtain rfl := Nat.le_zero.1 hdone
        exact ⟨[], before, here, resumes_at_start _ (left + 1) number before here⟩

end Setting

/-- An event of an attempt, and the same event of an attempt that has a later
number and is one of more.  The delays may differ. -/
inductive TransactionEvent.Later (done : Nat) : TransactionEvent → TransactionEvent → Prop where
  | retrying (number limit : Nat) :
      Later done (.retrying number limit) (.retrying (number + done) (limit + done))
  | committed (number : Nat) : Later done (.committed number) (.committed (number + done))
  | rollbackFailed (failure : Error) :
      Later done (.rollbackFailed failure) (.rollbackFailed failure)
  | backingOff (code : String) (number limit delay other : Nat) :
      Later done (.backingOff code number limit delay)
        (.backingOff code (number + done) (limit + done) other)
  | gaveUp (code : String) (number limit : Nat) :
      Later done (.gaveUp code number limit) (.gaveUp code (number + done) (limit + done))

/-- An attempt closes alike under a later number, if the limit moves along. -/
theorem Block.later_closing (block : Block Value Result) (done number limit : Nat) :
    List.Forall₂ (TransactionEvent.Later done) (block.closing number limit)
      (block.closing (number + done) (limit + done)) := by
  obtain ⟨result, hresult⟩ | ⟨failure, rollback | reply, hfailure, hrollback⟩ :=
    block.result_or_failure
  · rw [(ends_of_result? hresult _ _).1, (ends_of_result? hresult _ _).1]
    exact .cons (.committed number) .nil
  · rw [closing_of_rollback? hfailure hrollback, closing_of_rollback? hfailure hrollback]
    exact .cons (.rollbackFailed rollback) .nil
  · rw [closing_of_rollback? hfailure hrollback, closing_of_rollback? hfailure hrollback,
      abortEvents, abortEvents]
    split
    · exact .cons (.gaveUp _ number limit) .nil
    · exact .nil

/-- The same blocks note the same events, up to the numbers and the delays. -/
theorem later_eventsOfBlocks (done number limit : Nat) {retries others : List (Retry Value Result)}
    (hblocks : others.map Retry.block = retries.map Retry.block) (last : Block Value Result) :
    List.Forall₂ (TransactionEvent.Later done) (eventsOfBlocks number limit retries last)
      (eventsOfBlocks (number + done) (limit + done) others last) := by
  induction retries generalizing number others with
  | nil =>
      obtain rfl := List.map_eq_nil_iff.1 hblocks
      exact last.later_closing done number limit
  | cons retry retries ih =>
      cases others with
      | nil => cases hblocks
      | cons other others =>
          obtain ⟨hblock, hblocks⟩ := List.cons_eq_cons.1 hblocks
          rw [eventsOfBlocks, eventsOfBlocks, hblock, Nat.add_right_comm]
          exact .cons (.backingOff _ number limit _ _)
            (.cons (.retrying (number + 1) limit) (ih (number + 1) hblocks))

/-- A course whose last block is a conflict has used up the attempts that were left. -/
theorem Setting.Course.length_of_isConflict {setting : Setting Value State Result}
    {left number : Nat} {before : State} {retries : List (Retry Value Result)}
    {last : Block Value Result} {trace : Trace Value} {ended : Outcome Result × State}
    {range : DelayRange} (hcourse : setting.Course left number before retries last trace ended)
    (hrange : setting.policy.delayRange? = some range) (hlast : last.IsConflict) :
    retries.length = left := by
  obtain ⟨closing, hends⟩ := hcourse.ends
  obtain ⟨⟨failure, hfailure, hretry⟩, reply, hrollback⟩ := hlast
  have hlength := hcourse.length_le
  generalize hfewer : left - retries.length = fewer at hends
  generalize ended.1 = outcome at hends
  have hnone : fewer = 0 := by
    cases hends with
    | committed hresult =>
        cases last <;> cases hresult
        cases hfailure
    | rollbackFailed _ hother =>
        rw [hrollback] at hother
        cases hother
    | refused hother _ hfinal =>
        rw [hfailure] at hother
        cases hother
        rw [hretry] at hfinal
        cases hfinal
    | gaveUp _ _ _ hleft => exact hleft
    | noDelay _ _ _ _ hnone =>
        rw [hrange] at hnone
        cases hnone
  omega

section Transactions

variable {world : World (sourceSignature Value) Surroundings} {view : Surroundings → View}

/-- What the source of connections answers to a transaction that begins. -/
def acquisition (world : World (sourceSignature Value) Surroundings) (here : Surroundings) :
    Except Error Handle × Surroundings :=
  world.respond .acquire (world.respond .identify here).2

theorem Scripted.acquisition_eq (hscripted : Scripted world view) {here there : Surroundings}
    (hview : view here = view there) :
    (acquisition world here).1 = (acquisition world there).1 ∧
      view (acquisition world here).2 = view (acquisition world there).2 := by
  have hidentified := hscripted.next .identify here there hview
  exact ⟨hscripted.answers .acquire trivial _ _ hidentified,
    hscripted.next .acquire _ _ hidentified⟩

/-- A transaction that acquires no connection does nothing else. -/
theorem exists_runIn_refused {here : Surroundings} {failure : Error}
    (hacquire : (acquisition world here).1 = .error failure) (policy : RetryPolicy)
    (isolation : Isolation) (callback : Callback Value State Result) (state : State) :
    ∃ transaction there, runIn world here policy isolation callback state =
      ⟨(.failed failure, state), refusedTrace transaction failure, there⟩ := by
  have hidentify : (SourceProgram.call .identify).run world here =
      ⟨(world.respond .identify here).1, [⟨.identify, (world.respond .identify here).1⟩],
        (world.respond .identify here).2⟩ := rfl
  have hacquired : (SourceProgram.call .acquire).run world (world.respond .identify here).2 =
      ⟨.error failure, [⟨.acquire, (.error failure : Except Error Handle)⟩],
        (acquisition world here).2⟩ := by
    rw [← hacquire]
    rfl
  refine ⟨(world.respond .identify here).1, (acquisition world here).2, ?_⟩
  rw [runIn, runWith, Program.run_bind_of_run hidentify, Program.run_bind_of_run hacquired]
  rfl

/-- A transaction that acquires a connection makes its attempts on it. -/
theorem exists_runIn_held (hscripted : Scripted world view) {here : Surroundings}
    {handle : Handle} (hacquire : (acquisition world here).1 = .ok handle)
    (policy : RetryPolicy) (isolation : Isolation) (callback : Callback Value State Result)
    (state : State) :
    ∃ transaction there, view there = view (acquisition world here).2 ∧
      let setting : Setting Value State Result :=
        { handle, transaction, policy, isolation, callback }
      let attempts := (setting.attempts (policy.attemptLimit - 1) 1 state).run world there
      (runIn world here policy isolation callback state).result = attempts.result ∧
        (runIn world here policy isolation callback state).trace =
          heldTrace transaction handle isolation attempts.trace := by
  let transaction : TransactionId := (world.respond .identify here).1
  let setting : Setting Value State Result := { handle, transaction, policy, isolation, callback }
  have hidentify : (SourceProgram.call .identify).run world here =
      ⟨transaction, [⟨.identify, transaction⟩], (world.respond .identify here).2⟩ := rfl
  have hacquired : (SourceProgram.call .acquire).run world (world.respond .identify here).2 =
      ⟨.ok handle, [⟨.acquire, (.ok handle : Except Error Handle)⟩],
        (acquisition world here).2⟩ := by
    rw [← hacquire]
    rfl
  obtain ⟨there, hthere, hnote⟩ := Setting.exists_run_note hscripted setting (.started isolation)
    (acquisition world here).2
  refine ⟨transaction, there, hthere, ?_⟩
  intro _ attempts
  have hattempts : (setting.attempts (policy.attemptLimit - 1) 1 state).run world there =
      ⟨attempts.result, attempts.trace, attempts.state⟩ := rfl
  have hheld : (do
      setting.note (.started isolation)
      let ended ← setting.attempts (policy.attemptLimit - 1) 1 state
      SourceProgram.call (.release handle)
      setting.note .released
      return ended : SourceProgram Value (Outcome Result × State)).run world
        (acquisition world here).2 =
      ⟨attempts.result, [noted transaction (.started isolation)] ++ (attempts.trace ++
        [⟨.release handle, ()⟩, noted transaction .released]),
        (world.respond (.note transaction .released)
          (world.respond (.release handle) attempts.state).2).2⟩ := by
    rw [Program.run_bind_of_run hnote, Program.run_bind_of_run hattempts]
    rfl
  rw [runIn, runWith, Program.run_bind_of_run hidentify, Program.run_bind_of_run hacquired]
  have hresult := congrArg Run.result hheld
  have htrace := congrArg (fun run => [⟨.identify, transaction⟩] ++
    ([⟨.acquire, (.ok handle : Except Error Handle)⟩] ++ run.trace)) hheld
  exact ⟨hresult, htrace⟩

/-- What it means that a transaction prolongs another one with a budget of so
many attempts.  If that one does not give up, both have the same result, the
same attempts and the same statements.  If it gives up, it does so after all
its attempts, and these are the first ones of the longer transaction. -/
def Prolonged (handle : Handle) (isolation : Isolation) (callback : Callback Value State Result)
    (state : State) (limit : Nat)
    (short long : Run (sourceSignature Value) Surroundings (Outcome Result × State)) : Prop :=
  ∃ (retries : List (Retry Value Result)) (last : Block Value Result)
      (others : List (Retry Value Result)) (final : Block Value Result),
    Consists handle isolation callback state short.result.2 short.trace retries last ∧
    Consists handle isolation callback state long.result.2 long.trace others final ∧
    (¬ GivesUp short.trace →
      long.result = short.result ∧
      others.map Retry.block ++ [final] = retries.map Retry.block ++ [last] ∧
      sent long.trace = sent short.trace) ∧
    (GivesUp short.trace →
      retries.length + 1 = limit ∧
      (∃ failure, last.failure? = some failure ∧
        short.result.1 = .failed (.retriesExhausted limit failure)) ∧
      retries.map Retry.block ++ [last] <+: others.map Retry.block ++ [final] ∧
      sent short.trace <+: sent long.trace)

/-- What it means that the attempts that are left after some retries equal fresh
attempts of a transaction with a budget of so many: they are the same blocks
with the same statements, from the same state to the same state, and what is
noted and reported of them has later numbers. -/
structure EqualsFresh (view : Surroundings → View) (handle : Handle) (isolation : Isolation)
    (callback : Callback Value State Result) (middle : State) (done limit : Nat)
    (fresh rest : Run (sourceSignature Value) Surroundings (Outcome Result × State)) : Prop where
  blocks : ∃ (retries others : List (Retry Value Result)) (last : Block Value Result),
    Consists handle isolation callback middle fresh.result.2 fresh.trace retries last ∧
    Consists handle isolation callback middle rest.result.2 rest.trace others last ∧
    others.map Retry.block = retries.map Retry.block ∧
    fresh.result.1 = last.outcome (retries.length + 1) ∧
    rest.result.1 = last.outcome (retries.length + 1 + done)
  statements : sent rest.trace = sent fresh.trace
  state : rest.result.2 = fresh.result.2
  seen : view rest.state = view fresh.state
  noted : ∃ later, events rest.trace = beginEvents (1 + done) (limit + done) ++ later ∧
    List.Forall₂ (TransactionEvent.Later done) (events fresh.trace) later

/-- Parallel courses make one transaction prolong the other. -/
theorem Setting.prolonged_of_parallel (setting : Setting Value State Result)
    {name other : TransactionId} {fewer more : RetryPolicy} {range wide : DelayRange}
    (hfewer : fewer.delayRange? = some range) (hmore : more.delayRange? = some wide)
    {attempts extended short long :
      Run (sourceSignature Value) Surroundings (Outcome Result × State)}
    {state : State} (hparallel : Parallel view (setting.under name fewer) (setting.under other more)
      (fewer.attemptLimit - 1) 1 (more.attemptLimit - 1) 1 state attempts extended)
    (hresult : short.result = attempts.result)
    (htrace : short.trace = heldTrace name setting.handle setting.isolation attempts.trace)
    (hlongResult : long.result = extended.result)
    (hlongTrace : long.trace = heldTrace other setting.handle setting.isolation extended.trace) :
    Prolonged setting.handle setting.isolation setting.callback state fewer.attemptLimit
      short long := by
  obtain ⟨retries, last, others, final, hshort, hlong, hsame, hfurther⟩ := hparallel
  have hconsists : Consists setting.handle setting.isolation setting.callback state
      short.result.2 short.trace retries last := by
    rw [hresult, htrace]
    exact hshort.consists_heldTrace name
  have hothers : Consists setting.handle setting.isolation setting.callback state
      long.result.2 long.trace others final := by
    rw [hlongResult, hlongTrace]
    exact hlong.consists_heldTrace other
  have hgivesUp : GivesUp short.trace ↔ last.IsConflict := by
    rw [htrace]
    exact givesUp_heldTrace_iff hshort hfewer (Nat.le_refl 1) name _ _
  refine ⟨retries, last, others, final, hconsists, hothers, ?_, ?_⟩
  · intro hends
    rw [hgivesUp] at hends
    obtain ⟨hblocks, rfl, hstate, -⟩ := hsame fun hlast => (hends hlast).elim
    have houtcome : extended.result.1 = attempts.result.1 := by
      rw [hlong.outcome_eq hmore, hshort.outcome_eq hfewer]
      exact final.outcome_of_not_isConflict hends _ _
    refine ⟨?_, by rw [hblocks], ?_⟩
    · rw [hresult, hlongResult]
      exact Prod.ext houtcome hstate
    · rw [hothers.sent_eq, hconsists.sent_eq, hblocks]
  · intro hgives
    have hlast := hgivesUp.1 hgives
    have hlimit : 1 ≤ fewer.attemptLimit := Nat.le_max_right _ _
    have hlength := hshort.length_of_isConflict hfewer hlast
    obtain ⟨failure, hfailure, houtcome⟩ :=
      last.exists_outcome_of_isConflict hlast fewer.attemptLimit
    refine ⟨by omega, ⟨failure, hfailure, ?_⟩, hfurther hlast, ?_⟩
    · rw [hresult, hshort.outcome_eq hfewer, ← houtcome]
      congr 1
      omega
    · rw [hconsists.sent_eq, hothers.sent_eq]
      exact List.IsPrefix.flatMap (hfurther hlast) _

/-- The attempts that are left equal fresh ones with as large a budget. -/
theorem Setting.equalsFresh_attempts (hscripted : Scripted world view)
    (setting : Setting Value State Result) (transaction name : TransactionId)
    {policy fewer : RetryPolicy} {range wide : DelayRange}
    (hpolicy : policy.delayRange? = some range) (hfewer : fewer.delayRange? = some wide)
    (middle : State) (done : Nat) (hlimit : fewer.attemptLimit + done = policy.attemptLimit)
    {reached there : Surroundings} (hview : view there = view reached) :
    EqualsFresh view setting.handle setting.isolation setting.callback middle done
      fewer.attemptLimit
      (((setting.under name fewer).attempts (fewer.attemptLimit - 1) 1 middle).run world there)
      (((setting.under transaction policy).attempts (policy.attemptLimit - 1 - done) (1 + done)
        middle).run world reached) := by
  have hpositive : 1 ≤ fewer.attemptLimit := Nat.le_max_right _ _
  have hleft : fewer.attemptLimit - 1 = policy.attemptLimit - 1 - done := by omega
  obtain ⟨retries, last, others, final, hfresh, hrest, hsame, -⟩ :=
    parallel_attempts hscripted setting name transaction hfewer hpolicy (Nat.le_of_eq hleft) 1
      (1 + done) middle hview.symm
  obtain ⟨hblocks, rfl, hstate, hseen⟩ := hsame fun _ => hleft
  have hlength : others.length = retries.length := by
    rw [← List.length_map Retry.block, hblocks, List.length_map]
  refine ⟨⟨retries, others, final, hfresh.consists, hrest.consists, hblocks, ?_, ?_⟩, ?_, hstate,
    hseen, eventsOfBlocks (1 + done) (fewer.attemptLimit + done) others final, ?_, ?_⟩
  · rw [hfresh.outcome_eq hfewer, Nat.add_comm]
  · rw [hrest.outcome_eq hpolicy, hlength, Nat.add_right_comm, Nat.add_comm 1]
  · rw [hrest.consists.sent_eq, hfresh.consists.sent_eq, hblocks]
    rfl
  · rw [hrest.events_eq hpolicy (Nat.le_add_right 1 done), hlimit]
    rfl
  · rw [hfresh.events_eq hfewer (Nat.le_refl 1)]
    exact later_eventsOfBlocks done 1 fewer.attemptLimit hblocks final

/-- In a world that keeps to a script, a larger budget only prolongs a
transaction.  Without a connection both budgets fail alike and send nothing.
With one, a transaction that does not give up has the same result after the
same attempts under a larger budget, and one that gives up has made the first
attempts of the transaction that does not.  Moreover, after any number of
retries the attempts that are left equal fresh attempts, with a budget that is
smaller by that number, of a transaction that begins where these go on; only
the numbers of attempts that are noted and reported are larger by it. -/
theorem runWith_prolonged_by_larger_budget (hscripted : Scripted world view)
    (fewer more : RetryPolicy) (hbudget : fewer.maxAttempts ≤ more.maxAttempts)
    (hfewer : fewer.delayRange?.isSome) (hmore : more.delayRange?.isSome)
    (isolation : Isolation) (callback : Callback Value State Result) (state : State)
    (start other : Surroundings) (hview : view other = view start) :
    let short := runIn world start fewer isolation callback state
    let long := runIn world other more isolation callback state
    (∀ error, ⟨.acquire, (.error error : Except Error Handle)⟩ ∈ short.trace →
      short.result = (.failed error, state) ∧ long.result = short.result ∧
      acts short.trace = [] ∧ acts long.trace = []) ∧
    (∀ handle, ⟨.acquire, (.ok handle : Except Error Handle)⟩ ∈ short.trace →
      Prolonged handle isolation callback state (max 1 fewer.maxAttempts) short long ∧
      ∃ (transaction : TransactionId) (retries : List (Retry Value Result))
          (last : Block Value Result)
          (attempts : Run (sourceSignature Value) Surroundings (Outcome Result × State)),
        let setting : Setting Value State Result :=
          { handle, transaction, policy := fewer, isolation, callback }
        short.result = attempts.result ∧
        short.trace = heldTrace transaction handle isolation attempts.trace ∧
        Consists handle isolation callback state short.result.2 short.trace retries last ∧
        ∀ done ≤ retries.length, ∃ (front : Trace Value) (middle : State)
            (reached : Surroundings),
          setting.Resumes world (fewer.attemptLimit - 1 - done) (1 + done) state attempts
            (retries.take done) front middle reached ∧
          ∀ (name : TransactionId) (policy : RetryPolicy) (there : Surroundings),
            policy.attemptLimit + done = fewer.attemptLimit → policy.delayRange?.isSome →
            view there = view reached →
            EqualsFresh view handle isolation callback middle done policy.attemptLimit
              (((setting.under name policy).attempts (policy.attemptLimit - 1) 1 middle).run
                world there)
              ((setting.attempts (fewer.attemptLimit - 1 - done) (1 + done) middle).run
                world reached)) := by
  intro short long
  obtain ⟨range, hrange⟩ := Option.isSome_iff_exists.1 hfewer
  obtain ⟨wide, hwide⟩ := Option.isSome_iff_exists.1 hmore
  obtain ⟨hanswer, hseen⟩ := hscripted.acquisition_eq hview
  cases hacquire : (acquisition world start).1 with
  | error failure =>
      obtain ⟨transaction, ended, hshort⟩ :=
        exists_runIn_refused hacquire fewer isolation callback state
      obtain ⟨name, final, hlong⟩ :=
        exists_runIn_refused (hanswer.trans hacquire) more isolation callback state
      have hrefused : short.trace = refusedTrace transaction failure := congrArg Run.trace hshort
      refine ⟨fun error hmem => ?_, fun handle hmem => ?_⟩
      · rw [hrefused] at hmem
        cases eq_error_of_mem_refusedTrace hmem
        refine ⟨congrArg Run.result hshort,
          (congrArg Run.result hlong).trans (congrArg Run.result hshort).symm, ?_, ?_⟩
        · rw [hrefused, acts_refusedTrace]
        · exact (congrArg (fun run => acts run.trace) hlong).trans (acts_refusedTrace name _)
      · rw [hrefused] at hmem
        cases eq_error_of_mem_refusedTrace hmem
  | ok handle =>
      obtain ⟨transaction, begun, hbegun, hresult, htrace⟩ :=
        exists_runIn_held hscripted hacquire fewer isolation callback state
      obtain ⟨name, began, hbegan, hlongResult, hlongTrace⟩ :=
        exists_runIn_held hscripted (hanswer.trans hacquire) more isolation callback state
      let setting : Setting Value State Result :=
        { handle, transaction, policy := fewer, isolation, callback }
      obtain ⟨retries, last, hcourse, hresumes⟩ := Setting.exists_resumes hscripted setting
        transaction hrange (fewer.attemptLimit - 1) 1 state begun
      refine ⟨fun error hmem => ?_, fun other hmem => ?_⟩
      · rw [htrace] at hmem
        cases eq_ok_of_mem_heldTrace hcourse.staysOn hmem
      · rw [htrace] at hmem
        cases eq_ok_of_mem_heldTrace hcourse.staysOn hmem
        have hlimit : max 1 fewer.maxAttempts = fewer.attemptLimit := Nat.max_comm _ _
        have hleft : fewer.attemptLimit - 1 ≤ more.attemptLimit - 1 := by
          rw [RetryPolicy.attemptLimit, RetryPolicy.attemptLimit]
          omega
        have hparallel := Setting.parallel_attempts hscripted setting transaction name hrange
          hwide hleft 1 1 state (hbegan.trans (hseen.trans hbegun.symm))
        refine ⟨?_, transaction, retries, last, _, hresult, htrace, ?_, ?_⟩
        · rw [hlimit]
          exact setting.prolonged_of_parallel hrange hwide hparallel hresult htrace hlongResult
            hlongTrace
        · rw [hresult, htrace]
          exact hcourse.consists_heldTrace transaction
        · intro done hdone
          obtain ⟨front, middle, reached, hcut⟩ := hresumes done hdone
          refine ⟨front, middle, reached, hcut, ?_⟩
          intro name policy there hbudget hdelay hthere
          obtain ⟨narrow, hnarrow⟩ := Option.isSome_iff_exists.1 hdelay
          exact setting.equalsFresh_attempts hscripted transaction name hrange hnarrow middle
            done hbudget hthere

/-- A rehearsal keeps to its script, all of which is in view. -/
theorem scripted_rehearsal (supply : Rehearsal.Supply) :
    Scripted (Rehearsal.world Value supply) id where
  answers effect _ here there hview := by rw [show here = there from hview]
  next effect here there hview := by rw [show here = there from hview]
  aside effect haside here := by
    cases effect with
    | note _ _ | draw _ | wait _ => rfl
    | identify | acquire | release _ | work _ _ => cases haside

/-- A conflict at the first commit: one attempt gives up, and two attempts begin
with it and succeed, the second one like the only one of a fresh transaction. -/
theorem runWith_prolonged_by_second_attempt :
    let world := Rehearsal.world Nat .shared
    let short := runIn world conflictAtCommit { maxAttempts := 1 } .serializable counting 0
    let long := runIn world conflictAtCommit { maxAttempts := 2 } .serializable counting 0
    (short.result = (.failed (.retriesExhausted 1 (.serializationFailure "commit")), 1) ∧
      GivesUp short.trace ∧ long.result = (.committed (), 2) ∧
      Prolonged ⟨0⟩ .serializable counting 0 1 short long ∧
      sent short.trace <+: sent long.trace) ∧
    ∃ (setting : Setting Nat Nat Unit) (middle : Nat) (reached : Rehearsal.Stage),
      let rest := (setting.attempts 0 2 middle).run world reached
      rest.result = (.committed (), 2) ∧
      EqualsFresh id ⟨0⟩ .serializable counting middle 1 1
        (((setting.under ⟨5⟩ { maxAttempts := 1 }).attempts 0 1 middle).run world reached)
        rest := by
  intro world short long
  have hshort : short.result =
      (.failed (.retriesExhausted 1 (.serializationFailure "commit")), 1) := by
    simp only [world, short, runIn, runWith, RetryPolicy.attemptLimit, Nat.max_self, Nat.sub_self,
      Setting.attempts]
    rfl
  have hlong : long.result = (.committed (), 2) := by
    simp only [world, long, runIn, runWith, RetryPolicy.attemptLimit, Nat.max_def, Nat.reduceLeDiff,
      if_false, Nat.reduceSub, Setting.attempts]
    rfl
  have hevents : events short.trace =
      [.started .serializable, .gaveUp "40001" 1 1, .released] := by
    simp only [world, short, runIn, runWith, RetryPolicy.attemptLimit, Nat.max_self, Nat.sub_self,
      Setting.attempts]
    rfl
  have hgivesUp : GivesUp short.trace := ⟨"40001", 1, 1, by simp [hevents]⟩
  have hprolonged := ((runWith_prolonged_by_larger_budget (scripted_rehearsal .shared)
    { maxAttempts := 1 } { maxAttempts := 2 } (by decide) rfl rfl .serializable counting 0
    conflictAtCommit conflictAtCommit rfl).2 ⟨0⟩ (.tail _ (.head _))).1
  obtain ⟨transaction, retries, last, attempts, hresult, -, hconsists, hresumes⟩ :=
    ((runWith_prolonged_by_larger_budget (scripted_rehearsal .shared)
      { maxAttempts := 2 } { maxAttempts := 2 } (Nat.le_refl 2) rfl rfl .serializable counting 0
      conflictAtCommit conflictAtCommit rfl).2 ⟨0⟩ (.tail _ (.head _))).2
  -- The callback was invoked twice, so there was a retry.
  have hretry : 1 ≤ retries.length := by
    rw [show (runIn world conflictAtCommit { maxAttempts := 2 } .serializable counting 0).result.2 =
      2 from congrArg Prod.snd hlong] at hconsists
    cases retries with
    | nil =>
        obtain ⟨middle, hinvokes, rfl⟩ := hconsists.invocations
        cases last <;> cases hinvokes
    | cons retry retries => exact Nat.succ_le_succ (Nat.zero_le _)
  obtain ⟨front, middle, reached, hcut, hfresh⟩ := hresumes 1 hretry
  refine ⟨⟨hshort, hgivesUp, hlong, hprolonged, ?_⟩, _, middle, reached, ?_,
    hfresh ⟨5⟩ { maxAttempts := 1 } reached rfl rfl rfl⟩
  · obtain ⟨_, _, _, _, -, -, -, hfurther⟩ := hprolonged
    exact (hfurther hgivesUp).2.2.2
  · exact (congrArg Run.result hcut.whole_eq).symm.trans (hresult.symm.trans hlong)

end Transactions

end SqlWeave.Transaction
