import SqlWeave.Proofs.Transaction.Acts

/-!
# Scripted worlds

A world keeps to a script if what its connections reply depends on a view of it
that only statements, acquisitions and releases move on.  In such a world an
attempt goes the same way wherever the view is the same, whatever was noted,
drawn or waited for before it, and under every retry policy.  Main statement:
one round of the attempts, that is one attempt with what follows it, is given
by one block for all policies at once.
-/

namespace SqlWeave.Transaction

open Connection (Reply)

variable {Value State Result Image Surroundings View : Type}

/-- An effect whose response comes from a connection or from the source of connections. -/
def SourceEffect.IsExchange : SourceEffect Value → Prop
  | .acquire | .work _ _ => True
  | .identify | .release _ | .note _ _ | .draw _ | .wait _ => False

/-- An effect that no connection hears of. -/
def SourceEffect.IsAside : SourceEffect Value → Prop
  | .note _ _ | .draw _ | .wait _ => True
  | .identify | .acquire | .release _ | .work _ _ => False

/-- The replies of a world depend on a view of it, and nothing but exchanges
with it moves the view on.  Delays and the names of transactions are free. -/
structure Scripted (world : World (sourceSignature Value) Surroundings)
    (view : Surroundings → View) : Prop where
  answers : ∀ effect : SourceEffect Value, effect.IsExchange → ∀ here there,
    view here = view there → (world.respond effect here).1 = (world.respond effect there).1
  next : ∀ (effect : SourceEffect Value) here there, view here = view there →
    view (world.respond effect here).2 = view (world.respond effect there).2
  aside : ∀ effect : SourceEffect Value, effect.IsAside → ∀ here,
    view (world.respond effect here).2 = view here

/-- What a program does depends on the view only. -/
def Steady (world : World (sourceSignature Value) Surroundings) (view : Surroundings → View)
    (program : SourceProgram Value Result) : Prop :=
  ∀ here there, view here = view there →
    (program.run world here).result = (program.run world there).result ∧
    (program.run world here).trace = (program.run world there).trace ∧
    view (program.run world here).state = view (program.run world there).state

section Steady

variable {world : World (sourceSignature Value) Surroundings} {view : Surroundings → View}

theorem steady_pure (result : Result) :
    Steady world view (pure result : SourceProgram Value Result) :=
  fun _ _ hview => ⟨rfl, rfl, hview⟩

theorem steady_bind {program : SourceProgram Value Result}
    {continuation : Result → SourceProgram Value Image} (hfirst : Steady world view program)
    (hsecond : ∀ result, Steady world view (continuation result)) :
    Steady world view (program >>= continuation) := by
  intro here there hview
  obtain ⟨hresult, htrace, hstate⟩ := hfirst here there hview
  obtain ⟨hresult', htrace', hstate'⟩ :=
    hsecond (program.run world here).result _ _ hstate
  change ((program.bind continuation).run world here).result =
      ((program.bind continuation).run world there).result ∧
    ((program.bind continuation).run world here).trace =
      ((program.bind continuation).run world there).trace ∧
    view ((program.bind continuation).run world here).state =
      view ((program.bind continuation).run world there).state
  simp only [Program.run_bind, ← hresult, ← htrace]
  exact ⟨hresult', by rw [htrace'], hstate'⟩

/-- Work on a connection is steady, since every reply is. -/
theorem steady_work (hscripted : Scripted world view) (handle : Handle)
    (program : Program (Connection.signature Value) Result) :
    Steady world view (SourceProgram.work handle program) := by
  induction program with
  | done result => exact steady_pure result
  | perform effect next ih =>
      intro here there hview
      have hanswer := hscripted.answers (.work handle effect) trivial here there hview
      have hnext := hscripted.next (.work handle effect) here there hview
      obtain ⟨hresult, htrace, hstate⟩ :=
        ih (world.respond (.work handle effect) here).1 _ _ hnext
      simp only [SourceProgram.work, Program.embed, Program.run, SourceProgram.onHandle] at *
      rw [← hanswer]
      exact ⟨hresult, by rw [htrace], hstate⟩

end Steady

/-- How an attempt went: with a result, or with an error and the reply to the rollback. -/
abbrev Tried (Result : Type) := Except (Error × Except Error Reply) Result

/-- A block is one of an attempt that went this way. -/
def Block.Went (block : Block Value Result) : Tried Result → Prop
  | .ok result => block.result? = some result
  | .error (failure, rollback) =>
      block.failure? = some failure ∧ block.rollback? = some rollback

namespace Setting

/-- The same transaction under another name and another policy. -/
def under (setting : Setting Value State Result) (transaction : TransactionId)
    (policy : RetryPolicy) : Setting Value State Result :=
  { setting with transaction, policy }

/-- One attempt, with the rollback after it if it fails. -/
def trial (setting : Setting Value State Result) (state : State) :
    SourceProgram Value (Tried Result × State) := do
  match ← setting.attempt state with
  | (.ok result, state) => return (.ok result, state)
  | (.error failure, state) =>
    let rollback ← setting.send rollbackSql
    return (.error (failure, rollback), state)

/-- What follows a trial. -/
def conclude (setting : Setting Value State Result) (left number : Nat) :
    Tried Result × State → SourceProgram Value (Outcome Result × State)
  | (.ok result, state) => do
    setting.note (.committed number)
    return (.committed result, state)
  | (.error (failure, .error rollback), state) => do
    setting.note (.rollbackFailed rollback)
    return (.failed (.rollbackFailed failure rollback), state)
  | (.error (failure, .ok _), state) =>
    if failure.isRetryable then
      match left with
      | 0 => do
        setting.note (.gaveUp (eventCode failure) number setting.policy.attemptLimit)
        return (.failed (.retriesExhausted number failure), state)
      | left + 1 =>
        setting.backOff number failure state (setting.attempts left (number + 1) state)
    else return (.failed failure, state)

/-- The attempts are one trial and what follows it. -/
theorem attempts_eq (setting : Setting Value State Result) (left number : Nat) (state : State) :
    setting.attempts left number state = (do
      setting.announce number
      let tried ← setting.trial state
      setting.conclude left number tried) := by
  rw [attempts, trial]
  congr 1
  funext _
  rw [bind_assoc]
  congr 1
  funext ended
  obtain ⟨result | failure, after⟩ := ended
  · simp only [bind_assoc, pure_bind]
    congr 1
    funext rollback
    cases rollback <;> rfl
  · rfl

theorem exists_block_of_trial {setting : Setting Value State Result} {before after : State}
    {trace : Trace Value} {tried : Tried Result}
    (htrial : (setting.trial before).Yields trace (tried, after)) :
    ∃ block : Block Value Result, block.Went tried ∧
      block.Invokes setting.callback before after ∧
      block.trace setting.handle setting.isolation = trace := by
  rw [trial] at htrial
  obtain ⟨front, ⟨ended, middle⟩, _, hattempt, hended, rfl⟩ := Program.yields_bind_iff.1 htrial
  have hattempted := attempted_of_yields hattempt
  cases ended with
  | ok result =>
      obtain ⟨rfl, hresult⟩ := Program.yields_pure_iff.1 hended
      cases hresult
      obtain ⟨block, hresult, hinvokes, htrace⟩ := hattempted
      exact ⟨block, hresult, hinvokes, by rw [htrace, List.append_nil]⟩
  | error failure =>
      obtain ⟨_, rollback, _, hsend, hsent, rfl⟩ := Program.yields_bind_iff.1 hended
      obtain rfl := yields_send_iff.1 hsend
      obtain ⟨rfl, hresult⟩ := Program.yields_pure_iff.1 hsent
      cases hresult
      obtain ⟨block, hblock⟩ := hattempted
      obtain ⟨hfailure, hrollback, hinvokes, htrace⟩ := hblock rollback
      exact ⟨block rollback, ⟨hfailure, hrollback⟩, hinvokes, htrace⟩

theorem steady_trial {world : World (sourceSignature Value) Surroundings}
    {view : Surroundings → View} (hscripted : Scripted world view)
    (setting : Setting Value State Result) (state : State) :
    Steady world view (setting.trial state) := by
  have hattempt : Steady world view (setting.attempt state) := by
    refine steady_bind (steady_work hscripted _ _) fun start => ?_
    cases start with
    | error failure => exact steady_pure _
    | ok start =>
        refine steady_bind (steady_work hscripted _ _) fun called => ?_
        obtain ⟨failure | result, after⟩ := called
        · exact steady_pure _
        · refine steady_bind (steady_work hscripted _ _) fun commit => ?_
          cases commit <;> exact steady_pure _
  refine steady_bind hattempt fun ended => ?_
  obtain ⟨failure | result, after⟩ := ended
  · exact steady_bind (steady_work hscripted _ _) fun _ => steady_pure _
  · exact steady_pure _

section Rounds

variable {world : World (sourceSignature Value) Surroundings} {view : Surroundings → View}

theorem exists_run_note (hscripted : Scripted world view) (setting : Setting Value State Result)
    (event : TransactionEvent) (here : Surroundings) :
    ∃ there, view there = view here ∧
      (setting.note event).run world here = ⟨(), [noted setting.transaction event], there⟩ :=
  ⟨_, hscripted.aside (.note setting.transaction event) trivial here, rfl⟩

theorem exists_run_announce (hscripted : Scripted world view)
    (setting : Setting Value State Result) (number : Nat) (here : Surroundings) :
    ∃ there, view there = view here ∧
      (setting.announce number).run world here = ⟨(), setting.announcement number, there⟩ := by
  rw [announce, announcement]
  split
  · exact exists_run_note hscripted setting _ here
  · exact ⟨here, rfl, rfl⟩

/-- What follows the last trial is noted, and ends the attempts. -/
theorem exists_run_conclude_last (hscripted : Scripted world view)
    (setting : Setting Value State Result) (left number : Nat) {block : Block Value Result}
    {tried : Tried Result} (hwent : block.Went tried) (hlast : block.IsConflict → left = 0)
    (after : State) (here : Surroundings) :
    ∃ closing outcome there, view there = view here ∧
      setting.Ends left number block closing outcome ∧
      (setting.conclude left number (tried, after)).run world here =
        ⟨(outcome, after), closing, there⟩ := by
  obtain ⟨failure, rollback | reply⟩ | result := tried
  · obtain ⟨there, hview, hnote⟩ :=
      exists_run_note hscripted setting (.rollbackFailed rollback) here
    exact ⟨_, _, there, hview, .rollbackFailed hwent.1 hwent.2, Program.run_bind_of_run hnote⟩
  · cases hretry : failure.isRetryable with
    | false =>
        refine ⟨_, _, here, rfl, .refused hwent.1 hwent.2 hretry, ?_⟩
        simp only [conclude, hretry, Bool.false_eq_true, if_false]
        rfl
    | true =>
        obtain rfl := hlast ⟨⟨failure, hwent.1, hretry⟩, reply, hwent.2⟩
        obtain ⟨there, hview, hnote⟩ := exists_run_note hscripted setting
          (.gaveUp (eventCode failure) number setting.policy.attemptLimit) here
        refine ⟨_, _, there, hview, .gaveUp hwent.1 hwent.2 hretry rfl, ?_⟩
        simp only [conclude, hretry, if_true]
        exact Program.run_bind_of_run hnote
  · obtain ⟨there, hview, hnote⟩ := exists_run_note hscripted setting (.committed number) here
    exact ⟨_, _, there, hview, .committed hwent, Program.run_bind_of_run hnote⟩

/-- What follows a conflict is a pause, and then the attempts that are left. -/
theorem exists_run_conclude_retry (hscripted : Scripted world view)
    (setting : Setting Value State Result) (left number : Nat) {block : Block Value Result}
    {tried : Tried Result} {range : DelayRange} (hwent : block.Went tried)
    (hconflict : block.IsConflict) (hrange : setting.policy.delayRange? = some range)
    (after : State) (here : Surroundings) :
    ∃ (failure : Error) (delay : range.Delay) (there : Surroundings),
      block.failure? = some failure ∧ failure.isRetryable = true ∧ view there = view here ∧
      (setting.conclude (left + 1) number (tried, after)).run world here =
        let rest := (setting.attempts left (number + 1) after).run world there
        { rest with trace := setting.pause number failure delay ++ rest.trace } := by
  obtain ⟨⟨failure, hfailure, hretry⟩, reply, hrollback⟩ := hconflict
  obtain ⟨other, rollback⟩ | result := tried
  · obtain rfl : failure = other := Option.some.inj (hfailure.symm.trans hwent.1)
    obtain rfl : Except.ok reply = rollback := Option.some.inj (hrollback.symm.trans hwent.2)
    have hdrawn := hscripted.aside (.draw range) trivial here
    let delay : range.Delay := (world.respond (.draw range) here).1
    let event : TransactionEvent := .backingOff (eventCode failure) number
      setting.policy.attemptLimit (delay.val / 1000)
    obtain ⟨noticed, hnoticed, hnote⟩ :=
      exists_run_note hscripted setting event (world.respond (.draw range) here).2
    have hwaited := hscripted.aside (.wait delay.val) trivial noticed
    refine ⟨failure, delay, (world.respond (.wait delay.val) noticed).2, hfailure, hretry,
      hwaited.trans (hnoticed.trans hdrawn), ?_⟩
    have hdraw : (SourceProgram.call (.draw range)).run world here =
        ⟨delay, [⟨.draw range, delay⟩], (world.respond (.draw range) here).2⟩ := rfl
    simp only [conclude, hretry, if_true, backOff, hrange]
    rw [Program.run_bind_of_run hdraw, Program.run_bind_of_run hnote]
    rfl
  · cases block <;> cases hfailure <;> cases hwent

/-- One round of the attempts: a block, and the state and the view after it.
Whatever the policy, the block either ends the attempts or is followed by a
pause and the attempts that are left. -/
structure Round (world : World (sourceSignature Value) Surroundings) (view : Surroundings → View)
    (setting : Setting Value State Result) (before : State) (start : Surroundings)
    (block : Block Value Result) (after : State) (seen : View) : Prop where
  invokes : block.Invokes setting.callback before after
  last : ∀ transaction policy left number here, view here = view start →
    (block.IsConflict → left = 0) →
    ∃ closing outcome there, view there = seen ∧
      (setting.under transaction policy).Ends left number block closing outcome ∧
      ((setting.under transaction policy).attempts left number before).run world here =
        ⟨(outcome, after), (setting.under transaction policy).announcement number ++
          block.trace setting.handle setting.isolation ++ closing, there⟩
  retry : ∀ transaction policy left number here range, view here = view start →
    block.IsConflict → policy.delayRange? = some range →
    ∃ (failure : Error) (delay : range.Delay) (there : Surroundings),
      block.failure? = some failure ∧ failure.isRetryable = true ∧ view there = seen ∧
      ((setting.under transaction policy).attempts (left + 1) number before).run world here =
        let rest := ((setting.under transaction policy).attempts left (number + 1) after).run
          world there
        { rest with
          trace := (setting.under transaction policy).announcement number ++
            block.trace setting.handle setting.isolation ++
              (setting.under transaction policy).pause number failure delay ++ rest.trace }

/-- The attempts of every policy begin with the same trial, where the view is the same. -/
theorem exists_run_attempts (hscripted : Scripted world view)
    (setting : Setting Value State Result) (before : State) (start : Surroundings)
    (transaction : TransactionId) (policy : RetryPolicy) (left number : Nat)
    {here : Surroundings} (hview : view here = view start) :
    let first := (setting.trial before).run world start
    ∃ there, view there = view first.state ∧
      ((setting.under transaction policy).attempts left number before).run world here =
        let rest := ((setting.under transaction policy).conclude left number first.result).run
          world there
        { rest with
          trace := (setting.under transaction policy).announcement number ++ first.trace ++
            rest.trace } := by
  intro first
  obtain ⟨announced, hannounced, hannounce⟩ :=
    exists_run_announce hscripted (setting.under transaction policy) number here
  obtain ⟨hresult, htrace, hstate⟩ :=
    steady_trial hscripted setting before announced start (hannounced.trans hview)
  have htrial : ((setting.under transaction policy).trial before).run world announced =
      ⟨first.result, first.trace, ((setting.trial before).run world announced).state⟩ := by
    rw [← hresult, ← htrace]
    rfl
  refine ⟨_, hstate, ?_⟩
  rw [attempts_eq, Program.run_bind_of_run hannounce, Program.run_bind_of_run htrial]
  simp only [List.append_assoc]

theorem exists_round (hscripted : Scripted world view) (setting : Setting Value State Result)
    (before : State) (start : Surroundings) :
    ∃ block after seen, Round world view setting before start block after seen := by
  have hfirst := exists_run_attempts hscripted setting before start
  have hyields := Program.yields_run world (setting.trial before) start
  generalize (setting.trial before).run world start = first at hfirst hyields
  obtain ⟨⟨tried, after⟩, trace, ended⟩ := first
  obtain ⟨block, hwent, hinvokes, rfl⟩ := exists_block_of_trial hyields
  refine ⟨block, after, view ended, hinvokes, ?_, ?_⟩
  · intro transaction policy left number here hview hlast
    obtain ⟨there, hthere, hrun⟩ := hfirst transaction policy left number hview
    obtain ⟨closing, outcome, final, hfinal, hends, hconclude⟩ :=
      exists_run_conclude_last hscripted (setting.under transaction policy) left number hwent
        hlast after there
    refine ⟨closing, outcome, final, hfinal.trans hthere, hends, ?_⟩
    rw [hrun, hconclude]
  · intro transaction policy left number here range hview hconflict hrange
    obtain ⟨there, hthere, hrun⟩ := hfirst transaction policy (left + 1) number hview
    obtain ⟨failure, delay, final, hfailure, hretry, hfinal, hconclude⟩ :=
      exists_run_conclude_retry hscripted (setting.under transaction policy) left number hwent
        hconflict hrange after there
    refine ⟨failure, delay, final, hfailure, hretry, hfinal.trans hthere, ?_⟩
    rw [hrun, hconclude]
    simp only [List.append_assoc]

end Rounds

end Setting

end SqlWeave.Transaction
