import SqlWeave.Proofs.Transaction.Course

/-!
# The acts of a transaction

What a transaction does on connections and to the clock: statements with their
replies, and waits.  Main statement: the acts of a whole transaction on an
acquired connection are those of its blocks, one block for every attempt and
one wait between each two of them.
-/

namespace SqlWeave.Transaction

open Connection (Reply Statement)

variable {Value State Result : Type}

/-- A statement that is sent on a connection, or a wait of so many microseconds. -/
inductive Act (Value : Type) where
  | sent (handle : Handle) (statement : Statement Value) (reply : Except Error Reply)
  | waited (delay : Nat)

def act? : Interaction (sourceSignature Value) → Option (Act Value)
  | ⟨.work handle (.send statement), reply⟩ => some (.sent handle statement reply)
  | ⟨.wait delay, _⟩ => some (.waited delay)
  | _ => none

/-- The acts of a trace, in order. -/
def acts (trace : Trace Value) : List (Act Value) := trace.filterMap act?

@[simp]
theorem acts_nil : acts ([] : Trace Value) = [] := rfl

@[simp]
theorem acts_append (front back : Trace Value) : acts (front ++ back) = acts front ++ acts back :=
  List.filterMap_append

@[simp]
theorem acts_noted (transaction : TransactionId) (event : TransactionEvent)
    (rest : Trace Value) : acts (noted transaction event :: rest) = acts rest := rfl

@[simp]
theorem acts_controlled (handle : Handle) (sql : String) (reply : Except Error Reply)
    (rest : Trace Value) :
    acts (controlled handle sql reply :: rest) =
      .sent handle (control sql) reply :: acts rest := rfl

@[simp]
theorem acts_refusedTrace (transaction : TransactionId) (failure : Error) :
    acts (refusedTrace transaction failure : Trace Value) = [] := rfl

@[simp]
theorem acts_heldTrace (transaction : TransactionId) (handle : Handle) (isolation : Isolation)
    (course : Trace Value) :
    acts (heldTrace transaction handle isolation course) = acts course := by
  change acts (course ++ [_, _]) = acts course
  rw [acts_append]
  exact List.append_nil _

namespace Block

def acts (handle : Handle) (isolation : Isolation) (block : Block Value Result) :
    List (Act Value) :=
  Transaction.acts (block.trace handle isolation)

/-- A callback waits for nothing on its connection, and neither do control statements. -/
theorem waited_not_mem_acts (handle : Handle) (isolation : Isolation)
    (block : Block Value Result) (delay : Nat) :
    Act.waited delay ∉ block.acts handle isolation := by
  have hbody : ∀ body : Body Value,
      Act.waited delay ∉ Transaction.acts (body.map (onConnection handle)) := by
    intro body hmem
    obtain ⟨interaction, hinteraction, hact⟩ := List.mem_filterMap.1 hmem
    obtain ⟨⟨effect, response⟩, _, rfl⟩ := List.mem_map.1 hinteraction
    cases effect <;> cases hact
  cases block <;> simp [acts, trace, hbody]

/-- An attempt that failed on a conflict and was rolled back. -/
def IsConflict (block : Block Value Result) : Prop :=
  (∃ failure, block.failure? = some failure ∧ failure.isRetryable = true) ∧
    ∃ reply, block.rollback? = some (.ok reply)

end Block

/-- The acts of several attempts, with one wait between each two. -/
def actsOfBlocks (handle : Handle) (isolation : Isolation) (retries : List (Retry Value Result))
    (last : Block Value Result) : List (Act Value) :=
  (retries.flatMap fun retry =>
    retry.block.acts handle isolation ++ [.waited retry.delay.val]) ++
      last.acts handle isolation

/-- Every block has one invocation of the callback, if its start succeeded, and
each invocation takes the state that the one before it left. -/
def Invocations (callback : Callback Value State Result) :
    State → List (Block Value Result) → State → Prop
  | before, [], after => after = before
  | before, block :: rest, after =>
      ∃ middle, block.Invokes callback before middle ∧ Invocations callback middle rest after

/-- A transaction consists of these attempts on its connection: all but the last
one are rolled back after a conflict. -/
structure Consists (handle : Handle) (isolation : Isolation)
    (callback : Callback Value State Result) (before after : State) (trace : Trace Value)
    (retries : List (Retry Value Result)) (last : Block Value Result) : Prop where
  acts_eq : acts trace = actsOfBlocks handle isolation retries last
  invocations : Invocations callback before (retries.map Retry.block ++ [last]) after
  conflicts : ∀ retry ∈ retries, retry.block.IsConflict

def Act.isSent : Act Value → Bool
  | .sent _ _ _ => true
  | .waited _ => false

/-- The statements of a trace with their replies, in order. -/
def sent (trace : Trace Value) : List (Act Value) := (acts trace).filter Act.isSent

/-- The statements of a transaction are those of its blocks. -/
theorem Consists.sent_eq {handle : Handle} {isolation : Isolation}
    {callback : Callback Value State Result} {before after : State} {trace : Trace Value}
    {retries : List (Retry Value Result)} {last : Block Value Result}
    (hconsists : Consists handle isolation callback before after trace retries last) :
    sent trace = (retries.map Retry.block ++ [last]).flatMap (Block.acts handle isolation) := by
  have hblock : ∀ block : Block Value Result,
      (block.acts handle isolation).filter Act.isSent = block.acts handle isolation := by
    intro block
    refine List.filter_eq_self.2 fun act hmem => ?_
    cases act with
    | sent _ _ _ => rfl
    | waited delay => exact absurd hmem (block.waited_not_mem_acts handle isolation delay)
  rw [sent, hconsists.acts_eq, actsOfBlocks]
  simp [List.filter_flatMap, List.flatMap_map, hblock, Act.isSent]

namespace Setting

variable {setting : Setting Value State Result} {left number : Nat} {before : State}
  {retries : List (Retry Value Result)} {last : Block Value Result} {trace : Trace Value}
  {ended : Outcome Result × State}

@[simp]
theorem acts_announcement (setting : Setting Value State Result) (number : Nat) :
    acts (setting.announcement number) = [] := by
  rw [announcement]
  split <;> rfl

@[simp]
theorem acts_pause (setting : Setting Value State Result) (number : Nat) (failure : Error)
    {range : DelayRange} (delay : range.Delay) :
    acts (setting.pause number failure delay) = [.waited delay.val] := rfl

theorem Ends.acts_eq {block : Block Value Result} {closing : Trace Value}
    {outcome : Outcome Result} (hends : setting.Ends left number block closing outcome) :
    acts closing = [] := by
  cases hends <;> rfl

theorem Course.consists (hcourse : setting.Course left number before retries last trace ended) :
    Consists setting.handle setting.isolation setting.callback before ended.2 trace
      retries last := by
  induction hcourse with
  | last hinvokes hends =>
      refine ⟨?_, ⟨_, hinvokes, rfl⟩, by simp⟩
      simp [actsOfBlocks, Block.acts, hends.acts_eq]
  | retry hinvokes hfailure hrollback hretry hrange hrest ih =>
      refine ⟨?_, ⟨_, hinvokes, ih.invocations⟩, ?_⟩
      · have hrestActs := ih.acts_eq
        simp only [actsOfBlocks] at hrestActs ⊢
        simp [hrestActs, Block.acts]
      · intro retry hmem
        rcases List.mem_cons.1 hmem with rfl | hmem
        · exact ⟨⟨_, hfailure, hretry⟩, _, hrollback⟩
        · exact ih.conflicts retry hmem

/-- A transaction consists of the attempts of its course. -/
theorem Course.consists_heldTrace
    (hcourse : setting.Course left number before retries last trace ended)
    (transaction : TransactionId) :
    Consists setting.handle setting.isolation setting.callback before ended.2
      (heldTrace transaction setting.handle setting.isolation trace) retries last := by
  obtain ⟨hacts, hinvocations, hconflicts⟩ := hcourse.consists
  exact ⟨by rw [acts_heldTrace, hacts], hinvocations, hconflicts⟩

/-- Each retry takes one of the attempts that are left. -/
theorem Course.length_le (hcourse : setting.Course left number before retries last trace ended) :
    retries.length ≤ left := by
  induction hcourse with
  | last hinvokes hends => exact Nat.zero_le _
  | retry hinvokes hfailure hrollback hretry hrange hrest ih => exact Nat.succ_le_succ ih

/-- The last block ends the transaction, with the attempts that the retries left. -/
theorem Course.ends (hcourse : setting.Course left number before retries last trace ended) :
    ∃ closing, setting.Ends (left - retries.length) (number + retries.length) last closing
      ended.1 := by
  induction hcourse with
  | last hinvokes hends => exact ⟨_, hends⟩
  | retry hinvokes hfailure hrollback hretry hrange hrest ih =>
      obtain ⟨closing, hends⟩ := ih
      refine ⟨closing, ?_⟩
      rw [List.length_cons, Nat.add_sub_add_right, ← Nat.add_assoc, Nat.add_right_comm]
      exact hends

end Setting

variable {policy : RetryPolicy} {isolation : Isolation} {callback : Callback Value State Result}
  {state : State} {trace : Trace Value} {ended : Outcome Result × State}

abbrev runIn {Surroundings : Type} (world : World (sourceSignature Value) Surroundings)
    (start : Surroundings) (policy : RetryPolicy) (isolation : Isolation)
    (callback : Callback Value State Result) (state : State) :
    Run (sourceSignature Value) Surroundings (Outcome Result × State) :=
  (runWith policy isolation callback state).run world start

/-- A transaction that acquires its connection consists of at most as many
attempts as its policy allows, and the last of them decides how it ends. -/
theorem exists_blocks_of_acquire {handle : Handle}
    (hrun : (runWith policy isolation callback state).Yields trace ended)
    (hacquire : ⟨.acquire, (.ok handle : Except Error Handle)⟩ ∈ trace) :
    ∃ transaction retries last closing,
      Consists handle isolation callback state ended.2 trace retries last ∧
      retries.length + 1 ≤ policy.attemptLimit ∧
      Setting.Ends { handle, transaction, policy, isolation, callback }
        (policy.attemptLimit - 1 - retries.length) (1 + retries.length) last closing ended.1 := by
  obtain ⟨transaction, retries, last, course, hcourse, rfl⟩ :=
    exists_course_of_acquire hrun hacquire
  obtain ⟨closing, hends⟩ := hcourse.ends
  have hlength := hcourse.length_le
  have hlimit : 1 ≤ policy.attemptLimit := Nat.le_max_right _ _
  exact ⟨transaction, retries, last, closing, hcourse.consists_heldTrace transaction, by omega,
    hends⟩

end SqlWeave.Transaction
