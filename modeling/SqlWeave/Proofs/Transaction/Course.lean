import SqlWeave.Proofs.Yields
import SqlWeave.Transaction.Control

/-!
# The course of a transaction

What a transaction does between its acquisition and its release: attempts that
are rolled back after a conflict and tried again after a delay, and a last one
whose end decides the outcome.  A block is one attempt with the replies it got;
each case of it is one way an attempt can go, so a block with a commit and
without a callback, say, cannot be written down.  Main statement: whatever
the attempts of a transaction yield is such a course.
-/

namespace SqlWeave.Transaction

open Connection (Reply)

variable {Value State Result : Type}

/-- What a callback did on its connection, with the replies it got. -/
abbrev Body (Value : Type) := List (Interaction (Connection.signature Value))

/-- What code with a source of connections did, with the responses it got. -/
abbrev Trace (Value : Type) := List (Interaction (sourceSignature Value))

/-- One attempt of a transaction. -/
inductive Block (Value Result : Type) where
  /-- The start fails, and the attempt is rolled back. -/
  | notStarted (failure : Error) (rollback : Except Error Reply)
  /-- The callback fails, and the attempt is rolled back. -/
  | abandoned (start : Reply) (body : Body Value) (failure : Error)
      (rollback : Except Error Reply)
  /-- The commit fails, and the attempt is rolled back. -/
  | notCommitted (start : Reply) (body : Body Value) (result : Result) (failure : Error)
      (rollback : Except Error Reply)
  /-- The attempt is committed. -/
  | committed (start : Reply) (body : Body Value) (result : Result) (commit : Reply)

/-- A control statement on a connection, with its reply. -/
def controlled (handle : Handle) (sql : String) (reply : Except Error Reply) :
    Interaction (sourceSignature Value) :=
  ⟨.work handle (.send (control sql)), reply⟩

def noted (transaction : TransactionId) (event : TransactionEvent) :
    Interaction (sourceSignature Value) :=
  ⟨.note transaction event, ()⟩

namespace Block

/-- What an attempt does on its connection, in order. -/
def trace (handle : Handle) (isolation : Isolation) : Block Value Result → Trace Value
  | .notStarted failure rollback =>
      [controlled handle (startSql isolation) (.error failure),
        controlled handle rollbackSql rollback]
  | .abandoned start body _ rollback =>
      controlled handle (startSql isolation) (.ok start) ::
        (body.map (onConnection handle) ++ [controlled handle rollbackSql rollback])
  | .notCommitted start body _ failure rollback =>
      controlled handle (startSql isolation) (.ok start) ::
        (body.map (onConnection handle) ++
          [controlled handle commitSql (.error failure), controlled handle rollbackSql rollback])
  | .committed start body _ commit =>
      controlled handle (startSql isolation) (.ok start) ::
        (body.map (onConnection handle) ++ [controlled handle commitSql (.ok commit)])

/-- The error of an attempt that failed, be it at the start, in the callback or at the commit. -/
def failure? : Block Value Result → Option Error
  | .notStarted failure _ | .abandoned _ _ failure _ | .notCommitted _ _ _ failure _ =>
      some failure
  | .committed _ _ _ _ => none

def rollback? : Block Value Result → Option (Except Error Reply)
  | .notStarted _ rollback | .abandoned _ _ _ rollback | .notCommitted _ _ _ _ rollback =>
      some rollback
  | .committed _ _ _ _ => none

/-- The reply to the commit of an attempt whose callback succeeded. -/
def commit? : Block Value Result → Option (Except Error Reply)
  | .notStarted _ _ | .abandoned _ _ _ _ => none
  | .notCommitted _ _ _ failure _ => some (.error failure)
  | .committed _ _ _ commit => some (.ok commit)

/-- The result of an attempt that was committed. -/
def result? : Block Value Result → Option Result
  | .notStarted _ _ | .abandoned _ _ _ _ | .notCommitted _ _ _ _ _ => none
  | .committed _ _ result _ => some result

/-- The callback is invoked exactly once if the start succeeded, and not at all
otherwise; its invocation does what the block says and leaves the state `after`. -/
def Invokes (callback : Callback Value State Result) (before after : State) :
    Block Value Result → Prop
  | .notStarted _ _ => after = before
  | .abandoned _ body failure _ => (callback before).Yields body (.error failure, after)
  | .notCommitted _ body result _ _ => (callback before).Yields body (.ok result, after)
  | .committed _ body result _ => (callback before).Yields body (.ok result, after)

end Block

/-- An attempt that is tried again, and the delay in microseconds before that. -/
structure Retry (Value Result : Type) where
  block : Block Value Result
  range : DelayRange
  delay : range.Delay

namespace Setting

def announcement (setting : Setting Value State Result) (number : Nat) : Trace Value :=
  if 1 < number then
    [noted setting.transaction (.retrying number setting.policy.attemptLimit)]
  else []

/-- What is done between an attempt and the next one. -/
def pause (setting : Setting Value State Result) (number : Nat) (failure : Error)
    {range : DelayRange} (delay : range.Delay) : Trace Value :=
  [⟨.draw range, delay⟩,
    noted setting.transaction (.backingOff (eventCode failure) number
      setting.policy.attemptLimit (delay.val / 1000)),
    ⟨.wait delay.val, ()⟩]

/-- How the last attempt ends the transaction, and what is noted of it. -/
inductive Ends (setting : Setting Value State Result) (left number : Nat)
    (block : Block Value Result) : Trace Value → Outcome Result → Prop where
  | committed {result : Result} (hresult : block.result? = some result) :
      Ends setting left number block
        [noted setting.transaction (.committed number)] (.committed result)
  | rollbackFailed {failure rollback : Error} (hfailure : block.failure? = some failure)
      (hrollback : block.rollback? = some (.error rollback)) :
      Ends setting left number block [noted setting.transaction (.rollbackFailed rollback)]
        (.failed (.rollbackFailed failure rollback))
  | refused {failure : Error} {reply : Reply} (hfailure : block.failure? = some failure)
      (hrollback : block.rollback? = some (.ok reply))
      (hretry : failure.isRetryable = false) :
      Ends setting left number block [] (.failed failure)
  | gaveUp {failure : Error} {reply : Reply} (hfailure : block.failure? = some failure)
      (hrollback : block.rollback? = some (.ok reply))
      (hretry : failure.isRetryable = true) (hleft : left = 0) :
      Ends setting left number block
        [noted setting.transaction
          (.gaveUp (eventCode failure) number setting.policy.attemptLimit)]
        (.failed (.retriesExhausted number failure))
  | noDelay {failure : Error} {reply : Reply} (hfailure : block.failure? = some failure)
      (hrollback : block.rollback? = some (.ok reply))
      (hretry : failure.isRetryable = true) (hleft : 0 < left)
      (hrange : setting.policy.delayRange? = none) :
      Ends setting left number block [] .noDelay

/-- The course of the attempts from that of a number on, with so many left after it. -/
inductive Course (setting : Setting Value State Result) :
    (left number : Nat) → State → List (Retry Value Result) → Block Value Result →
      Trace Value → Outcome Result × State → Prop where
  | last {left number : Nat} {before after : State} {block : Block Value Result}
      {closing : Trace Value} {outcome : Outcome Result}
      (hinvokes : block.Invokes setting.callback before after)
      (hends : setting.Ends left number block closing outcome) :
      Course setting left number before [] block
        (setting.announcement number ++ block.trace setting.handle setting.isolation ++ closing)
        (outcome, after)
  | retry {left number : Nat} {before middle : State} {block last : Block Value Result}
      {retries : List (Retry Value Result)} {failure : Error} {reply : Reply}
      {range : DelayRange} {delay : range.Delay} {rest : Trace Value}
      {ended : Outcome Result × State}
      (hinvokes : block.Invokes setting.callback before middle)
      (hfailure : block.failure? = some failure)
      (hrollback : block.rollback? = some (.ok reply))
      (hretry : failure.isRetryable = true)
      (hrange : setting.policy.delayRange? = some range)
      (hrest : Course setting left (number + 1) middle retries last rest ended) :
      Course setting (left + 1) number before (⟨block, range, delay⟩ :: retries) last
        (setting.announcement number ++ block.trace setting.handle setting.isolation ++
          setting.pause number failure delay ++ rest) ended

theorem yields_send_iff {setting : Setting Value State Result} {sql : String}
    {trace : Trace Value} {reply : Except Error Reply} :
    (setting.send sql).Yields trace reply ↔ trace = [controlled setting.handle sql reply] := by
  rw [send, yields_work_iff]
  constructor
  · rintro ⟨body, hbody, rfl⟩
    rw [Program.yields_call_iff.1 hbody]
    rfl
  · rintro rfl
    exact ⟨_, Program.yields_call_iff.2 rfl, rfl⟩

theorem yields_note_iff {setting : Setting Value State Result} {event : TransactionEvent}
    {trace : Trace Value} {response : Unit} :
    (setting.note event).Yields trace response ↔ trace = [noted setting.transaction event] :=
  Program.yields_call_iff

/-- What an attempt yields: with a failure, a block for every reply to the
rollback that follows; with a result, a block that is committed. -/
def Attempted (setting : Setting Value State Result) (before after : State)
    (front : Trace Value) : Except Error Result → Prop
  | .error failure => ∃ block : Except Error Reply → Block Value Result, ∀ rollback,
      (block rollback).failure? = some failure ∧
      (block rollback).rollback? = some rollback ∧
      (block rollback).Invokes setting.callback before after ∧
      (block rollback).trace setting.handle setting.isolation =
        front ++ [controlled setting.handle rollbackSql rollback]
  | .ok result => ∃ block : Block Value Result,
      block.result? = some result ∧ block.Invokes setting.callback before after ∧
      block.trace setting.handle setting.isolation = front

theorem attempted_of_yields {setting : Setting Value State Result} {before after : State}
    {front : Trace Value} {ended : Except Error Result}
    (hattempt : (setting.attempt before).Yields front (ended, after)) :
    setting.Attempted before after front ended := by
  rw [attempt] at hattempt
  obtain ⟨_, start, _, hstart, hstarted, rfl⟩ := Program.yields_bind_iff.1 hattempt
  obtain rfl := yields_send_iff.1 hstart
  cases start with
  | error failure =>
      obtain ⟨rfl, hended⟩ := Program.yields_pure_iff.1 hstarted
      cases hended
      exact ⟨fun rollback => .notStarted failure rollback, fun rollback => ⟨rfl, rfl, rfl, rfl⟩⟩
  | ok start =>
      obtain ⟨_, ⟨called, middle⟩, _, hwork, hcalled, rfl⟩ :=
        Program.yields_bind_iff.1 hstarted
      obtain ⟨body, hbody, rfl⟩ := yields_work_iff.1 hwork
      cases called with
      | error failure =>
          obtain ⟨rfl, hended⟩ := Program.yields_pure_iff.1 hcalled
          cases hended
          refine ⟨fun rollback => .abandoned start body failure rollback, fun rollback => ?_⟩
          exact ⟨rfl, rfl, hbody, by simp [Block.trace]⟩
      | ok result =>
          obtain ⟨_, commit, _, hcommit, hcommitted, rfl⟩ := Program.yields_bind_iff.1 hcalled
          obtain rfl := yields_send_iff.1 hcommit
          cases commit with
          | error failure =>
              obtain ⟨rfl, hended⟩ := Program.yields_pure_iff.1 hcommitted
              cases hended
              refine ⟨fun rollback => .notCommitted start body result failure rollback,
                fun rollback => ?_⟩
              exact ⟨rfl, rfl, hbody, by simp [Block.trace]⟩
          | ok commit =>
              obtain ⟨rfl, hended⟩ := Program.yields_pure_iff.1 hcommitted
              cases hended
              exact ⟨.committed start body result commit, rfl, hbody, by simp [Block.trace]⟩

theorem yields_announce {setting : Setting Value State Result} {number : Nat}
    {trace : Trace Value} {response : Unit}
    (h : (setting.announce number).Yields trace response) :
    trace = setting.announcement number := by
  rw [announcement]
  rw [announce] at h
  split at h
  next hnumber => rw [if_pos hnumber, yields_note_iff.1 h]
  next hnumber => rw [if_neg hnumber, (Program.yields_pure_iff.1 h).1]

/-- A pause yields a drawn delay and what comes next, unless there is no delay to draw. -/
theorem yields_backOff {setting : Setting Value State Result} {number : Nat} {failure : Error}
    {state : State} {next : SourceProgram Value (Outcome Result × State)}
    {trace : Trace Value} {ended : Outcome Result × State}
    (hpause : (setting.backOff number failure state next).Yields trace ended) :
    (setting.policy.delayRange? = none ∧ trace = [] ∧ ended = (.noDelay, state)) ∨
      ∃ range, setting.policy.delayRange? = some range ∧
        ∃ (delay : range.Delay) (rest : Trace Value),
          next.Yields rest ended ∧ trace = setting.pause number failure delay ++ rest := by
  rw [backOff] at hpause
  cases hrange : setting.policy.delayRange? with
  | none =>
      rw [hrange] at hpause
      exact .inl ⟨rfl, Program.yields_pure_iff.1 hpause⟩
  | some range =>
      rw [hrange] at hpause
      obtain ⟨_, delay, _, hdraw, hdrawn, rfl⟩ := Program.yields_bind_iff.1 hpause
      obtain rfl := Program.yields_call_iff.1 hdraw
      obtain ⟨_, _, _, hnote, hnoted, rfl⟩ := Program.yields_bind_iff.1 hdrawn
      obtain rfl := yields_note_iff.1 hnote
      obtain ⟨_, _, rest, hwait, hnext, rfl⟩ := Program.yields_bind_iff.1 hnoted
      obtain rfl := Program.yields_call_iff.1 hwait
      exact .inr ⟨range, rfl, delay, rest, hnext, rfl⟩

/-- What the attempts from that of a number on yield begins with one block, which
either is the last one or is followed by a pause and the attempts that are left. -/
theorem attempts_cases {setting : Setting Value State Result} {left number : Nat}
    {before : State} {trace : Trace Value} {ended : Outcome Result × State}
    (hattempts : (setting.attempts left number before).Yields trace ended) :
    (∃ (block : Block Value Result) (closing : Trace Value) (outcome : Outcome Result)
        (after : State),
      block.Invokes setting.callback before after ∧
      setting.Ends left number block closing outcome ∧ ended = (outcome, after) ∧
      trace = setting.announcement number ++
        block.trace setting.handle setting.isolation ++ closing) ∨
    ∃ (block : Block Value Result) (middle : State) (failure : Error) (reply : Reply)
        (range : DelayRange) (delay : range.Delay) (fewer : Nat) (rest : Trace Value),
      block.Invokes setting.callback before middle ∧
      block.failure? = some failure ∧ block.rollback? = some (.ok reply) ∧
      failure.isRetryable = true ∧ setting.policy.delayRange? = some range ∧
      left = fewer + 1 ∧ (setting.attempts fewer (number + 1) middle).Yields rest ended ∧
      trace = setting.announcement number ++
        block.trace setting.handle setting.isolation ++
          setting.pause number failure delay ++ rest := by
  rw [attempts] at hattempts
  obtain ⟨_, _, _, hannounce, hannounced, rfl⟩ := Program.yields_bind_iff.1 hattempts
  obtain rfl := yields_announce hannounce
  obtain ⟨front, ⟨tried, middle⟩, _, hattempt, htried, rfl⟩ :=
    Program.yields_bind_iff.1 hannounced
  have hattempted := attempted_of_yields hattempt
  cases tried with
  | ok result =>
      obtain ⟨block, hresult, hinvokes, htrace⟩ := hattempted
      obtain ⟨_, _, _, hnote, hnoted, rfl⟩ := Program.yields_bind_iff.1 htried
      obtain rfl := yields_note_iff.1 hnote
      obtain ⟨rfl, rfl⟩ := Program.yields_pure_iff.1 hnoted
      refine .inl ⟨block, _, _, _, hinvokes, .committed hresult, rfl, ?_⟩
      simp [htrace]
  | error failure =>
      obtain ⟨block, hblock⟩ := hattempted
      obtain ⟨_, rollback, _, hrollback, hverdict, rfl⟩ := Program.yields_bind_iff.1 htried
      obtain rfl := yields_send_iff.1 hrollback
      obtain ⟨hfailure, hreply, hinvokes, htrace⟩ := hblock rollback
      cases rollback with
      | error rollback =>
          obtain ⟨_, _, _, hnote, hnoted, rfl⟩ := Program.yields_bind_iff.1 hverdict
          obtain rfl := yields_note_iff.1 hnote
          obtain ⟨rfl, rfl⟩ := Program.yields_pure_iff.1 hnoted
          refine .inl ⟨_, _, _, _, hinvokes, .rollbackFailed hfailure hreply, rfl, ?_⟩
          simp [htrace]
      | ok reply =>
          cases hretry : failure.isRetryable with
          | false =>
              simp only [hretry, Bool.false_eq_true, if_false] at hverdict
              obtain ⟨rfl, rfl⟩ := Program.yields_pure_iff.1 hverdict
              refine .inl ⟨_, _, _, _, hinvokes, .refused hfailure hreply hretry, rfl, ?_⟩
              simp [htrace]
          | true =>
              simp only [hretry, if_true] at hverdict
              cases left with
              | zero =>
                  obtain ⟨_, _, _, hnote, hnoted, rfl⟩ := Program.yields_bind_iff.1 hverdict
                  obtain rfl := yields_note_iff.1 hnote
                  obtain ⟨rfl, rfl⟩ := Program.yields_pure_iff.1 hnoted
                  refine .inl ⟨_, _, _, _, hinvokes, .gaveUp hfailure hreply hretry rfl, rfl, ?_⟩
                  simp [htrace]
              | succ fewer =>
                  obtain ⟨hrange, rfl, rfl⟩ | ⟨range, hrange, delay, rest, hrest, rfl⟩ :=
                    yields_backOff hverdict
                  · refine .inl ⟨_, _, _, _, hinvokes,
                      .noDelay hfailure hreply hretry fewer.succ_pos hrange, rfl, ?_⟩
                    simp [htrace]
                  · refine .inr ⟨_, middle, failure, reply, range, delay, fewer, rest, hinvokes,
                      hfailure, hreply, hretry, hrange, rfl, hrest, ?_⟩
                    simp [htrace]

/-- Whatever the attempts of a transaction yield is a course. -/
theorem exists_course_of_yields {setting : Setting Value State Result} {left number : Nat}
    {before : State} {trace : Trace Value} {ended : Outcome Result × State}
    (hattempts : (setting.attempts left number before).Yields trace ended) :
    ∃ retries last, setting.Course left number before retries last trace ended := by
  induction left generalizing number before trace with
  | zero =>
      obtain ⟨block, closing, outcome, after, hinvokes, hends, rfl, rfl⟩ |
        ⟨_, _, _, _, _, _, fewer, _, _, _, _, _, _, hleft, _⟩ := attempts_cases hattempts
      · exact ⟨[], block, .last hinvokes hends⟩
      · cases hleft
  | succ left ih =>
      obtain ⟨block, closing, outcome, after, hinvokes, hends, rfl, rfl⟩ |
        ⟨block, middle, failure, reply, range, delay, fewer, rest, hinvokes, hfailure,
          hrollback, hretry, hrange, hleft, hrest, rfl⟩ := attempts_cases hattempts
      · exact ⟨[], block, .last hinvokes hends⟩
      · cases hleft
        obtain ⟨retries, last, hcourse⟩ := ih hrest
        exact ⟨⟨block, range, delay⟩ :: retries, last,
          .retry hinvokes hfailure hrollback hretry hrange hcourse⟩

end Setting

/-- An effect between the acquisition of a connection and its release: work on
that connection, an event, or a delay. -/
def StaysOn (handle : Handle) : SourceEffect Value → Prop
  | .work used _ => used = handle
  | .note _ _ | .draw _ | .wait _ => True
  | .identify | .acquire | .release _ => False

/-- A trace in which every effect stays on one connection. -/
def Trace.StaysOn (handle : Handle) (trace : Trace Value) : Prop :=
  ∀ interaction ∈ trace, Transaction.StaysOn handle interaction.effect

theorem Trace.staysOn_append {handle : Handle} {front back : Trace Value}
    (hfront : front.StaysOn handle) (hback : back.StaysOn handle) :
    Trace.StaysOn handle (front ++ back) := by
  intro interaction hmem
  rcases List.mem_append.1 hmem with hmem | hmem
  · exact hfront interaction hmem
  · exact hback interaction hmem

/-- An attempt works on the transaction's own connection only. -/
theorem Block.staysOn_trace (handle : Handle) (isolation : Isolation)
    (block : Block Value Result) : (block.trace handle isolation).StaysOn handle := by
  have hbody : ∀ body : Body Value, Trace.StaysOn handle (body.map (onConnection handle)) := by
    intro body interaction hmem
    obtain ⟨_, _, rfl⟩ := List.mem_map.1 hmem
    rfl
  intro interaction hmem
  cases block with
  | notStarted failure rollback =>
      simp only [trace, List.mem_cons, List.not_mem_nil, or_false] at hmem
      rcases hmem with rfl | rfl <;> rfl
  | abandoned start body failure rollback =>
      simp only [trace, List.mem_cons, List.mem_append, List.not_mem_nil, or_false] at hmem
      rcases hmem with rfl | hmem | rfl
      · rfl
      · exact hbody body interaction hmem
      · rfl
  | notCommitted start body result failure rollback =>
      simp only [trace, List.mem_cons, List.mem_append, List.not_mem_nil, or_false] at hmem
      rcases hmem with rfl | hmem | rfl | rfl
      · rfl
      · exact hbody body interaction hmem
      · rfl
      · rfl
  | committed start body result commit =>
      simp only [trace, List.mem_cons, List.mem_append, List.not_mem_nil, or_false] at hmem
      rcases hmem with rfl | hmem | rfl
      · rfl
      · exact hbody body interaction hmem
      · rfl

namespace Setting

variable {setting : Setting Value State Result}

theorem staysOn_announcement (number : Nat) :
    (setting.announcement number).StaysOn setting.handle := by
  intro interaction hmem
  rw [announcement] at hmem
  split at hmem
  · rw [List.mem_singleton.1 hmem]
    trivial
  · cases hmem

theorem staysOn_pause (number : Nat) (failure : Error) {range : DelayRange}
    (delay : range.Delay) : (setting.pause number failure delay).StaysOn setting.handle := by
  intro interaction hmem
  simp only [pause, List.mem_cons, List.not_mem_nil, or_false] at hmem
  rcases hmem with rfl | rfl | rfl <;> trivial

theorem Ends.staysOn {left number : Nat} {block : Block Value Result} {closing : Trace Value}
    {outcome : Outcome Result} (hends : setting.Ends left number block closing outcome) :
    closing.StaysOn setting.handle := by
  intro interaction hmem
  cases hends with
  | committed _ | rollbackFailed _ _ | gaveUp _ _ _ _ =>
      rw [List.mem_singleton.1 hmem]
      trivial
  | refused _ _ _ | noDelay _ _ _ _ _ => cases hmem

/-- All attempts of a transaction stay on its connection. -/
theorem Course.staysOn {left number : Nat} {before : State} {retries : List (Retry Value Result)}
    {last : Block Value Result} {trace : Trace Value} {ended : Outcome Result × State}
    (hcourse : setting.Course left number before retries last trace ended) :
    trace.StaysOn setting.handle := by
  induction hcourse with
  | @last left number before after block closing outcome hinvokes hends =>
      have hblock := block.staysOn_trace setting.handle setting.isolation
      exact Trace.staysOn_append (Trace.staysOn_append (staysOn_announcement number) hblock)
        hends.staysOn
  | @retry left number before middle block last retries failure reply range delay rest ended
      hinvokes hfailure hrollback hretry hrange hrest ih =>
      have hblock := block.staysOn_trace setting.handle setting.isolation
      exact Trace.staysOn_append (Trace.staysOn_append
        (Trace.staysOn_append (staysOn_announcement number) hblock)
          (staysOn_pause number failure delay)) ih

end Setting

/-- The trace of a transaction that acquires no connection. -/
def refusedTrace (transaction : TransactionId) (failure : Error) : Trace Value :=
  [⟨.identify, transaction⟩, ⟨.acquire, (.error failure : Except Error Handle)⟩]

/-- The trace of a transaction that acquires a connection, around the course of its attempts. -/
def heldTrace (transaction : TransactionId) (handle : Handle) (isolation : Isolation)
    (course : Trace Value) : Trace Value :=
  ⟨.identify, transaction⟩ :: ⟨.acquire, (.ok handle : Except Error Handle)⟩ ::
    noted transaction (.started isolation) ::
      (course ++ [⟨.release handle, ()⟩, noted transaction .released])

theorem eq_error_of_mem_refusedTrace {transaction : TransactionId} {failure : Error}
    {acquired : Except Error Handle}
    (hmem : (⟨.acquire, acquired⟩ : Interaction (sourceSignature Value)) ∈
      refusedTrace transaction failure) : acquired = .error failure := by
  simp only [refusedTrace, List.mem_cons, List.not_mem_nil, or_false] at hmem
  rcases hmem with heq | heq
  · cases heq
  · cases heq
    rfl

theorem eq_ok_of_mem_heldTrace {transaction : TransactionId} {handle : Handle}
    {isolation : Isolation} {course : Trace Value} {acquired : Except Error Handle}
    (hstays : course.StaysOn handle)
    (hmem : (⟨.acquire, acquired⟩ : Interaction (sourceSignature Value)) ∈
      heldTrace transaction handle isolation course) : acquired = .ok handle := by
  simp only [heldTrace, List.mem_cons, List.mem_append, List.not_mem_nil, or_false] at hmem
  rcases hmem with heq | heq | heq | hmem | heq | heq
  · cases heq
  · cases heq
    rfl
  · cases heq
  · exact (hstays _ hmem).elim
  · cases heq
  · cases heq

/-- What a whole transaction yields: nothing but a failed acquisition, or the
course of its attempts on the connection it acquires and releases. -/
theorem runWith_cases {policy : RetryPolicy} {isolation : Isolation}
    {callback : Callback Value State Result} {state : State} {trace : Trace Value}
    {ended : Outcome Result × State}
    (hrun : (runWith policy isolation callback state).Yields trace ended) :
    (∃ (transaction : TransactionId) (failure : Error),
      ended = (.failed failure, state) ∧ trace = refusedTrace transaction failure) ∨
    ∃ (transaction : TransactionId) (handle : Handle) (retries : List (Retry Value Result))
        (last : Block Value Result) (course : Trace Value), course.StaysOn handle ∧
      Setting.Course { handle, transaction, policy, isolation, callback }
        (policy.attemptLimit - 1) 1 state retries last course ended ∧
      trace = heldTrace transaction handle isolation course := by
  rw [runWith] at hrun
  obtain ⟨_, transaction, _, hidentify, hidentified, rfl⟩ := Program.yields_bind_iff.1 hrun
  obtain rfl := Program.yields_call_iff.1 hidentify
  obtain ⟨_, acquired, _, hacquire, hacquired, rfl⟩ := Program.yields_bind_iff.1 hidentified
  obtain rfl := Program.yields_call_iff.1 hacquire
  cases acquired with
  | error failure =>
      obtain ⟨rfl, rfl⟩ := Program.yields_pure_iff.1 hacquired
      exact .inl ⟨transaction, failure, rfl, rfl⟩
  | ok handle =>
      obtain ⟨_, _, _, hstart, hstarted, rfl⟩ := Program.yields_bind_iff.1 hacquired
      obtain rfl := Setting.yields_note_iff.1 hstart
      obtain ⟨course, _, _, hattempts, hattempted, rfl⟩ := Program.yields_bind_iff.1 hstarted
      obtain ⟨retries, last, hcourse⟩ := Setting.exists_course_of_yields hattempts
      obtain ⟨_, _, _, hrelease, hreleased, rfl⟩ := Program.yields_bind_iff.1 hattempted
      obtain rfl := Program.yields_call_iff.1 hrelease
      obtain ⟨_, _, _, hnote, hnoted, rfl⟩ := Program.yields_bind_iff.1 hreleased
      obtain rfl := Setting.yields_note_iff.1 hnote
      obtain ⟨rfl, rfl⟩ := Program.yields_pure_iff.1 hnoted
      exact .inr ⟨transaction, handle, retries, last, course, hcourse.staysOn, hcourse, rfl⟩

section Acquire

variable {policy : RetryPolicy} {isolation : Isolation} {callback : Callback Value State Result}
  {state : State} {trace : Trace Value} {ended : Outcome Result × State}

/-- A transaction that acquires no connection fails with the reason and does nothing else. -/
theorem exists_refusedTrace_of_acquire {failure : Error}
    (hrun : (runWith policy isolation callback state).Yields trace ended)
    (hacquire : ⟨.acquire, (.error failure : Except Error Handle)⟩ ∈ trace) :
    ended = (.failed failure, state) ∧
      ∃ transaction, trace = refusedTrace transaction failure := by
  obtain ⟨transaction, reason, hended, rfl⟩ |
    ⟨transaction, handle, retries, last, course, hstays, hcourse, rfl⟩ := runWith_cases hrun
  · cases eq_error_of_mem_refusedTrace hacquire
    exact ⟨hended, transaction, rfl⟩
  · cases eq_ok_of_mem_heldTrace hstays hacquire

/-- A transaction that acquires a connection takes its course on that one. -/
theorem exists_course_of_acquire {handle : Handle}
    (hrun : (runWith policy isolation callback state).Yields trace ended)
    (hacquire : ⟨.acquire, (.ok handle : Except Error Handle)⟩ ∈ trace) :
    ∃ transaction retries last course,
      Setting.Course { handle, transaction, policy, isolation, callback }
        (policy.attemptLimit - 1) 1 state retries last course ended ∧
      trace = heldTrace transaction handle isolation course := by
  obtain ⟨transaction, failure, -, rfl⟩ |
    ⟨transaction, acquired, retries, last, course, hstays, hcourse, rfl⟩ := runWith_cases hrun
  · cases eq_error_of_mem_refusedTrace hacquire
  · cases eq_ok_of_mem_heldTrace hstays hacquire
    exact ⟨transaction, retries, last, course, hcourse, rfl⟩

end Acquire

end SqlWeave.Transaction
