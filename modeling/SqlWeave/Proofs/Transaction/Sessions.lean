import SqlWeave.Proofs.FragmentCalls
import SqlWeave.Proofs.Transaction.Leases
import SqlWeave.Query.Truncate

/-!
# Sessions

A session obtains connections, runs fragments on them and makes transactions
that run fragments.  On its connections it does nothing but exchange statements
for replies: the statement of a fragment right after its event, and a control
statement of a transaction without any.  So events, statements and replies are
three views of one list of exchanges and cannot get out of step.
-/

namespace SqlWeave.Transaction

open Connection (Method Reply Statement StatementEvent Work)

variable {Value State Result Surroundings : Type}

/-- Work that uses its connection for running some of these fragments only. -/
inductive RunsFragments (fragments : Fragment Value → Prop) :
    {Result : Type} → Program (Connection.signature Value) Result → Prop where
  | done {Result : Type} (result : Result) : RunsFragments fragments (.done result)
  | run {fragment : Fragment Value} {method : Method} {Kind : Type} {work : Work Value Kind}
      (hfragment : fragments fragment) (hruns : fragment.Runs method Kind work) :
      RunsFragments fragments work
  | bind {Kind Result : Type} {first : Program (Connection.signature Value) Kind}
      {next : Kind → Program (Connection.signature Value) Result}
      (hfirst : RunsFragments fragments first)
      (hnext : ∀ ended, RunsFragments fragments (next ended)) :
      RunsFragments fragments (first.bind next)

def SourceEffect.isWork : SourceEffect Value → Bool
  | .work _ _ => true
  | .identify | .acquire | .release _ | .note _ _ | .draw _ | .wait _ => false

/-- A program that uses its connections for running some of these fragments and
for transactions whose callbacks run some of them. -/
inductive Session (fragments : Fragment Value → Prop) :
    {Result : Type} → SourceProgram Value Result → Prop where
  | done {Result : Type} (result : Result) : Session fragments (.done result)
  /-- An effect that is no work on a connection, such as acquiring one. -/
  | call {effect : SourceEffect Value} (heffect : effect.isWork = false) :
      Session fragments (SourceProgram.call effect)
  | work {Result : Type} (handle : Handle)
      {program : Program (Connection.signature Value) Result}
      (hruns : RunsFragments fragments program) :
      Session fragments (SourceProgram.work handle program)
  | transaction {call : Call Value}
      (hcallback : ∀ state, RunsFragments fragments (call.callback state)) :
      Session fragments call.program
  | bind {Kind Result : Type} {first : SourceProgram Value Kind}
      {next : Kind → SourceProgram Value Result} (hfirst : Session fragments first)
      (hnext : ∀ ended, Session fragments (next ended)) : Session fragments (first.bind next)

/-- Work on a pooled connection that runs fragments is a session. -/
theorem session_withConnection {fragments : Fragment Value → Prop} {work : Work Value Result}
    (hruns : RunsFragments fragments work) :
    Session fragments (SourceProgram.withConnection work) := by
  refine .bind (.call rfl) fun acquired => ?_
  cases acquired with
  | error failure => exact .done _
  | ok handle =>
      exact .bind (.work handle hruns) fun result => .bind (.call rfl) fun _ => .done result

/-- Where a statement comes from. -/
inductive Origin where
  | fragment
  | controller
  deriving DecidableEq

/-- The statements that control a transaction. -/
inductive IsControlSql : String → Prop where
  | start (isolation : Isolation) : IsControlSql (startSql isolation)
  | commit : IsControlSql commitSql
  | rollback : IsControlSql rollbackSql

/-- A statement that was sent on a connection, and the reply it got. -/
structure Exchange (Value : Type) where
  origin : Origin
  handle : Handle
  statement : Statement Value
  reply : Except Error Reply

namespace Exchange

/-- What is done on a connection for an exchange: the statement is sent, and
that of a fragment is noted before. -/
def interactions (exchange : Exchange Value) : Trace Value :=
  let sent : Interaction (sourceSignature Value) :=
    ⟨.work exchange.handle (.send exchange.statement), exchange.reply⟩
  match exchange.origin with
  | .fragment => [⟨.work exchange.handle (.note exchange.statement.event), ()⟩, sent]
  | .controller => [sent]

/-- The statement is one that its origin sends: that of one of these fragments,
which compiles, or one that starts, commits or rolls back a transaction. -/
def Fits (fragments : Fragment Value → Prop) (exchange : Exchange Value) : Prop :=
  match exchange.origin with
  | .fragment => ∃ fragment compiled method, fragments fragment ∧
      fragment.compile = .ok compiled ∧ method ≠ .raw ∧
        exchange.statement = compiled.statement method
  | .controller => ∃ sql, IsControlSql sql ∧ exchange.statement = control sql

end Exchange

/-- What a trace does on connections, in order. -/
def wired (trace : Trace Value) : Trace Value :=
  trace.filter fun interaction => SourceEffect.isWork interaction.effect

/-- On connections a trace does nothing but make these exchanges, with the
statements of some of these fragments. -/
structure Makes (fragments : Fragment Value → Prop) (trace : Trace Value)
    (exchanges : List (Exchange Value)) : Prop where
  fits : ∀ exchange ∈ exchanges, exchange.Fits fragments
  wired_eq : wired trace = exchanges.flatMap Exchange.interactions

def Exchanges (fragments : Fragment Value → Prop) (trace : Trace Value) : Prop :=
  ∃ exchanges, Makes fragments trace exchanges

variable {fragments : Fragment Value → Prop} {trace : Trace Value}

section Exchanges

variable {front back : Trace Value}

theorem exchanges_of_wired (hwired : wired trace = []) : Exchanges fragments trace :=
  ⟨[], by simp, hwired⟩

theorem Exchanges.append (hfront : Exchanges fragments front) (hback : Exchanges fragments back) :
    Exchanges fragments (front ++ back) := by
  obtain ⟨early, hfits, hwired⟩ := hfront
  obtain ⟨late, hfits', hwired'⟩ := hback
  refine ⟨early ++ late, List.forall_mem_append.2 ⟨hfits, hfits'⟩, ?_⟩
  rw [List.flatMap_append, ← hwired, ← hwired', wired, List.filter_append]
  rfl

theorem exchanges_controlled {sql : String} (hsql : IsControlSql sql) (handle : Handle)
    (reply : Except Error Reply) :
    Exchanges fragments ([controlled handle sql reply] : Trace Value) :=
  ⟨[⟨.controller, handle, control sql, reply⟩],
    List.forall_mem_singleton.2 ⟨sql, hsql, rfl⟩, rfl⟩

/-- Running a fragment exchanges its statement, if it compiles, and nothing otherwise. -/
theorem exchanges_of_runs {fragment : Fragment Value} {method : Method} {work : Work Value Result}
    {body : Body Value} {result : Except Error Result} (hfragment : fragments fragment)
    (hruns : fragment.Runs method Result work) (hyields : work.Yields body result)
    (handle : Handle) : Exchanges fragments (body.map (onConnection handle)) := by
  cases hcompile : fragment.compile with
  | error fault =>
      rw [hruns.eq_done hcompile] at hyields
      cases hyields
      exact exchanges_of_wired rfl
  | ok compiled =>
      obtain ⟨finish, rfl⟩ := hruns.exists_eq_perform hcompile
      obtain ⟨reply, rfl, -⟩ := Statement.yields_perform hyields
      have hfits : Exchange.Fits fragments
          ⟨.fragment, handle, compiled.statement method, reply⟩ :=
        ⟨fragment, compiled, method, hfragment, hcompile, hruns.method_ne_raw, rfl⟩
      exact ⟨[⟨.fragment, handle, compiled.statement method, reply⟩],
        List.forall_mem_singleton.2 hfits, rfl⟩

/-- Work that runs fragments makes exchanges only. -/
theorem exchanges_of_runsFragments {program : Program (Connection.signature Value) Result}
    {body : Body Value} {result : Result} (hruns : RunsFragments fragments program)
    (hyields : program.Yields body result) (handle : Handle) :
    Exchanges fragments (body.map (onConnection handle)) := by
  induction hruns generalizing body with
  | done ended =>
      cases hyields
      exact exchanges_of_wired rfl
  | run hfragment hruns => exact exchanges_of_runs hfragment hruns hyields handle
  | bind hfirst hnext ihfirst ihnext =>
      obtain ⟨front, ended, back, hfront, hback, rfl⟩ := Program.yields_bind_iff.1 hyields
      rw [List.map_append]
      exact (ihfirst hfront).append (ihnext ended hback)

end Exchanges

/-- An attempt exchanges its control statements and those of its callback. -/
theorem Block.exchanges_trace {callback : Callback Value State Result} {before after : State}
    {block : Block Value Result} (hcallback : ∀ state, RunsFragments fragments (callback state))
    (hinvokes : block.Invokes callback before after) (handle : Handle) (isolation : Isolation) :
    Exchanges fragments (block.trace handle isolation) := by
  cases block with
  | notStarted failure rollback =>
      exact (exchanges_controlled (.start isolation) handle _).append
        (exchanges_controlled .rollback handle rollback)
  | abandoned start body failure rollback =>
      have hbody := exchanges_of_runsFragments (hcallback before) hinvokes handle
      exact (exchanges_controlled (.start isolation) handle _).append
        (hbody.append (exchanges_controlled .rollback handle rollback))
  | notCommitted start body result failure rollback =>
      have hbody := exchanges_of_runsFragments (hcallback before) hinvokes handle
      exact (exchanges_controlled (.start isolation) handle _).append
        (hbody.append ((exchanges_controlled .commit handle _).append
          (exchanges_controlled .rollback handle rollback)))
  | committed start body result commit =>
      have hbody := exchanges_of_runsFragments (hcallback before) hinvokes handle
      exact (exchanges_controlled (.start isolation) handle _).append
        (hbody.append (exchanges_controlled .commit handle _))

namespace Setting

variable {setting : Setting Value State Result}

theorem wired_announcement (setting : Setting Value State Result) (number : Nat) :
    wired (setting.announcement number) = [] := by
  rw [announcement]
  split <;> rfl

theorem Ends.wired_eq {left number : Nat} {block : Block Value Result}
    {outcome : Outcome Result} (hends : setting.Ends left number block trace outcome) :
    wired trace = [] := by
  cases hends <;> rfl

/-- What lies between the attempts exchanges nothing, so all attempts do what each one does. -/
theorem Course.exchanges {left number : Nat} {before : State}
    {retries : List (Retry Value Result)} {last : Block Value Result}
    {ended : Outcome Result × State}
    (hcourse : setting.Course left number before retries last trace ended)
    (hcallback : ∀ state, RunsFragments fragments (setting.callback state)) :
    Exchanges fragments trace := by
  induction hcourse with
  | @last left number before after block closing outcome hinvokes hends =>
      have hblock := block.exchanges_trace hcallback hinvokes setting.handle setting.isolation
      exact ((exchanges_of_wired (setting.wired_announcement number)).append hblock).append
        (exchanges_of_wired hends.wired_eq)
  | @retry left number before middle block last retries failure reply range delay rest ended
      hinvokes hfailure hrollback hretry hrange hrest ih =>
      have hblock := block.exchanges_trace hcallback hinvokes setting.handle setting.isolation
      have hpause : Exchanges fragments (setting.pause number failure delay) :=
        exchanges_of_wired rfl
      exact (((exchanges_of_wired (setting.wired_announcement number)).append hblock).append
        hpause).append ih

end Setting

/-- A transaction exchanges what its attempts exchange. -/
theorem Call.exchanges {call : Call Value} {ended : Outcome call.Result × call.State}
    (hcallback : ∀ state, RunsFragments fragments (call.callback state))
    (hyields : call.program.Yields trace ended) : Exchanges fragments trace := by
  rw [call.program_eq] at hyields
  obtain ⟨transaction, failure, -, rfl⟩ |
    ⟨transaction, handle, retries, last, course, -, hcourse, rfl⟩ := runWith_cases hyields
  · exact exchanges_of_wired rfl
  · have hopening : Exchanges fragments ([⟨.identify, transaction⟩,
        ⟨.acquire, (.ok handle : Except Error Handle)⟩,
        noted transaction (.started call.isolation)] : Trace Value) := exchanges_of_wired rfl
    have hclosing : Exchanges fragments
        ([⟨.release handle, ()⟩, noted transaction .released] : Trace Value) :=
      exchanges_of_wired rfl
    exact hopening.append ((hcourse.exchanges hcallback).append hclosing)

/-- On connections a session does nothing but make exchanges. -/
theorem Session.exchanges {session : SourceProgram Value Result} {result : Result}
    (hsession : Session fragments session) (hyields : session.Yields trace result) :
    Exchanges fragments trace := by
  induction hsession generalizing trace with
  | done ended =>
      cases hyields
      exact exchanges_of_wired rfl
  | call heffect =>
      obtain rfl := Program.yields_call_iff.1 hyields
      refine exchanges_of_wired ?_
      simp [wired, heffect]
  | work handle hruns =>
      obtain ⟨body, hbody, rfl⟩ := yields_work_iff.1 hyields
      exact exchanges_of_runsFragments hruns hbody handle
  | transaction hcallback => exact Call.exchanges hcallback hyields
  | bind hfirst hnext ihfirst ihnext =>
      obtain ⟨front, ended, back, hfront, hback, rfl⟩ := Program.yields_bind_iff.1 hyields
      exact (ihfirst hfront).append (ihnext ended hback)

section Views

variable {exchanges : List (Exchange Value)}

/-- What is seen of a trace, if nothing is seen but work on connections, is seen
of its exchanges. -/
theorem Makes.filterMap_eq {Image : Type}
    {view? : Interaction (sourceSignature Value) → Option Image}
    (hmakes : Makes fragments trace exchanges)
    (hview : ∀ interaction, SourceEffect.isWork interaction.effect = false →
      view? interaction = none) :
    trace.filterMap view? =
      exchanges.flatMap fun exchange => exchange.interactions.filterMap view? := by
  have hwired : trace.filterMap view? = (wired trace).filterMap view? := by
    rw [wired, List.filterMap_filter]
    congr 1
    funext interaction
    cases hwork : SourceEffect.isWork interaction.effect with
    | false => simpa using hview interaction hwork
    | true => rfl
  rw [hwired, hmakes.wired_eq, List.filterMap_flatMap]

/-- An exchange as it is seen among the statements. -/
def Exchange.act (exchange : Exchange Value) : Act Value :=
  .sent exchange.handle exchange.statement exchange.reply

/-- The statements that are sent are those of the exchanges. -/
theorem Makes.sent_eq (hmakes : Makes fragments trace exchanges) :
    sent trace = exchanges.map Exchange.act := by
  rw [sent, acts, List.filter_filterMap, hmakes.filterMap_eq, List.map_eq_flatMap]
  · congr 1
    funext exchange
    obtain ⟨origin, handle, statement, reply⟩ := exchange
    cases origin <;> rfl
  · rintro ⟨effect, response⟩ heffect
    cases effect <;> first | rfl | cases heffect

def statementEvent? : Interaction (sourceSignature Value) → Option StatementEvent
  | ⟨.work _ (.note event), _⟩ => some event
  | _ => none

/-- What is noted of the statements of fragments, in order. -/
def statementEvents (trace : Trace Value) : List StatementEvent :=
  trace.filterMap statementEvent?

/-- What is noted of statements is noted of those that fragments send. -/
theorem Makes.statementEvents_eq (hmakes : Makes fragments trace exchanges) :
    statementEvents trace =
      (exchanges.filter fun exchange => exchange.origin = .fragment).map
        fun exchange => exchange.statement.event := by
  rw [statementEvents, hmakes.filterMap_eq]
  · clear hmakes
    induction exchanges with
    | nil => rfl
    | cons exchange exchanges ih =>
        rw [List.flatMap_cons, ih]
        obtain ⟨origin, handle, statement, reply⟩ := exchange
        cases origin <;> rfl
  · rintro ⟨effect, response⟩ heffect
    cases effect <;> first | rfl | cases heffect

end Views

section Server

def SourceEffect.isSend : SourceEffect Value → Bool
  | .work _ (.send _) => true
  | _ => false

/-- A server whose replies are lined up: every statement takes the next one, and
nothing else takes any. -/
structure LinedUp (world : World (sourceSignature Value) Surroundings)
    (taken : Surroundings → Nat) (replies : Nat → Statement Value → Except Error Reply) :
    Prop where
  reply : ∀ handle statement here,
    (world.respond (.work handle (.send statement)) here).1 = replies (taken here) statement
  next : ∀ handle statement here,
    taken (world.respond (.work handle (.send statement)) here).2 = taken here + 1
  aside : ∀ (effect : SourceEffect Value) here, effect.isSend = false →
    taken (world.respond effect here).2 = taken here

variable {world : World (sourceSignature Value) Surroundings} {taken : Surroundings → Nat}
  {replies : Nat → Statement Value → Except Error Reply}

/-- An interaction with the server sends nothing and takes no reply, or sends one
statement, which is given the next reply. -/
theorem LinedUp.respond_cases (hlined : LinedUp world taken replies)
    (effect : SourceEffect Value) (here : Surroundings) (rest : Trace Value) :
    (sent (⟨effect, (world.respond effect here).1⟩ :: rest) = sent rest ∧
      taken (world.respond effect here).2 = taken here) ∨
    ∃ handle statement,
      sent (⟨effect, (world.respond effect here).1⟩ :: rest) =
        .sent handle statement (replies (taken here) statement) :: sent rest ∧
      taken (world.respond effect here).2 = taken here + 1 := by
  cases effect with
  | work handle effect =>
      cases effect with
      | send statement =>
          refine .inr ⟨handle, statement, ?_, hlined.next handle statement here⟩
          rw [← hlined.reply handle statement here]
          rfl
      | note event => exact .inl ⟨rfl, hlined.aside (.work handle (.note event)) here rfl⟩
  | identify => exact .inl ⟨rfl, hlined.aside .identify here rfl⟩
  | acquire => exact .inl ⟨rfl, hlined.aside .acquire here rfl⟩
  | release handle => exact .inl ⟨rfl, hlined.aside (.release handle) here rfl⟩
  | note transaction event => exact .inl ⟨rfl, hlined.aside (.note transaction event) here rfl⟩
  | draw range => exact .inl ⟨rfl, hlined.aside (.draw range) here rfl⟩
  | wait delay => exact .inl ⟨rfl, hlined.aside (.wait delay) here rfl⟩

/-- Every statement takes one reply off the line. -/
theorem LinedUp.taken_run (hlined : LinedUp world taken replies)
    (program : SourceProgram Value Result) (start : Surroundings) :
    taken (program.run world start).state =
      taken start + (sent (program.run world start).trace).length := by
  induction program generalizing start with
  | done result => rfl
  | perform effect next ih =>
      rw [Program.run]
      simp only [ih]
      obtain ⟨hsent, htaken⟩ | ⟨handle, statement, hsent, htaken⟩ :=
        hlined.respond_cases effect start
          ((next (world.respond effect start).1).run world (world.respond effect start).2).trace
      · rw [hsent, htaken]
      · rw [hsent, htaken, List.length_cons]
        omega

/-- The statement at a position is given the reply at that position. -/
theorem LinedUp.reply_eq (hlined : LinedUp world taken replies)
    {program : SourceProgram Value Result} {start : Surroundings} {index : Nat}
    {handle : Handle} {statement : Statement Value} {reply : Except Error Reply}
    (hsent : (sent (program.run world start).trace)[index]? =
      some (.sent handle statement reply)) :
    reply = replies (taken start + index) statement := by
  induction program generalizing start index with
  | done result => cases hsent
  | perform effect next ih =>
      rw [Program.run] at hsent
      obtain ⟨hnone, htaken⟩ | ⟨used, first, hfirst, htaken⟩ :=
        hlined.respond_cases effect start
          ((next (world.respond effect start).1).run world (world.respond effect start).2).trace
      · rw [hnone] at hsent
        rw [ih _ hsent, htaken]
      · rw [hfirst] at hsent
        cases index with
        | zero =>
            cases hsent
            rfl
        | succ index =>
            rw [ih _ hsent, htaken, Nat.add_right_comm, Nat.add_assoc]

end Server

/-- Running a fragment is one exchange or nothing.  If the fragment does not
compile, the run fails with the fault and leaves everything as it was; otherwise
its event is noted and then its statement is sent, once, and an error in reply
is handed back unchanged.  So on its connections a session does nothing but
make exchanges, each of them the statement of a fragment right after its event
or a control statement without one: what is noted are the statements of
fragments in the order in which they are sent, and where replies are lined up
every statement is given the one at its own position. -/
theorem every_fragment_is_one_exchange_or_nothing {fragment : Fragment Value} {method : Method}
    {work : Work Value Result} (hruns : fragment.Runs method Result work) :
    (∀ (Surroundings : Type) (world : World (Connection.signature Value) Surroundings)
        (start : Surroundings),
      (∀ fault, fragment.compile = .error fault →
        work.run world start = ⟨.error (.ofTreeFault fault), [], start⟩) ∧
      ∀ compiled, fragment.compile = .ok compiled →
        ∃ reply,
          (work.run world start).trace =
            [⟨.note ⟨method, compiled.text, compiled.params.size⟩, ()⟩,
              ⟨.send ⟨method, compiled.text, compiled.params⟩, reply⟩] ∧
          ∀ error, reply = .error error → (work.run world start).result = .error error) ∧
    ∀ (Surroundings Image : Type) (world : World (sourceSignature Value) Surroundings)
        (start : Surroundings) (fragments : Fragment Value → Prop)
        (session : SourceProgram Value Image), Session fragments session →
      ∃ exchanges : List (Exchange Value),
        (∀ exchange ∈ exchanges, exchange.Fits fragments) ∧
        wired (session.run world start).trace = exchanges.flatMap Exchange.interactions ∧
        sent (session.run world start).trace = exchanges.map Exchange.act ∧
        statementEvents (session.run world start).trace =
          (exchanges.filter fun exchange => exchange.origin = .fragment).map
            (fun exchange => exchange.statement.event) ∧
        ∀ taken replies, LinedUp world taken replies →
          (∀ index exchange, exchanges[index]? = some exchange →
            exchange.reply = replies (taken start + index) exchange.statement) ∧
          taken (session.run world start).state = taken start + exchanges.length := by
  refine ⟨fun _ world start => ⟨?_, ?_⟩, fun _ _ world start fragments session hsession => ?_⟩
  · intro fault hcompile
    rw [hruns.eq_done hcompile]
    rfl
  · intro compiled hcompile
    obtain ⟨finish, rfl⟩ := hruns.exists_eq_perform hcompile
    rw [Statement.run_perform]
    refine ⟨_, rfl, ?_⟩
    intro error hreply
    rw [hreply]
    rfl
  · obtain ⟨exchanges, hmakes⟩ :=
      hsession.exchanges (Program.yields_run world session start)
    refine ⟨exchanges, hmakes.fits, hmakes.wired_eq, hmakes.sent_eq, hmakes.statementEvents_eq,
      fun taken replies hlined => ⟨?_, ?_⟩⟩
    · intro index exchange hexchange
      have hsent : (sent (session.run world start).trace)[index]? =
          some (.sent exchange.handle exchange.statement exchange.reply) := by
        rw [hmakes.sent_eq, List.getElem?_map, hexchange]
        rfl
      exact hlined.reply_eq hsent
    · rw [hlined.taken_run, hmakes.sent_eq, List.length_map]

theorem DelayRange.least_mem (range : DelayRange) :
    range.least ≤ range.least ∧ range.least ≤ range.greatest :=
  ⟨Nat.le_refl _, range.least_le_greatest⟩

/-- A server that answers every statement with the number of those before it. -/
def numbering : World (sourceSignature Nat) Nat where
  respond
    | .identify, served => (⟨0⟩, served)
    | .acquire, served => (.ok ⟨0⟩, served)
    | .release _, served => ((), served)
    | .work _ (.send _), served => (.ok ⟨[], [], served⟩, served + 1)
    | .work _ (.note _), served => ((), served)
    | .note _ _, served => ((), served)
    | .draw range, served => (⟨range.least, range.least_mem⟩, served)
    | .wait _, served => ((), served)

theorem linedUp_numbering :
    LinedUp numbering id fun position _ => .ok ⟨[], [], position⟩ where
  reply _ _ _ := rfl
  next _ _ _ := rfl
  aside effect _ heffect := by
    cases effect with
    | work handle effect =>
        cases effect with
        | send statement => cases heffect
        | note event => rfl
    | identify | acquire | release _ | note _ _ | draw _ | wait _ => rfl

/-- A table is emptied on a pooled connection and again in a transaction: of the
four statements that are sent, the two that empty it are noted. -/
theorem every_fragment_is_one_exchange_or_nothing_in_truncation :
    let truncation : Fragment Nat := Query.truncate ["users"] {}
    let session : SourceProgram Nat (Outcome Nat × Unit) :=
      (SourceProgram.withConnection truncation.execute).bind fun _ =>
        Transaction.run .serializable
          (fun state => truncation.execute.bind fun affected => .done (affected, state)) ()
    let run := session.run numbering 0
    statementEvents run.trace =
      [⟨.execute, "TRUNCATE \"users\"", 0⟩, ⟨.execute, "TRUNCATE \"users\"", 0⟩] ∧
    ∃ exchanges : List (Exchange Nat),
      sent run.trace = exchanges.map Exchange.act ∧ exchanges.length = 4 ∧
      ∀ index (exchange : Exchange Nat), exchanges[index]? = some exchange →
        exchange.reply = .ok ⟨[], [], 0 + index⟩ := by
  intro truncation session run
  have hruns : truncation.Runs .execute Nat truncation.execute := .execute
  have hwork : RunsFragments (· = truncation) truncation.execute := .run rfl hruns
  have hsession : Session (· = truncation) session := by
    refine .bind (session_withConnection hwork) fun _ => ?_
    have hcall : Session (· = truncation) (Call.program (.run .serializable
        (fun state => truncation.execute.bind fun affected => .done (affected, state)) ())) :=
      .transaction fun _ => .bind hwork fun _ => .done _
    exact hcall
  obtain ⟨exchanges, -, -, hsent, -, hserved⟩ :=
    (every_fragment_is_one_exchange_or_nothing hruns).2 _ _ numbering 0 _ session hsession
  obtain ⟨hreplies, hlength⟩ := hserved id _ linedUp_numbering
  have hevents : statementEvents run.trace =
      [⟨.execute, "TRUNCATE \"users\"", 0⟩, ⟨.execute, "TRUNCATE \"users\"", 0⟩] := by
    decide +kernel
  have hstate : run.state = 4 := by decide +kernel
  refine ⟨hevents, exchanges, hsent, ?_, hreplies⟩
  calc exchanges.length = 0 + exchanges.length := (Nat.zero_add _).symm
    _ = run.state := hlength.symm
    _ = 4 := hstate

end SqlWeave.Transaction
