import SqlWeave.Connection.Execution
import SqlWeave.Proofs.Yields

/-!
# Running one fragment

There are four ways to run a fragment, and they differ only in the method of
the statement and in what is made of the reply.  A fragment that does not
compile is work that does nothing; any other one is noted, then sent, and that
is all.
-/

namespace SqlWeave

open Connection

variable {Value Result : Type}

/-- The statement of a compiled fragment, sent by a method. -/
def Compiled.statement (compiled : Compiled Value) (method : Method) : Statement Value :=
  ⟨method, compiled.text, compiled.params⟩

namespace Connection.Statement

/-- What is noted of a statement before it is sent. -/
def event (statement : Statement Value) : StatementEvent :=
  ⟨statement.method, statement.sql, statement.params.size⟩

/-- What is done on a connection with the statement of a fragment, which gets this reply. -/
def exchange (statement : Statement Value) (reply : Except Error Reply) :
    List (Interaction (signature Value)) :=
  [⟨.note statement.event, ()⟩, ⟨.send statement, reply⟩]

/-- Note a statement, send it, and make something of the reply. -/
def perform (statement : Statement Value) (finish : Reply → Except Error Result) :
    Work Value Result :=
  .perform (.note statement.event) fun _ =>
    .perform (.send statement) fun reply => .done (Except.bind reply finish)

/-- What a world answers to the statement of a fragment, and where that leaves the world. -/
def answer {State : Type} (statement : Statement Value) (world : World (signature Value) State)
    (start : State) : Except Error Reply × State :=
  world.respond (.send statement) (world.respond (.note statement.event) start).2

theorem run_perform {State : Type} (statement : Statement Value)
    (finish : Reply → Except Error Result) (world : World (signature Value) State)
    (start : State) :
    (statement.perform finish).run world start =
      ⟨Except.bind (statement.answer world start).1 finish,
        statement.exchange (statement.answer world start).1,
        (statement.answer world start).2⟩ := rfl

theorem yields_perform {statement : Statement Value} {finish : Reply → Except Error Result}
    {trace : List (Interaction (signature Value))} {ended : Except Error Result}
    (hyields : (statement.perform finish).Yields trace ended) :
    ∃ reply, trace = statement.exchange reply ∧ ended = reply.bind finish := by
  cases hyields with
  | perform _ _ hsent =>
      cases hsent with
      | perform _ reply hdone =>
          cases hdone
          exact ⟨reply, rfl, rfl⟩

end Connection.Statement

namespace Fragment

variable {fragment : Fragment Value} {method : Method} {fault : TreeFault}
  {compiled : Compiled Value}

/-- A fragment that does not compile is not sent. -/
theorem send_of_error (hcompile : fragment.compile = .error fault) (method : Method) :
    fragment.send method = .done (.error (.ofTreeFault fault)) := by
  rw [send, hcompile]

/-- A fragment that compiles is noted before it is sent. -/
theorem send_of_ok (hcompile : fragment.compile = .ok compiled) (method : Method) :
    fragment.send method =
      .perform (.note (compiled.statement method).event) fun _ =>
        Connection.send (compiled.statement method) := by
  rw [send, hcompile]
  rfl

/-- The work is one of the ways to run the fragment, and this is the method of its statement. -/
inductive Runs (fragment : Fragment Value) :
    Method → (Result : Type) → Work Value Result → Prop where
  | runRows : Runs fragment .query Reply fragment.runRows
  | run (reader : RowReader) : Runs fragment .query Json (fragment.run reader)
  | runAs {Result : Type} (reader : RowReader) (decode : Json.Decoder Result) :
      Runs fragment .query Result (fragment.runAs reader decode)
  | execute : Runs fragment .execute Nat fragment.execute

/-- A fragment is never sent as plain text. -/
theorem Runs.method_ne_raw {work : Work Value Result}
    (hruns : fragment.Runs method Result work) : method ≠ .raw := by
  cases hruns <;> decide

/-- Every way to run a fragment sends it and makes something of the reply. -/
theorem Runs.exists_finish {work : Work Value Result}
    (hruns : fragment.Runs method Result work) :
    ∃ finish : Reply → Except Error Result,
      work = (fragment.send method).bind fun reply => .done (reply.bind finish) := by
  cases hruns with
  | runRows =>
      -- the reply is handed on as it is, so there is no step to finish it
      refine ⟨.ok, ?_⟩
      have hsame : (fun reply : Except Error Reply => Program.done (reply.bind .ok)) =
          (.done : Except Error Reply → Work Value Reply) := by
        funext reply
        cases reply <;> rfl
      rw [hsame, Program.bind_done, Fragment.runRows]
  | run reader => exact ⟨fragment.shapeReply reader, rfl⟩
  | runAs reader decode =>
      refine ⟨fun reply => (fragment.shapeReply reader reply).bind (decodeResult decode), ?_⟩
      rw [Fragment.runAs, Fragment.run, Program.bind_assoc]
      congr 1
      funext reply
      cases reply <;> rfl
  | execute => exact ⟨fun reply => .ok reply.affected, rfl⟩

/-- A fragment that does not compile fails with the fault and does nothing. -/
theorem Runs.eq_done {work : Work Value Result} (hruns : fragment.Runs method Result work)
    (hcompile : fragment.compile = .error fault) :
    work = .done (.error (.ofTreeFault fault)) := by
  obtain ⟨finish, rfl⟩ := hruns.exists_finish
  rw [send_of_error hcompile]
  rfl

/-- A fragment that compiles is noted and sent as one statement. -/
theorem Runs.exists_eq_perform {work : Work Value Result}
    (hruns : fragment.Runs method Result work) (hcompile : fragment.compile = .ok compiled) :
    ∃ finish, work = (compiled.statement method).perform finish := by
  obtain ⟨finish, rfl⟩ := hruns.exists_finish
  rw [send_of_ok hcompile]
  exact ⟨finish, rfl⟩

theorem run_eq_perform (reader : RowReader) (hcompile : fragment.compile = .ok compiled) :
    fragment.run reader =
      (compiled.statement .query).perform (fragment.shapeReply reader) := by
  rw [run, runRows, send_of_ok hcompile]
  rfl

end Fragment

end SqlWeave
