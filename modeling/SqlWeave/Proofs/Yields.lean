import SqlWeave.Transaction.Source

/-!
# What programs yield

A program yields a trace and a result when its surroundings can answer its
effects in the way the trace says.  The relation leaves the surroundings open,
so what holds of everything a program yields holds of its runs in every world.
Work on an acquired connection yields what the work itself does, performed on
that connection.
-/

namespace SqlWeave

namespace Program

variable {signature : Signature} {Result Image State : Type}

/-- The program performs these effects with these responses and ends with this result. -/
inductive Yields :
    Program signature Result → List (Interaction signature) → Result → Prop where
  | done (result : Result) : Yields (.done result) [] result
  | perform (effect : signature.Effect)
      {next : signature.Response effect → Program signature Result}
      (response : signature.Response effect) {trace : List (Interaction signature)}
      {result : Result} (hnext : Yields (next response) trace result) :
      Yields (.perform effect next) (⟨effect, response⟩ :: trace) result

/-- A run in a world yields its trace and its result. -/
theorem yields_run (world : World signature State) (program : Program signature Result)
    (state : State) :
    program.Yields (program.run world state).trace (program.run world state).result := by
  induction program generalizing state with
  | done result => exact .done result
  | perform effect next ih =>
      exact .perform effect _ (ih _ _)

theorem yields_pure_iff {ended result : Result} {trace : List (Interaction signature)} :
    (pure ended : Program signature Result).Yields trace result ↔
      trace = [] ∧ result = ended := by
  constructor
  · intro h
    cases h
    exact ⟨rfl, rfl⟩
  · rintro ⟨rfl, rfl⟩
    exact .done _

/-- One effect yields its response. -/
theorem yields_call_iff {effect : signature.Effect} {trace : List (Interaction signature)}
    {response : signature.Response effect} :
    (call effect).Yields trace response ↔ trace = [⟨effect, response⟩] := by
  constructor
  · intro h
    cases h with
    | perform _ response hnext =>
        cases hnext
        rfl
  · rintro rfl
    exact .perform effect response (.done response)

/-- What two programs in sequence yield splits where the second one begins. -/
theorem yields_bind_iff {program : Program signature Result}
    {continuation : Result → Program signature Image}
    {trace : List (Interaction signature)} {image : Image} :
    (program >>= continuation).Yields trace image ↔
      ∃ front middle back, program.Yields front middle ∧
        (continuation middle).Yields back image ∧ trace = front ++ back := by
  constructor
  · intro h
    induction program generalizing trace with
    | done result => exact ⟨[], result, trace, .done result, h, rfl⟩
    | perform effect next ih =>
        cases h with
        | perform _ response hnext =>
            obtain ⟨front, middle, back, hfront, hback, rfl⟩ := ih response hnext
            exact ⟨_, middle, back, .perform effect response hfront, hback, rfl⟩
  · rintro ⟨front, middle, back, hfront, hback, rfl⟩
    induction hfront with
    | done result => exact hback
    | perform effect response _ ih => exact .perform effect response (ih hback)

end Program

namespace Transaction

variable {Value Result : Type}

/-- An interaction of work on a connection, performed on an acquired one. -/
def onConnection (handle : Handle) (interaction : Interaction (Connection.signature Value)) :
    Interaction (sourceSignature Value) :=
  ⟨.work handle interaction.effect, interaction.response⟩

/-- Work on an acquired connection yields what the work yields, on that connection. -/
theorem yields_work_iff {handle : Handle}
    {program : Program (Connection.signature Value) Result}
    {trace : List (Interaction (sourceSignature Value))} {result : Result} :
    (SourceProgram.work handle program).Yields trace result ↔
      ∃ body, program.Yields body result ∧ trace = body.map (onConnection handle) := by
  constructor
  · intro h
    induction program generalizing trace with
    | done ended =>
        cases h
        exact ⟨[], .done _, rfl⟩
    | perform effect next ih =>
        cases h with
        | perform _ response hnext =>
            obtain ⟨body, hbody, rfl⟩ := ih response hnext
            exact ⟨_, .perform effect response hbody, rfl⟩
  · rintro ⟨body, hbody, rfl⟩
    induction hbody with
    | done ended => exact .done ended
    | perform effect response _ ih =>
        exact @Program.Yields.perform (sourceSignature Value) _ (.work handle effect) _ response
          _ _ ih

end Transaction

end SqlWeave
