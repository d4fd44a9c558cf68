/-!
# Programs and worlds

What a computation does to its surroundings is a value: a program either is
done or performs an effect and goes on with the response.  A world answers
effects, and a run of a program in a world yields the result together with
every effect and its response in order.  A program cannot touch that record,
so whatever is true of all programs is true of code that callers supply.
-/

namespace SqlWeave

/-- The effects of a kind of program, and the type of response each one gets. -/
structure Signature where
  Effect : Type
  Response : Effect → Type

/-- A computation that performs effects one after the other and ends. -/
inductive Program (signature : Signature) (Result : Type) where
  | done (result : Result)
  | perform (effect : signature.Effect)
      (next : signature.Response effect → Program signature Result)

namespace Program

variable {signature target : Signature} {Result Image State : Type}

/-- Go on with a program that depends on the result of another. -/
def bind : Program signature Result → (Result → Program signature Image) →
    Program signature Image
  | .done result, continuation => continuation result
  | .perform effect next, continuation =>
    .perform effect fun response => (next response).bind continuation

instance : Monad (Program signature) where
  pure := .done
  bind := bind

theorem bind_done (program : Program signature Result) : program.bind .done = program := by
  induction program with
  | done result => rfl
  | perform effect next ih =>
    rw [bind]
    congr 1
    funext response
    exact ih response

theorem bind_assoc {Last : Type} (program : Program signature Result)
    (middle : Result → Program signature Image) (last : Image → Program signature Last) :
    (program.bind middle).bind last = program.bind fun result => (middle result).bind last := by
  induction program with
  | done result => rfl
  | perform effect next ih =>
    simp only [bind]
    congr 1
    funext response
    exact ih response

instance : LawfulMonad (Program signature) :=
  LawfulMonad.mk' _ bind_done (fun _ _ => rfl) bind_assoc

/-- Perform one effect and hand back its response. -/
def call (effect : signature.Effect) : Program signature (signature.Response effect) :=
  .perform effect .done

/-- A way to perform the effects of one signature as effects of another. -/
structure Embedding (signature target : Signature) where
  effect : signature.Effect → target.Effect
  response : (e : signature.Effect) → target.Response (effect e) → signature.Response e

/-- Perform every effect as an effect of another signature. -/
def embed (embedding : Embedding signature target) :
    Program signature Result → Program target Result
  | .done result => .done result
  | .perform effect next =>
    .perform (embedding.effect effect) fun response =>
      (next (embedding.response effect response)).embed embedding

end Program

/-- Surroundings that answer every effect and may change with it. -/
structure World (signature : Signature) (State : Type) where
  respond : (effect : signature.Effect) → State → signature.Response effect × State

/-- An effect with the response it got. -/
structure Interaction (signature : Signature) where
  effect : signature.Effect
  response : signature.Response effect

/-- What a run leaves behind. -/
structure Run (signature : Signature) (State Result : Type) where
  result : Result
  /-- Every effect with its response, in order. -/
  trace : List (Interaction signature)
  state : State

/-- Run a program in a world from a state of that world. -/
def Program.run {signature : Signature} {State Result : Type} (world : World signature State) :
    Program signature Result → State → Run signature State Result
  | .done result, state => ⟨result, [], state⟩
  | .perform effect next, state =>
    let answered := world.respond effect state
    let rest := (next answered.1).run world answered.2
    { rest with trace := ⟨effect, answered.1⟩ :: rest.trace }

/-- A run of two programs in sequence is a run of the first and then one of the second. -/
theorem Program.run_bind {signature : Signature} {State Result Image : Type}
    (world : World signature State) (program : Program signature Result)
    (continuation : Result → Program signature Image) (state : State) :
    (program.bind continuation).run world state =
      let first := program.run world state
      let second := (continuation first.result).run world first.state
      { second with trace := first.trace ++ second.trace } := by
  induction program generalizing state with
  | done result => rfl
  | perform effect next ih =>
    simp only [Program.bind, Program.run, ih, List.cons_append]

/-- A run of two programs in sequence goes on where the first one ended. -/
theorem Program.run_bind_of_run {signature : Signature} {State Result Image : Type}
    {world : World signature State} {program : Program signature Result}
    {continuation : Result → Program signature Image} {state reached : State} {result : Result}
    {trace : List (Interaction signature)}
    (hfirst : program.run world state = ⟨result, trace, reached⟩) :
    (program >>= continuation).run world state =
      let rest := (continuation result).run world reached
      { rest with trace := trace ++ rest.trace } := by
  change (program.bind continuation).run world state = _
  rw [Program.run_bind, hfirst]

end SqlWeave
