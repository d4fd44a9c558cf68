import SqlWeave.Error
import SqlWeave.Proofs.BuiltReadings
import SqlWeave.Proofs.NestedFragments
import SqlWeave.Proofs.Pushes
import SqlWeave.Query.Call

/-!
# Parts of a fragment

The literals and the nodes of a fragment as two lists, as they are handed out and
put together.  Two lists need not fit each other: a walk over them needs a first
literal, and pairs every node with a literal behind it only if there is one more
literal than there are nodes.  Main statement: the lists of every fragment fit,
at any depth and after any pushes, the walk over a fragment is the one over its
two lists, and two lists are put together exactly if they fit.
-/

namespace SqlWeave

variable {Value : Type}

/-- Literals, and the nodes that are to stand between them. -/
structure Parts (Value : Type) where
  literals : List String
  nodes : List (Node Value)

/-- Write every node and the literal behind it. -/
def weavePairs (scope : Scope) : List (Node Value × String) → Weave Value Unit
  | [] => pure ()
  | (node, literal) :: rest => do
    node.weave scope
    Weave.text literal
    weavePairs scope rest

/-- Append text to the last of some literals, if there is one. -/
def appendToLast (sql : String) : List String → List String
  | [] => []
  | [last] => [last ++ sql]
  | literal :: next :: rest => literal :: appendToLast sql (next :: rest)

theorem length_appendToLast (sql : String) (literals : List String) :
    (appendToLast sql literals).length = literals.length := by
  induction literals with
  | nil => rfl
  | cons literal rest ih =>
      cases rest with
      | nil => rfl
      | cons next rest => exact congrArg (· + 1) ih

theorem appendToLast_concat (sql : String) (front : List String) (last : String) :
    appendToLast sql (front ++ [last]) = front ++ [last ++ sql] := by
  induction front with
  | nil => rfl
  | cons literal rest ih =>
      cases rest with
      | nil => rfl
      | cons next rest => exact congrArg (literal :: ·) ih

namespace Parts

/-- There is one more literal than there are nodes. -/
def Fit (parts : Parts Value) : Prop := parts.literals.length = parts.nodes.length + 1

/-- A push on two lists: text goes to the last literal, and a node takes an empty
literal with it. -/
def pushOne (parts : Parts Value) : Push Value → Parts Value
  | .text sql => { parts with literals := appendToLast sql parts.literals }
  | .node node => ⟨parts.literals ++ [""], parts.nodes ++ [node]⟩
  | .shape _ => parts

def pushAll (parts : Parts Value) (pushes : List (Push Value)) : Parts Value :=
  pushes.foldl pushOne parts

/-- The walk over two lists: the first literal, if there is one, and then the nodes
with the literals behind them, as far as both lists go. -/
def weave? (scope : Scope) (parts : Parts Value) : Option (Weave Value Unit) :=
  match parts.literals with
  | [] => none
  | first :: rest => some do
    Weave.text first
    weavePairs scope (parts.nodes.zip rest)

/-- Lists that fit still do so after a push. -/
theorem fit_pushOne {parts : Parts Value} (hfit : parts.Fit) (push : Push Value) :
    (parts.pushOne push).Fit := by
  rw [Fit] at hfit ⊢
  cases push with
  | text sql => rw [pushOne, length_appendToLast, hfit]
  | node node =>
      rw [pushOne, List.length_append, List.length_append, hfit]
      rfl
  | shape shape => exact hfit

/-- Lists that fit still do so after any pushes. -/
theorem fit_pushAll {parts : Parts Value} (hfit : parts.Fit) (pushes : List (Push Value)) :
    (parts.pushAll pushes).Fit := by
  induction pushes generalizing parts with
  | nil => exact hfit
  | cons push rest ih => exact ih (fit_pushOne hfit push)

/-- Lists that fit have a first literal, and pairing the nodes with the others
drops none of either. -/
theorem exists_pairs_of_fit {parts : Parts Value} (hfit : parts.Fit) :
    ∃ first rest, parts.literals = first :: rest ∧
      (parts.nodes.zip rest).map Prod.fst = parts.nodes ∧
      (parts.nodes.zip rest).map Prod.snd = rest := by
  obtain ⟨literals, nodes⟩ := parts
  cases literals with
  | nil => cases hfit
  | cons first rest =>
      have hlength : rest.length = nodes.length := Nat.succ.inj hfit
      exact ⟨first, rest, rfl, List.map_fst_zip (Nat.le_of_eq hlength.symm),
        List.map_snd_zip (Nat.le_of_eq hlength)⟩

end Parts

namespace Fragment

/-- The two lists of a fragment. -/
def parts (fragment : Fragment Value) : Parts Value := ⟨fragment.literals, fragment.nodes⟩

theorem fit_parts (fragment : Fragment Value) : fragment.parts.Fit := fragment.length_literals

/-- A push on a fragment is a push on its two lists. -/
theorem parts_pushOne (fragment : Fragment Value) (push : Push Value) :
    (fragment.pushOne push).parts = fragment.parts.pushOne push := by
  cases push with
  | text sql =>
      have hliterals : appendToLast sql fragment.literals = (fragment.push sql).literals :=
        appendToLast_concat sql _ fragment.last
      exact congrArg (Parts.mk · fragment.nodes) hliterals.symm
  | node node =>
      rw [Parts.pushOne, parts, pushOne, literals_pushNode, nodes_pushNode]
      rfl
  | shape shape => rfl

theorem parts_pushAll (fragment : Fragment Value) (pushes : List (Push Value)) :
    (fragment.pushAll pushes).parts = fragment.parts.pushAll pushes := by
  induction pushes generalizing fragment with
  | nil => rfl
  | cons push rest ih =>
      calc (fragment.pushAll (push :: rest)).parts
          = ((fragment.pushOne push).pushAll rest).parts := rfl
        _ = (fragment.pushOne push).parts.pushAll rest := ih (fragment.pushOne push)
        _ = (fragment.parts.pushOne push).pushAll rest := by rw [parts_pushOne]
        _ = fragment.parts.pushAll (push :: rest) := rfl

/-- The walk over segments is the one over their literals and nodes. -/
theorem exists_weavePairs_eq (scope : Scope) (segments : List (String × Node Value))
    (last : String) :
    ∃ first rest, segments.map Prod.fst ++ [last] = first :: rest ∧
      ((do Weave.text first; weavePairs scope ((segments.map Prod.snd).zip rest)) =
        (do weaveSegments scope segments; Weave.text last : Weave Value Unit)) := by
  induction segments with
  | nil => exact ⟨last, [], rfl, by simp [weavePairs, weaveSegments]⟩
  | cons segment segments ih =>
      obtain ⟨literal, node⟩ := segment
      obtain ⟨first, rest, hliterals, hwalk⟩ := ih
      refine ⟨literal, first :: rest, congrArg (literal :: ·) hliterals, ?_⟩
      rw [List.map_cons, List.zip_cons_cons, weavePairs, weaveSegments, hwalk]
      simp

/-- The walk over a fragment is the one over its two lists, under its alias. -/
theorem weave?_parts (fragment : Fragment Value) (scope : Scope) :
    fragment.parts.weave? (scope.enter fragment.parentAlias) = some (fragment.weave scope) := by
  obtain ⟨first, rest, hliterals, hwalk⟩ :=
    exists_weavePairs_eq (scope.enter fragment.parentAlias) fragment.segments fragment.last
  have hparts : fragment.parts = ⟨first :: rest, fragment.nodes⟩ := by
    rw [parts, literals, hliterals]
  rw [hparts, weave_eq, ← hwalk]
  rfl

/-- Literals and nodes are put together to the segments they are the lists of. -/
theorem alternate_eq_some_iff {literals : List String} {nodes : List (Node Value)}
    {segments : List (String × Node Value)} {last : String} :
    alternate literals nodes = some (segments, last) ↔
      segments.map Prod.fst ++ [last] = literals ∧ segments.map Prod.snd = nodes := by
  constructor
  · intro halternate
    fun_induction alternate literals nodes generalizing segments last with
    | case1 literal =>
        cases halternate
        exact ⟨rfl, rfl⟩
    | case2 literal literals node nodes ih =>
        obtain ⟨⟨others, ending⟩, hothers, hpair⟩ := Option.map_eq_some_iff.1 halternate
        cases hpair
        obtain ⟨hliterals, hnodes⟩ := ih hothers
        exact ⟨congrArg (literal :: ·) hliterals, congrArg (node :: ·) hnodes⟩
    | case3 => cases halternate
  · rintro ⟨rfl, rfl⟩
    induction segments with
    | nil => rfl
    | cons segment rest ih =>
        rw [List.map_cons, List.map_cons, List.cons_append, alternate, ih]
        rfl

/-- Two lists are put together to the fragment that they are the lists of, and
nothing else is set in it. -/
theorem ofParts_eq_ok_iff {literals : List String} {nodes : List (Node Value)}
    {fragment : Fragment Value} :
    ofParts literals nodes = .ok fragment ↔
      fragment.parts = ⟨literals, nodes⟩ ∧ fragment.shape = .all ∧
        fragment.parentAlias = none := by
  constructor
  · intro hparts
    rw [ofParts] at hparts
    split at hparts
    next segments last halternate =>
      cases hparts
      obtain ⟨hliterals, hnodes⟩ := alternate_eq_some_iff.1 halternate
      refine ⟨?_, rfl, rfl⟩
      rw [parts, Fragment.literals, Fragment.nodes, hliterals, hnodes]
    next => cases hparts
  · rintro ⟨hparts, hshape, halias⟩
    obtain ⟨segments, last, shape, parentAlias⟩ := fragment
    have halternate : alternate literals nodes = some (segments, last) :=
      alternate_eq_some_iff.2 ⟨congrArg Parts.literals hparts, congrArg Parts.nodes hparts⟩
    cases hshape
    cases halias
    rw [ofParts, halternate]

/-- Parts make a fragment exactly if their numbers fit. -/
theorem exists_ofParts_iff (literals : List String) (nodes : List (Node Value)) :
    (∃ fragment, ofParts literals nodes = .ok fragment) ↔ Parts.Fit ⟨literals, nodes⟩ := by
  constructor
  · rintro ⟨fragment, hfragment⟩
    rw [← (ofParts_eq_ok_iff.1 hfragment).1]
    exact fragment.fit_parts
  · intro hfit
    have hne : literals ≠ [] := by
      rintro rfl
      cases hfit
    obtain ⟨front, last, rfl⟩ : ∃ front last, literals = front ++ [last] :=
      ⟨literals.dropLast, literals.getLast hne, (List.dropLast_concat_getLast hne).symm⟩
    have hlength : front.length = nodes.length := by simpa [Parts.Fit] using hfit
    refine ⟨⟨front.zip nodes, last, .all, none⟩, ofParts_eq_ok_iff.2 ⟨?_, rfl, rfl⟩⟩
    rw [parts, Fragment.literals, Fragment.nodes, List.map_fst_zip (Nat.le_of_eq hlength),
      List.map_snd_zip (Nat.le_of_eq hlength.symm)]

/-- Two lists that do not fit are refused, with their lengths. -/
theorem ofParts_eq_error_of_not_fit {literals : List String} {nodes : List (Node Value)}
    (hfit : ¬ Parts.Fit ⟨literals, nodes⟩) :
    ofParts literals nodes = .error (.unevenParts literals.length nodes.length) := by
  rw [← exists_ofParts_iff] at hfit
  rw [ofParts] at hfit ⊢
  split
  next halternate =>
    rw [halternate] at hfit
    exact absurd ⟨_, rfl⟩ hfit
  next => rfl

/-- What the walk over a fragment relies on: its two lists fit, so there is a first
literal and every node has one literal behind it; the walk is the one over the two
lists; and they can be put together again. -/
structure Paired (fragment : Fragment Value) : Prop where
  fit : fragment.parts.Fit
  pairs : ∃ first rest, fragment.literals = first :: rest ∧
    (fragment.nodes.zip rest).map Prod.fst = fragment.nodes ∧
    (fragment.nodes.zip rest).map Prod.snd = rest
  walk : ∀ scope : Scope,
    fragment.parts.weave? (scope.enter fragment.parentAlias) = some (fragment.weave scope)
  rebuilt : ∃ rebuilt, ofParts fragment.literals fragment.nodes = .ok rebuilt ∧
    (fragment.parentAlias = none → ∀ scope, rebuilt.weave scope = fragment.weave scope)

theorem paired (fragment : Fragment Value) : fragment.Paired where
  fit := fragment.fit_parts
  pairs := Parts.exists_pairs_of_fit fragment.fit_parts
  walk := fragment.weave?_parts
  rebuilt := by
    refine ⟨{ fragment with shape := .all, parentAlias := none },
      ofParts_eq_ok_iff.2 ⟨rfl, rfl, rfl⟩, fun halias scope => ?_⟩
    rw [weave_eq, weave_eq, halias]

end Fragment

namespace Query

theorem parentAlias_insert (table : String) (rows : Rows Value) :
    (insert table rows).parentAlias = none := by
  rw [insert]
  split
  next => rfl
  next => exact parentAlias_insertInto table _

theorem parentAlias_upsert (table : String) (rows : Rows Value)
    (uniqueColumns noNull : List String) :
    (upsert table rows uniqueColumns noNull).parentAlias = none := by
  rw [upsert]
  split
  next => rfl
  next => exact parentAlias_insertInto table _

theorem parentAlias_update (table : String) (values : Record Value)
    (condition : Condition Value) : (update table values condition).parentAlias = none := by
  rw [update]
  split <;> rfl

theorem parentAlias_truncate (tables : List String) (options : TruncateOptions) :
    (truncate tables options : Fragment Value).parentAlias = none := by
  have hkeyword : ∀ (statement : Fragment Value) (keyword : Option String),
      (pushKeyword statement keyword).parentAlias = statement.parentAlias := by
    intro statement keyword
    cases keyword <;> rfl
  rw [truncate, hkeyword, hkeyword]
  rfl

/-- A ready-made statement has no alias of its own. -/
theorem Call.parentAlias_statement (call : Call Value) : call.statement.parentAlias = none := by
  cases call with
  | insert table rows => exact parentAlias_insert table rows
  | upsert table rows uniqueColumns noNull =>
      exact parentAlias_upsert table rows uniqueColumns noNull
  | update table values condition => exact parentAlias_update table values condition
  | delete table condition => rfl
  | truncate tables options => exact parentAlias_truncate tables options
  | selectMode table filter options mode => exact parentAlias_selectMode table filter options mode
  | select table filter options => exact parentAlias_selectMode table filter options .many
  | selectOne table filter options => exact parentAlias_selectMode table filter options .one
  | count table filter options => exact parentAlias_selectMode table filter options.toSelect .count

end Query

/-- Two lists fit a fragment if there is one more literal than there are nodes.
Pushes keep that of any two lists, and a push on a fragment is one on its lists;
text alone has lists that fit, and pushes build every fragment from there; two
lists are put together exactly if they fit, and refused as malformed otherwise.
So in every tree, those of the ready-made statements included, the walk over each
fragment has a first literal and drops neither a node nor a literal, and each
fragment can be put together again from its lists. -/
theorem parts_of_every_fragment_fit :
    (∀ (parts : Parts Value) (pushes : List (Push Value)),
      parts.Fit → (parts.pushAll pushes).Fit) ∧
    (∀ (fragment : Fragment Value) (pushes : List (Push Value)),
      (fragment.pushAll pushes).parts = fragment.parts.pushAll pushes) ∧
    (∀ sql : String, (Fragment.ofText sql : Fragment Value).parts = ⟨[sql], []⟩) ∧
    (Fragment.empty : Fragment Value).parts = ⟨[""], []⟩ ∧
    (default : Fragment Value).parts = ⟨[""], []⟩ ∧
    (∀ fragment : Fragment Value, fragment.parentAlias = none →
      ∃ pushes, fragment = Fragment.empty.pushAll pushes) ∧
    (∀ (literals : List String) (nodes : List (Node Value)) (fragment : Fragment Value),
      Fragment.ofParts literals nodes = .ok fragment → fragment.parts = ⟨literals, nodes⟩) ∧
    (∀ (literals : List String) (nodes : List (Node Value)),
      (∃ fragment, Fragment.ofParts literals nodes = .ok fragment) ↔
        literals.length = nodes.length + 1) ∧
    (∀ (literals : List String) (nodes : List (Node Value)),
      literals.length ≠ nodes.length + 1 →
        ∃ fault, Fragment.ofParts literals nodes = .error fault ∧
          Error.ofTreeFault fault =
            .compile ("fragment needs one more literal than nodes, got " ++
              toString literals.length ++ " literals and " ++ toString nodes.length ++
                " nodes")) ∧
    (∀ fragment : Fragment Value, ∀ inner ∈ fragment.fragments, inner.Paired) ∧
    (∀ call : Query.Call Value,
      (∃ pushes, call.statement = Fragment.empty.pushAll pushes ∧
        call.statement.parts = Parts.pushAll ⟨[""], []⟩ pushes) ∧
      ∀ inner ∈ call.statement.fragments, inner.Paired) := by
  have hbuilt : ∀ fragment : Fragment Value, fragment.parentAlias = none →
      ∃ pushes, fragment = Fragment.empty.pushAll pushes :=
    fun fragment halias => ⟨fragment.pushes, (fragment.pushAll_pushes halias).symm⟩
  refine ⟨fun parts pushes hfit => Parts.fit_pushAll hfit pushes, Fragment.parts_pushAll,
    fun sql => rfl, rfl, rfl, hbuilt, ?_, Fragment.exists_ofParts_iff, ?_, ?_, ?_⟩
  · intro literals nodes fragment hparts
    exact (Fragment.ofParts_eq_ok_iff.1 hparts).1
  · intro literals nodes hlength
    exact ⟨_, Fragment.ofParts_eq_error_of_not_fit hlength, rfl⟩
  · intro fragment inner _
    exact inner.paired
  · intro call
    obtain ⟨pushes, hpushes⟩ := hbuilt call.statement call.parentAlias_statement
    refine ⟨⟨pushes, hpushes, ?_⟩, fun inner _ => inner.paired⟩
    rw [hpushes, Fragment.parts_pushAll]
    rfl

/-- A condition that is put together from two lists, and goes on with two pushes. -/
theorem parts_of_condition_fit :
    let parts : Parts Nat := ⟨["a = ", ""], [.param 7]⟩
    let pushed : Parts Nat := ⟨["a = ", " AND b = ", ""], [.param 7, .param 8]⟩
    parts.Fit ∧ parts.pushAll [.text " AND b = ", .node (.param 8)] = pushed ∧ pushed.Fit ∧
    ∃ fragment, Fragment.ofParts parts.literals parts.nodes = .ok fragment ∧
      fragment.parts = parts ∧ fragment.Paired := by
  intro parts pushed
  obtain ⟨hpushes, -, -, -, -, -, hlists, hparts, -, hpaired, -⟩ := @parts_of_every_fragment_fit Nat
  have hfit : parts.Fit := rfl
  have hpushed : parts.pushAll [.text " AND b = ", .node (.param 8)] = pushed := rfl
  obtain ⟨fragment, hfragment⟩ := (hparts parts.literals parts.nodes).2 hfit
  refine ⟨hfit, hpushed, ?_, fragment, hfragment, hlists _ _ fragment hfragment,
    hpaired fragment fragment fragment.mem_fragments_self⟩
  rw [← hpushed]
  exact hpushes parts _ hfit

end SqlWeave
