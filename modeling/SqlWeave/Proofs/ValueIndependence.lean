import SqlWeave.Connection.Execution
import SqlWeave.Proofs.MappedPieces
import SqlWeave.Proofs.ValuePairs

/-!
# Independence of bound values

Two trees that differ in their values only are the two halves of a tree of
pairs, and each of them is compiled as that tree is, with one half of every
pair.  So nothing of a value gets into the text, into the error, or into what
is noted before a statement is sent: values are seen in the list of parameters
alone, the two of one place at one position.
-/

namespace SqlWeave

variable {Left Right : Type}

/-- What it means that two walks differ in the values they bind only: they end
alike, they write the same text, and they bind the halves of the same pairs. -/
structure Weave.DifferInValues (left : Weave Left Unit) (right : Weave Right Unit)
    (pairs : List (Left × Right)) : Prop where
  fault : ∀ before other, fault? left before = fault? right other
  text : ∀ before other, before.text = other.text → before.params.size = other.params.size →
    (reached left before).text = (reached right other).text
  left : ∀ before, fault? left before = none →
    (reached left before).params.toList = before.params.toList ++ pairs.map Prod.fst
  right : ∀ before, fault? right before = none →
    (reached right before).params.toList = before.params.toList ++ pairs.map Prod.snd

/-- Writing one half of every pair is a walk that differs from writing the other in values only. -/
theorem Piece.differInValues_writeAll (pieces : List (Piece (Left × Right))) :
    Weave.DifferInValues (writeAll (pieces.map (map Prod.fst)))
      (writeAll (pieces.map (map Prod.snd))) (values pieces) where
  fault before other := by rw [fault?_writeAll, fault?_writeAll, firstFault?_map, firstFault?_map]
  text before other htext hsize := by
    rw [reached_writeAll, reached_writeAll, Compiled.extend, Compiled.extend, written_map,
      written_map, render_map, render_map, htext, hsize]
  left before hfault := by
    rw [fault?_writeAll] at hfault
    rw [reached_writeAll, written_eq_self hfault, Compiled.extend, values_map]
    simp
  right before hfault := by
    rw [fault?_writeAll] at hfault
    rw [reached_writeAll, written_eq_self hfault, Compiled.extend, values_map]
    simp

/-- What it means that two nodes are compiled alike, in every scope and behind
every statement, with the values of a node of pairs. -/
def Node.DifferInValues (left : Node Left) (right : Node Right)
    (both : Node (Left × Right)) : Prop :=
  ∀ scope, Weave.DifferInValues (left.weave scope) (right.weave scope)
    ((both.sites scope).filterMap Site.value?)

/-- What it means that two fragments are compiled and sent alike: either both
are refused for one reason, or both are noted with one event and sent as one
text, each with its half of the pairs. -/
structure Fragment.DifferInValues (left : Fragment Left) (right : Fragment Right)
    (both : Fragment (Left × Right)) : Prop where
  compiled : ∀ scope, Weave.DifferInValues (left.weave scope) (right.weave scope)
    ((both.sites scope).filterMap Site.value?)
  sent : ∀ method,
    (∃ fault, left.send method = .done (.error (.ofTreeFault fault)) ∧
      right.send method = .done (.error (.ofTreeFault fault))) ∨
    ∃ sql, let pairs := (both.sites Scope.root).filterMap Site.value?
      (left.send method = (Connection.note ⟨method, sql, pairs.length⟩).bind fun _ =>
        Connection.send ⟨method, sql, (pairs.map Prod.fst).toArray⟩) ∧
      (right.send method = (Connection.note ⟨method, sql, pairs.length⟩).bind fun _ =>
        Connection.send ⟨method, sql, (pairs.map Prod.snd).toArray⟩)

theorem Node.differInValues_map (both : Node (Left × Right)) :
    (both.map Prod.fst).DifferInValues (both.map Prod.snd) both := by
  intro scope
  have hpieces := Piece.differInValues_writeAll (both.pieces scope)
  rwa [← Node.pieces_map, ← Node.pieces_map, ← Node.weave_eq_writeAll, ← Node.weave_eq_writeAll,
    Piece.values_eq_filterMap_sites, Node.sites_pieces] at hpieces

theorem Fragment.compile_eq (fragment : Fragment Left) :
    fragment.compile =
      match Piece.firstFault? (fragment.pieces Scope.root) with
      | none => .ok (Compiled.extend {} (fragment.pieces Scope.root))
      | some fault => .error fault := by
  rw [compile, weave_eq_writeAll, Piece.run_writeAll]
  cases hfault : Piece.firstFault? (fragment.pieces Scope.root) with
  | none => rw [Piece.written_eq_self hfault]
  | some fault => rfl

theorem Fragment.differInValues_map (both : Fragment (Left × Right)) :
    (both.map Prod.fst).DifferInValues (both.map Prod.snd) both where
  compiled scope := by
    have hpieces := Piece.differInValues_writeAll (both.pieces scope)
    rwa [← Fragment.pieces_map, ← Fragment.pieces_map, ← Fragment.weave_eq_writeAll,
      ← Fragment.weave_eq_writeAll, Piece.values_eq_filterMap_sites, Fragment.sites_pieces]
      at hpieces
  sent method := by
    have hvalues : (both.sites Scope.root).filterMap Site.value? =
        Piece.values (both.pieces Scope.root) := by
      rw [Piece.values_eq_filterMap_sites, Fragment.sites_pieces]
    simp only [send, compile_eq, pieces_map, Piece.firstFault?_map]
    cases Piece.firstFault? (both.pieces Scope.root) with
    | some fault => exact .inl ⟨fault, rfl, rfl⟩
    | none =>
        refine .inr ⟨(Compiled.extend {} (both.pieces Scope.root)).text, ?_, ?_⟩
        · simp [Compiled.extend, hvalues]
        · simp [Compiled.extend, hvalues]

/-- Bound values do not show in what is compiled from them.  Nodes, fragments
and calls that differ in their values only are the halves of one with pairs of
values.  They are compiled alike in every scope, to one text or one error, and
what is noted and sent for them is the same up to the parameters; the two
values in one place of the tree are the parameters in one position.  The
statements of the calls differ in their values only too, so a call may be an
argument of another. -/
theorem compile_does_not_show_values :
    (∀ (left : Node Left) (right : Node Right), left.map forget = right.map forget →
      ∃ both : Node (Left × Right), both.map Prod.fst = left ∧ both.map Prod.snd = right ∧
        left.DifferInValues right both) ∧
    (∀ (left : Fragment Left) (right : Fragment Right), left.map forget = right.map forget →
      ∃ both : Fragment (Left × Right), both.map Prod.fst = left ∧ both.map Prod.snd = right ∧
        left.DifferInValues right both) ∧
    (∀ (left : Query.Call Left) (right : Query.Call Right),
      left.map forget = right.map forget →
      ∃ both : Query.Call (Left × Right), both.map Prod.fst = left ∧ both.map Prod.snd = right ∧
        left.statement.map forget = right.statement.map forget ∧
        left.statement.DifferInValues right.statement both.statement) := by
  refine ⟨?_, ?_, ?_⟩
  · intro left right halike
    obtain ⟨both, rfl, rfl⟩ := left.exists_pair right halike
    exact ⟨both, rfl, rfl, both.differInValues_map⟩
  · intro left right halike
    obtain ⟨both, rfl, rfl⟩ := left.exists_pair right halike
    exact ⟨both, rfl, rfl, both.differInValues_map⟩
  · intro left right halike
    obtain ⟨both, rfl, rfl⟩ := left.exists_pair right halike
    refine ⟨both, rfl, rfl, ?_, ?_⟩
    · rw [Query.Call.map_statement, halike, ← Query.Call.map_statement]
    · rw [← Query.Call.map_statement, ← Query.Call.map_statement]
      exact both.statement.differInValues_map

/-- Two users that are looked up by different keys, each with the posts of one day. -/
theorem compile_does_not_show_keys_of_users :
    let posts (day : Nat) := (Query.Call.selectMode "posts"
      (.only (.matching (KeyMap.ofList [("author", .parentColumn "id"), ("day", .value day)])))
      {} .many).statement
    let user (key day : Nat) := Query.Call.select "users"
      (.only (.matching (KeyMap.ofList [("id", .value key)])))
      { laterals := KeyMap.ofList [("posts", posts day)] }
    (posts 1).map forget = (posts 2).map forget ∧
    (user 7 1).map forget = (user 8 2).map forget ∧
    (Node.param 7).map forget = (Node.param 8).map forget ∧
    (∃ both : Node (Nat × Nat), (Node.param 7).DifferInValues (Node.param 8) both) ∧
    (∃ both : Fragment (Nat × Nat), (posts 1).DifferInValues (posts 2) both) ∧
    ∃ both : Query.Call (Nat × Nat), both.map Prod.fst = user 7 1 ∧ both.map Prod.snd = user 8 2 ∧
      (user 7 1).statement.DifferInValues (user 8 2).statement both.statement := by
  intro posts user
  obtain ⟨hnodes, hfragments, hcalls⟩ := @compile_does_not_show_values Nat Nat
  have hposts : (posts 1).map forget = (posts 2).map forget := by rfl
  have husers : (user 7 1).map forget = (user 8 2).map forget := by rfl
  have hparams : (Node.param 7).map forget = (Node.param 8).map forget := by rfl
  refine ⟨hposts, husers, hparams, ?_, ?_, ?_⟩
  · obtain ⟨both, -, -, hboth⟩ := hnodes (.param 7) (.param 8) hparams
    exact ⟨both, hboth⟩
  · obtain ⟨both, -, -, hboth⟩ := hfragments (posts 1) (posts 2) hposts
    exact ⟨both, hboth⟩
  · obtain ⟨both, hleft, hright, -, hboth⟩ := hcalls (user 7 1) (user 8 2) husers
    exact ⟨both, hleft, hright, hboth⟩

end SqlWeave
