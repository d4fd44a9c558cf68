import SqlWeave.Proofs.Transaction.Acts
import SqlWeave.Rehearsal.Script

/-!
# The statement protocol of transactions

Which statements a transaction puts on its connection, whatever the server
replies and whatever the callback does: one block for every attempt, one wait
between each two blocks, and a commit that succeeds at most once, at the very
end of a run that returns a result.
-/

namespace SqlWeave.Transaction

open Connection (Reply)

variable {Value State Result : Type}

namespace Block

theorem failure?_eq_none_of_commit? {block : Block Value Result} {reply : Reply}
    (hcommit : block.commit? = some (.ok reply)) : block.failure? = none := by
  cases block with
  | notStarted _ _ | abandoned _ _ _ _ | notCommitted _ _ _ _ _ => cases hcommit
  | committed _ _ _ _ => rfl

/-- A commit that succeeds is the last statement of its block. -/
theorem exists_acts_of_commit? {block : Block Value Result} {reply : Reply}
    (handle : Handle) (isolation : Isolation) (hcommit : block.commit? = some (.ok reply)) :
    ∃ front, block.acts handle isolation =
      front ++ [.sent handle (control commitSql) (.ok reply)] := by
  cases block with
  | notStarted _ _ | abandoned _ _ _ _ | notCommitted _ _ _ _ _ => cases hcommit
  | committed start body result commit =>
      cases hcommit
      refine ⟨.sent handle (control (startSql isolation)) (.ok start) ::
        Transaction.acts (body.map (onConnection handle)), ?_⟩
      simp [acts, trace]

/-- A block has a result exactly if its commit succeeded. -/
theorem exists_result?_iff_commit? {block : Block Value Result} :
    (∃ result, block.result? = some result) ↔ ∃ reply, block.commit? = some (.ok reply) := by
  cases block <;> simp [result?, commit?]

theorem failure?_eq_none_of_result? {block : Block Value Result} {result : Result}
    (hresult : block.result? = some result) : block.failure? = none := by
  cases block with
  | notStarted _ _ | abandoned _ _ _ _ | notCommitted _ _ _ _ _ => cases hresult
  | committed _ _ _ _ => rfl

end Block

/-- The last block has a result exactly if the transaction returns it. -/
theorem Setting.Ends.committed_iff {setting : Setting Value State Result} {left number : Nat}
    {block : Block Value Result} {closing : Trace Value} {outcome : Outcome Result}
    (hends : setting.Ends left number block closing outcome) (result : Result) :
    outcome = .committed result ↔ block.result? = some result := by
  cases hends with
  | committed hresult => simp [hresult]
  | rollbackFailed hfailure _ | refused hfailure _ _ | gaveUp hfailure _ _ _
  | noDelay hfailure _ _ _ _ =>
      constructor
      · intro heq
        cases heq
      · intro hresult
        rw [Block.failure?_eq_none_of_result? hresult] at hfailure
        cases hfailure

/-- A callback that counts its invocations. -/
def counting : Callback Nat Nat Unit := fun invocations => .done (.ok (), invocations + 1)

/-- A server where the first commit runs into a conflict. -/
def conflictAtCommit : Rehearsal.Stage where
  replies := [.silent, .failure (.serializationFailure "commit")]

end SqlWeave.Transaction
