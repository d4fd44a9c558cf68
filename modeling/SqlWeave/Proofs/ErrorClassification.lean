import Mathlib.Tactic.SplitIfs
import SqlWeave.Error

/-!
# Classification of driver errors

A driver error is either wrapped as it is or turned into an error of its own
kind.  Which of the two happens is decided by the SQLSTATE, the SQLSTATE can be
read off the result in both cases, and whether a transaction is tried again
depends on nothing else.  Hence a conflict is neither lost nor invented on the
way from the driver to the decision.
-/

namespace SqlWeave

namespace DriverError

/-- The SQLSTATE is that of the server error, and nothing else has one. -/
theorem sqlstate?_eq_some_iff {driver : DriverError} {code : String} :
    driver.sqlstate? = some code ↔ ∃ condition, driver = .server condition ∧
      condition.code = code := by
  cases driver with
  | server condition => simp [sqlstate?]
  | closed => simp [sqlstate?]
  | unencodable => simp [sqlstate?]
  | other message causes => simp [sqlstate?]

end DriverError

namespace Error

/-- The SQLSTATEs of the conditions that are kinds of errors of their own. -/
def classifiedCodes : List String :=
  [uniqueViolationCode, foreignKeyViolationCode, checkViolationCode, serializationFailureCode,
    deadlockCode]

/-- A transaction is tried again exactly on the two SQLSTATEs of conflicts. -/
theorem isRetryable_iff_sqlstate? (error : Error) :
    error.isRetryable = true ↔
      error.sqlstate? = some serializationFailureCode ∨ error.sqlstate? = some deadlockCode := by
  cases error with
  | query driver => simp [isRetryable, sqlstate?]
  | serializationFailure message | deadlockDetected message => simp [isRetryable, sqlstate?]
  | uniqueViolation message =>
      simp [isRetryable, sqlstate?, uniqueViolationCode, serializationFailureCode, deadlockCode]
  | foreignKeyViolation message =>
      simp [isRetryable, sqlstate?, foreignKeyViolationCode, serializationFailureCode,
        deadlockCode]
  | checkViolation message =>
      simp [isRetryable, sqlstate?, checkViolationCode, serializationFailureCode, deadlockCode]
  | context message | compile message | connection message | retriesExhausted attempts source
  | decode column message | serialization fault | pool message | other message =>
      simp [isRetryable, sqlstate?]

/-- What a server error is turned into: an error of the kind of its code, or itself. -/
theorem ofDriver_server_cases (condition : ServerError) :
    (condition.code = uniqueViolationCode ∧
      ofDriver (.server condition) = .uniqueViolation (violation condition)) ∨
    (condition.code = foreignKeyViolationCode ∧
      ofDriver (.server condition) = .foreignKeyViolation (violation condition)) ∨
    (condition.code = checkViolationCode ∧
      ofDriver (.server condition) = .checkViolation (violation condition)) ∨
    (condition.code = serializationFailureCode ∧
      ofDriver (.server condition) = .serializationFailure condition.message) ∨
    (condition.code = deadlockCode ∧
      ofDriver (.server condition) = .deadlockDetected condition.message) ∨
    (condition.code ∉ classifiedCodes ∧
      ofDriver (.server condition) = .query (.server condition)) := by
  rw [ofDriver]
  split_ifs with hunique hforeign hcheck hserialization hdeadlock
  · exact .inl ⟨hunique, rfl⟩
  · exact .inr (.inl ⟨hforeign, rfl⟩)
  · exact .inr (.inr (.inl ⟨hcheck, rfl⟩))
  · exact .inr (.inr (.inr (.inl ⟨hserialization, rfl⟩)))
  · exact .inr (.inr (.inr (.inr (.inl ⟨hdeadlock, rfl⟩))))
  · refine .inr (.inr (.inr (.inr (.inr ⟨?_, rfl⟩))))
    simp [classifiedCodes, hunique, hforeign, hcheck, hserialization, hdeadlock]

/-- Classifying a driver error keeps its SQLSTATE. -/
theorem sqlstate?_ofDriver (driver : DriverError) :
    (ofDriver driver).sqlstate? = driver.sqlstate? := by
  cases driver with
  | closed | unencodable | other message causes => rfl
  | server condition =>
      rw [DriverError.sqlstate?]
      obtain ⟨hcode, hkind⟩ | ⟨hcode, hkind⟩ | ⟨hcode, hkind⟩ | ⟨hcode, hkind⟩ |
        ⟨hcode, hkind⟩ | ⟨-, hkind⟩ := ofDriver_server_cases condition
      iterate 5
        · rw [hkind, hcode, sqlstate?]
      · rw [hkind, sqlstate?, DriverError.sqlstate?]

/-- A server error is handed on as it is exactly if its code is not classified. -/
theorem ofDriver_server_eq_query_iff (condition : ServerError) :
    ofDriver (.server condition) = .query (.server condition) ↔
      condition.code ∉ classifiedCodes := by
  obtain ⟨hcode, hkind⟩ | ⟨hcode, hkind⟩ | ⟨hcode, hkind⟩ | ⟨hcode, hkind⟩ |
    ⟨hcode, hkind⟩ | ⟨hcode, hkind⟩ := ofDriver_server_cases condition
  iterate 5
    · simp [hkind, hcode, classifiedCodes]
  · simp [hkind, hcode]

/-- Only the server conditions that are classified leave the fallback. -/
theorem ofDriver_eq_query_iff (driver : DriverError) :
    ofDriver driver = .query driver ↔
      ∀ condition, driver = .server condition → condition.code ∉ classifiedCodes := by
  cases driver with
  | closed | unencodable | other message causes =>
      refine ⟨fun _ condition hserver => ?_, fun _ => rfl⟩
      cases hserver
  | server condition =>
      rw [ofDriver_server_eq_query_iff]
      constructor
      · intro hcode other hserver
        cases hserver
        exact hcode
      · intro hcode
        exact hcode condition rfl

/-- Classifying a driver error does not change whether it is a conflict. -/
theorem isRetryable_ofDriver (driver : DriverError) :
    (ofDriver driver).isRetryable = (query driver).isRetryable := by
  apply Bool.eq_iff_iff.2
  calc (ofDriver driver).isRetryable = true
      ↔ (ofDriver driver).sqlstate? = some serializationFailureCode ∨
          (ofDriver driver).sqlstate? = some deadlockCode := isRetryable_iff_sqlstate? _
    _ ↔ (query driver).sqlstate? = some serializationFailureCode ∨
          (query driver).sqlstate? = some deadlockCode := by rw [sqlstate?_ofDriver, sqlstate?]
    _ ↔ (query driver).isRetryable = true := (isRetryable_iff_sqlstate? _).symm

/-- An error is retryable exactly if its SQLSTATE is that of a serialization
failure or of a deadlock, and an error that a transaction gave up with never
is.  A driver error reports the code of the server error it carries and no code
otherwise, however it is wrapped; it is handed on as it is exactly if that code
is none of the five that are classified, and the decision to try again does not
depend on the wrapping. -/
theorem classification_keeps_conflicts (error : Error) (driver : DriverError) :
    (error.isRetryable = true ↔
      error.sqlstate? = some "40001" ∨ error.sqlstate? = some "40P01") ∧
    (∀ attempts source, error = .retriesExhausted attempts source →
      error.isRetryable = false) ∧
    (∀ condition, driver = .server condition →
      (ofDriver driver).sqlstate? = some condition.code) ∧
    ((∀ condition, driver ≠ .server condition) → (ofDriver driver).sqlstate? = none) ∧
    (ofDriver driver = .query driver ↔ ∀ condition, driver = .server condition →
      condition.code ∉ ["23505", "23503", "23514", "40001", "40P01"]) ∧
    (ofDriver driver).isRetryable = (query driver).isRetryable ∧
    (ofDriver driver).sqlstate? = (query driver).sqlstate? := by
  refine ⟨isRetryable_iff_sqlstate? error, ?_, ?_, ?_, ofDriver_eq_query_iff driver,
    isRetryable_ofDriver driver, sqlstate?_ofDriver driver⟩
  · rintro attempts source rfl
    rfl
  · rintro condition rfl
    exact sqlstate?_ofDriver _
  · intro hserver
    rw [sqlstate?_ofDriver]
    apply Option.eq_none_iff_forall_ne_some.2
    intro code hcode
    obtain ⟨condition, hdriver, -⟩ := DriverError.sqlstate?_eq_some_iff.1 hcode
    exact hserver condition hdriver

/-- A deadlock that is wrapped as the server reports it is a conflict, and so is the one it is
classified as; once a transaction gave up with it, it is none. -/
theorem classification_keeps_conflicts_of_deadlock :
    let deadlock : ServerError := ⟨"ERROR", "40P01", "deadlock detected", none, none, none⟩
    (query (.server deadlock)).isRetryable = true ∧
    (ofDriver (.server deadlock)).isRetryable = true ∧
    (ofDriver (.server deadlock)).sqlstate? = some "40P01" ∧
    (retriesExhausted 3 (.query (.server deadlock))).isRetryable = false ∧
    (ofDriver .closed).sqlstate? = none := by
  intro deadlock
  obtain ⟨-, -, hcode, -, -, hdecision, -⟩ :=
    classification_keeps_conflicts (.query (.server deadlock)) (.server deadlock)
  obtain ⟨-, hexhausted, -, hnone, -⟩ :=
    classification_keeps_conflicts (.retriesExhausted 3 (.query (.server deadlock))) .closed
  have hwrapped : (query (.server deadlock)).isRetryable = true := by decide
  refine ⟨hwrapped, hdecision.trans hwrapped, hcode deadlock rfl, hexhausted 3 _ rfl, hnone ?_⟩
  intro condition hserver
  cases hserver

end Error

end SqlWeave
