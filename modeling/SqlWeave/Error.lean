import SqlWeave.Json.Fault
import SqlWeave.Sql.Fault

/-!
# Errors

Everything that can go wrong with a statement, from its tree to the server.
Conditions that callers react to have constructors of their own, and a server
error is classified by its SQLSTATE.  A conflict between transactions can be
resolved by running the whole transaction again; nothing else can.
-/

namespace SqlWeave

/-- What a server says about a failed statement. -/
structure ServerError where
  severity : String
  /-- The SQLSTATE. -/
  code : String
  message : String
  constraint : Option String := none
  detail : Option String := none
  hint : Option String := none
  deriving DecidableEq, Repr

def ServerError.text (error : ServerError) : String :=
  let line (label : String) : Option String → String
    | some content => "\n" ++ label ++ ": " ++ content
    | none => ""
  error.severity ++ ": " ++ error.message ++ line "DETAIL" error.detail ++ line "HINT" error.hint

/-- Why the driver could not complete a statement. -/
inductive DriverError where
  /-- The server refused it. -/
  | server (error : ServerError)
  /-- The connection is gone. -/
  | closed
  /-- The statement cannot be put into a message to the server. -/
  | unencodable
  /-- It failed otherwise, with the text of the error and those of its causes. -/
  | other (message : String) (causes : List String)
  deriving DecidableEq, Repr

namespace DriverError

/-- The text of a driver error, which leaves the server's words to its cause. -/
def message : DriverError → String
  | .server _ => "db error"
  | .closed => "connection closed"
  | .unencodable => "error encoding message to server"
  | .other message _ => message

/-- The texts of the causes behind a driver error. -/
def causes : DriverError → List String
  | .server error => [error.text]
  | .closed | .unencodable => []
  | .other _ causes => causes

def sqlstate? : DriverError → Option String
  | .server error => some error.code
  | .closed | .unencodable | .other _ _ => none

end DriverError

-- the SQLSTATEs of the conditions that have an error of their own

def uniqueViolationCode : String := "23505"

def foreignKeyViolationCode : String := "23503"

def checkViolationCode : String := "23514"

def serializationFailureCode : String := "40001"

def deadlockCode : String := "40P01"

/-- Why compiling or running a statement or a transaction failed. -/
inductive Error where
  /-- A column reference that its surroundings do not resolve. -/
  | context (message : String)
  /-- A malformed tree. -/
  | compile (message : String)
  | connection (message : String)
  /-- A driver error of no other kind. -/
  | query (error : DriverError)
  | uniqueViolation (message : String)
  | foreignKeyViolation (message : String)
  | checkViolation (message : String)
  | serializationFailure (message : String)
  | deadlockDetected (message : String)
  /-- A transaction kept conflicting until no attempt was left. -/
  | retriesExhausted (attempts : Nat) (source : Error)
  /-- A row whose result cannot be read. -/
  | decode (column message : String)
  /-- A JSON result that is no value of the requested type. -/
  | serialization (fault : Json.Fault)
  | pool (message : String)
  | other (message : String)
  deriving Inhabited

namespace Error

def ofTreeFault (fault : TreeFault) : Error :=
  if fault.isUnresolvedReference then .context fault.message else .compile fault.message

/-- The violated constraint and the server's message. -/
def violation (error : ServerError) : String :=
  error.constraint.getD "unknown" ++ ": " ++ error.message

/-- The error of a driver error, classified by its SQLSTATE. -/
def ofDriver (error : DriverError) : Error :=
  match error with
  | .closed | .unencodable | .other _ _ => .query error
  | .server condition =>
    if condition.code = uniqueViolationCode then .uniqueViolation (violation condition)
    else if condition.code = foreignKeyViolationCode then
      .foreignKeyViolation (violation condition)
    else if condition.code = checkViolationCode then .checkViolation (violation condition)
    else if condition.code = serializationFailureCode then
      .serializationFailure condition.message
    else if condition.code = deadlockCode then .deadlockDetected condition.message
    else .query error

def message : Error → String
  | .context text => "Context error: " ++ text
  | .compile text => "Compile error: " ++ text
  | .connection text => "Connection error: " ++ text
  | .query error => "Query error: " ++ error.message
  | .uniqueViolation text => "Unique constraint violation: " ++ text
  | .foreignKeyViolation text => "Foreign key violation: " ++ text
  | .checkViolation text => "Check constraint violation: " ++ text
  | .serializationFailure text => "Serialization failure: " ++ text
  | .deadlockDetected text => "Deadlock detected: " ++ text
  | .retriesExhausted attempts source =>
    "Transaction gave up after " ++ toString attempts ++ " attempts: " ++ source.message
  | .decode column text => "Decode error on column '" ++ column ++ "': " ++ text
  | .serialization fault => "Serialization error: " ++ fault.message
  | .pool text => "Pool error: " ++ text
  | .other text => text

/-- The texts of the chain of causes, outermost first, without the error itself. -/
def causes : Error → List String
  | .query error => error.message :: error.causes
  | .retriesExhausted _ source => source.message :: source.causes
  | _ => []

/-- The SQLSTATE of a classified or wrapped server condition. -/
def sqlstate? : Error → Option String
  | .uniqueViolation _ => some uniqueViolationCode
  | .foreignKeyViolation _ => some foreignKeyViolationCode
  | .checkViolation _ => some checkViolationCode
  | .serializationFailure _ => some serializationFailureCode
  | .deadlockDetected _ => some deadlockCode
  | .query error => error.sqlstate?
  | _ => none

/-- Whether running the whole transaction again may resolve the error. -/
def isRetryable : Error → Bool
  | .serializationFailure _ | .deadlockDetected _ => true
  | .query error =>
    error.sqlstate? == some serializationFailureCode || error.sqlstate? == some deadlockCode
  | _ => false

def isUniqueViolation : Error → Bool
  | .uniqueViolation _ => true
  | _ => false

/-- The error of a transaction that failed and could not be rolled back either. -/
def rollbackFailed (failure rollback : Error) : Error :=
  .other (failure.message ++ " (rollback failed: " ++ rollback.message ++ ")")

end Error

end SqlWeave
