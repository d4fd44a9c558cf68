import SqlWeave.Connection.Address
import SqlWeave.Error

/-!
# Connection pools

A pool is created from a connection string without connecting, so it holds no
connection at first.
-/

namespace SqlWeave.Connection

/-- The greatest number of connections of a pool, and how many there are. -/
structure Pool where
  maxSize : Nat
  size : Nat
  deriving DecidableEq, Repr

def defaultMaxSize : Nat := 16

/-- A pool of connections to the server of a connection string. -/
def Pool.create (address : String) (maxSize : Nat) : Except Error Pool :=
  if isValidAddress address then .ok ⟨maxSize, 0⟩
  else .error (.connection "invalid connection string")

/-- The error of an acquisition from a pool that was closed. -/
def Pool.closedError : Error := .pool "Pool has been closed"

/-- The error of an acquisition for which no connection could be made. -/
def Pool.refusedError (error : DriverError) : Error :=
  .pool ("Error occurred while creating a new object: " ++ error.message)

end SqlWeave.Connection
