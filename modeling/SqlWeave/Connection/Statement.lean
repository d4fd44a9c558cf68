import SqlWeave.Error
import SqlWeave.Log
import SqlWeave.Program

/-!
# Statements on a connection

The seam between compiled statements and a server: what is sent, what comes
back, and which events are noted on the way.  Work on a connection is a
program over these effects, so it runs the same way inside and outside of a
transaction.
-/

namespace SqlWeave.Connection

/-- How a statement is sent. -/
inductive Method where
  /-- For its rows. -/
  | query
  /-- For the number of affected rows. -/
  | execute
  /-- As plain text, straight to the driver. -/
  | raw
  deriving DecidableEq, Repr

def Method.name : Method → String
  | .query => "query"
  | .execute => "execute"
  | .raw => "raw"

/-- What is sent to a server: text, and the values of its placeholders in order. -/
structure Statement (Value : Type) where
  method : Method
  sql : String
  params : Array Value
  deriving DecidableEq, Repr

/-- Whether a statement can be put into a message, where the text ends at its first zero character. -/
def Statement.isEncodable {Value : Type} (statement : Statement Value) : Bool :=
  !statement.sql.toList.contains '\x00'

inductive ColumnType where
  | jsonb
  | json
  | int8
  | int4
  | text
  | bool
  deriving DecidableEq, Repr

structure Column where
  name : String
  type : ColumnType
  deriving DecidableEq, Repr

/-- The content of one column of a row. -/
inductive Datum where
  /-- The null of SQL, which no JSON value is. -/
  | null
  /-- The text of a JSON value. -/
  | json (text : String)
  | integer (value : Int)
  | text (value : String)
  | bool (value : Bool)

/-- What a server answers to a statement that succeeds. -/
structure Reply where
  columns : List Column
  rows : List (List Datum)
  affected : Nat

/-- A fragment statement that is about to be sent. -/
structure StatementEvent where
  method : Method
  sql : String
  paramCount : Nat
  deriving DecidableEq, Repr

def StatementEvent.level (_ : StatementEvent) : LogLevel := .debug

def StatementEvent.message (event : StatementEvent) : String := event.method.name

/-- What work on a connection may do. -/
inductive Effect (Value : Type) where
  | send (statement : Statement Value)
  | note (event : StatementEvent)

def Effect.Response {Value : Type} : Effect Value → Type
  | .send _ => Except Error Reply
  | .note _ => Unit

def signature (Value : Type) : Signature := ⟨Effect Value, Effect.Response⟩

/-- A program that works on one connection, with a result of its own or an error. -/
abbrev Work (Value Result : Type) := Program (signature Value) (Except Error Result)

def send {Value : Type} (statement : Statement Value) : Work Value Reply :=
  @Program.call (signature Value) (.send statement)

def note {Value : Type} (event : StatementEvent) : Program (signature Value) Unit :=
  @Program.call (signature Value) (.note event)

end SqlWeave.Connection
