import SqlWeave.Connection.Rows
import SqlWeave.Json.Decode
import SqlWeave.Sql.Compile

/-!
# Running fragments

A fragment is compiled before anything is sent.  If that fails, the connection
is left as it was; otherwise one event is noted and one statement is sent, and
an error of the server is handed back unchanged.
-/

namespace SqlWeave.Fragment

open Connection

variable {Value Result : Type}

/-- Compile a fragment, note it, and send it. -/
def send (fragment : Fragment Value) (method : Method) : Work Value Reply :=
  match fragment.compile with
  | .error fault => .done (.error (.ofTreeFault fault))
  | .ok compiled =>
    (note ⟨method, compiled.text, compiled.params.size⟩).bind fun _ =>
      Connection.send ⟨method, compiled.text, compiled.params⟩

def runRows (fragment : Fragment Value) : Work Value Reply := fragment.send .query

/-- The value that a reply gives a fragment, read and shaped as the fragment says. -/
def shapeReply (fragment : Fragment Value) (reader : RowReader) (reply : Reply) :
    Except Error Json :=
  (reader.rowResults fragment.shape reply).map fragment.shape.apply

/-- Run a fragment for its JSON result. -/
def run (fragment : Fragment Value) (reader : RowReader) : Work Value Json :=
  fragment.runRows.bind fun reply => .done (reply.bind (fragment.shapeReply reader))

def decodeResult (decode : Json.Decoder Result) (value : Json) : Except Error Result :=
  (decode value).mapError .serialization

/-- Run a fragment for its result as a value of a type. -/
def runAs (fragment : Fragment Value) (reader : RowReader) (decode : Json.Decoder Result) :
    Work Value Result :=
  (fragment.run reader).bind fun value => .done (value.bind (decodeResult decode))

/-- Run a fragment for the number of affected rows. -/
def execute (fragment : Fragment Value) : Work Value Nat :=
  (fragment.send .execute).bind fun reply => .done (reply.map Reply.affected)

end SqlWeave.Fragment
