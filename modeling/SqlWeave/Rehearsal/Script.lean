import SqlWeave.Transaction.Source

/-!
# Scripted servers

A server whose replies are fixed in advance: every statement takes the next
one, whatever it says.  Programs that need a server can be rehearsed against
it, and the rehearsal is a value like any other.
-/

namespace SqlWeave.Rehearsal

open Connection (Reply Statement)
open Transaction (Handle SourceEffect sourceSignature)

/-- What the server does with a statement that reaches it. -/
inductive ServerReply where
  /-- The statement succeeds. -/
  | success (reply : Reply)
  /-- The server refuses it. -/
  | refusal (error : ServerError)
  /-- The connection closes, for this statement and all later ones on it. -/
  | disconnect

/-- What the script says about one statement. -/
inductive ScriptedReply where
  | server (reply : ServerReply)
  /-- It fails with exactly this error, before it is handed to the driver. -/
  | failure (error : Error)

/-- The reply to a statement beyond the end of the script. -/
def ScriptedReply.silent : ScriptedReply := .server (.success ⟨[], [], 0⟩)

/-- How connections are handed out. -/
inductive Supply where
  /-- One connection is shared by all. -/
  | shared
  /-- A connection that closed is replaced. -/
  | replaced
  /-- There are none. -/
  | refused (error : Error)

/-- A scripted server in the middle of a rehearsal. -/
structure Stage where
  replies : List ScriptedReply
  isClosed : Bool := false
  acquired : Nat := 0
  released : Nat := 0
  transactions : Nat := 0

namespace Stage

/-- Take the next reply off the script. -/
def next (stage : Stage) : ScriptedReply × Stage :=
  match stage.replies with
  | [] => (.silent, stage)
  | reply :: replies => (reply, { stage with replies })

/-- Answer a statement that the driver sends, unless the connection is closed. -/
def serve (stage : Stage) (reply : ServerReply) : Except Error Reply × Stage :=
  if stage.isClosed then (.error (.ofDriver .closed), stage)
  else match reply with
    | .success reply => (.ok reply, stage)
    | .refusal error => (.error (.ofDriver (.server error)), stage)
    | .disconnect => (.error (.ofDriver .closed), { stage with isClosed := true })

/-- Answer one statement.  It takes a reply in any case, but one that cannot be encoded does
not reach the server. -/
def answer {Value : Type} (stage : Stage) (statement : Statement Value) :
    Except Error Reply × Stage :=
  match stage.next with
  | (.failure error, stage) => (.error error, stage)
  | (.server reply, stage) =>
    if statement.isEncodable then stage.serve reply
    else (.error (.ofDriver .unencodable), stage)

def acquire (stage : Stage) : Supply → Except Error Handle × Stage
  | .refused error => (.error error, stage)
  | .shared => (.ok ⟨stage.acquired⟩, { stage with acquired := stage.acquired + 1 })
  | .replaced =>
    (.ok ⟨stage.acquired⟩, { stage with acquired := stage.acquired + 1, isClosed := false })

end Stage

/-- The world of a scripted server, where every delay is the least of its range. -/
def world (Value : Type) (supply : Supply) : World (sourceSignature Value) Stage where
  respond
    | .identify, stage =>
      (⟨stage.transactions + 1⟩, { stage with transactions := stage.transactions + 1 })
    | .acquire, stage => stage.acquire supply
    | .release _, stage => ((), { stage with released := stage.released + 1 })
    | .work _ (.send statement), stage => stage.answer statement
    | .work _ (.note _), stage => ((), stage)
    | .note _ _, stage => ((), stage)
    | .draw range, stage => (⟨range.least, Nat.le_refl _, range.least_le_greatest⟩, stage)
    | .wait _, stage => ((), stage)

end SqlWeave.Rehearsal
