import DebugAdapter.Event
import DebugAdapter.Failure
import DebugAdapter.Json.Printer

/-!
# Messages to the client

A message is the response to a request or an event. On the wire it is an object that begins with the
message's number and its kind.
-/

namespace DebugAdapter

/-- The answer to a request: a body if the command succeeded, and a message if it
failed. -/
structure Response where
  requestSeq : Int64
  command : String
  outcome : Except String Json

/-- The response to a command that ended with `result`. -/
def Response.of (requestSeq : Int64) (command : String) (result : Except Failure Json) : Response :=
  ⟨requestSeq, command, result.mapError (·.reply command)⟩

/-- A message before it is numbered. -/
inductive Message where
  | response (response : Response)
  | event (name : String) (body : Json)

namespace Message

/-- The response to a command that ended with `result`. -/
def ofResult (requestSeq : Int64) (command : String) (result : Except Failure Json) : Message :=
  .response (.of requestSeq command result)

/-- An event as a message. -/
def ofEvent (event : Event) : Message :=
  .event event.name event.body

/-- Fields of a message behind its number. -/
def fields : Message → List (String × Json)
  | .response r =>
    [("type", .string "response"), ("request_seq", .ofInt64 r.requestSeq),
      ("command", .string r.command)] ++
    match r.outcome with
    | .ok body => [("success", .bool true), ("body", body)]
    | .error message => [("success", .bool false), ("message", .string message)]
  | .event name body => [("type", .string "event"), ("event", .string name), ("body", body)]

/-- The text of a message with its number. -/
def payload (seq : Nat) (message : Message) : String :=
  (Json.object (("seq", .int seq) :: message.fields)).render

end Message

end DebugAdapter
