import DebugAdapter.Debugger
import DebugAdapter.Frame
import DebugAdapter.Message

/-!
# The channel to the client

All messages to the client go through one channel, which numbers them, offers each in a frame to the
client's end of the stream, and notes in a traffic log what passes in either direction. The client's
end may refuse a frame; the number of the message is used up all the same.
-/

namespace DebugAdapter

/-- The client's end of the stream: how many frames it has been offered, and for
each number of an offer the reason for which it refuses the frame, if it does. -/
structure Sink where
  offers : Nat := 0
  refusal : Nat → Option String := fun _ => none

/-- The end behind one more offer, and the reason if it is refused. -/
def Sink.offer (sink : Sink) : Sink × Option String :=
  ({ sink with offers := sink.offers + 1 }, sink.refusal (sink.offers + 1))

/-- Where passing messages are noted. -/
inductive TrafficLog where
  | disabled
  /-- On the client's console. -/
  | console
  /-- At the end of a file with the given content, if it can be written to. -/
  | file (content : Bytes) (writable : Bool)
  deriving DecidableEq, Repr

/-- Whether anything is noted. -/
def TrafficLog.isEnabled (log : TrafficLog) : Bool :=
  log ≠ .disabled

/-- What a noted message is. -/
inductive Direction where
  | command
  | response
  | event
  deriving DecidableEq, Repr

/-- The mark of a noted message at the front of its line. -/
def Direction.mark : Direction → String
  | .command => "-> (C) "
  | .response => "<- (R) "
  | .event => "<- (E) "

/-- The line of a noted message. -/
def Direction.line (direction : Direction) (text : String) : String :=
  direction.mark ++ text

/-- How a message is noted. -/
def Message.direction : Message → Direction
  | .response _ => .response
  | .event .. => .event

/-- A message offered to the client's end: the number of the offer, the number of
the message, whether it is the echo of another one, and why it was refused. -/
structure Attempt where
  offer : Nat
  seq : Nat
  message : Message
  isEcho : Bool
  refusal : Option String

namespace Attempt

/-- Whether the frame reached the client. -/
def delivered (attempt : Attempt) : Bool :=
  attempt.refusal.isNone

/-- The text inside the frame. -/
def payload (attempt : Attempt) : String :=
  attempt.message.payload attempt.seq

/-- The frame. -/
def frame (attempt : Attempt) : Bytes :=
  Frame.encode (Utf8.encode attempt.payload)

end Attempt

/-- Something that an adapter does. -/
inductive Effect where
  /-- It takes up a message from the client. -/
  | takes (body : Bytes)
  /-- It asks the debugger to perform an operation. -/
  | calls (operation : Operation)
  /-- It offers a frame to the client. -/
  | offers (attempt : Attempt)
  /-- It appends a line to the log file. -/
  | logs (line : String)

namespace Effect

/-- The operation that the debugger is asked to perform. -/
def operation? : Effect → Option Operation
  | .calls operation => some operation
  | _ => none

/-- The frame that reaches the client. -/
def delivered? : Effect → Option Attempt
  | .offers attempt => if attempt.delivered then some attempt else none
  | _ => none

end Effect

/-- The channel: the number of the last message, the client's end and the log. -/
structure Channel where
  lastSeq : Nat := 0
  sink : Sink := {}
  traffic : TrafficLog := .disabled

namespace Channel

/-- The channel after a message is offered under the next number, and the offer. -/
def offer (channel : Channel) (message : Message) (isEcho : Bool) : Channel × Attempt :=
  let (sink, refusal) := channel.sink.offer
  let seq := channel.lastSeq + 1
  ({ channel with lastSeq := seq, sink },
    { offer := sink.offers, seq, message, isEcho, refusal })

/-- The echo of a line on the client's console, which is not noted in turn. -/
def echo (line : String) : Message :=
  .event "output" (.ofFields [("category", .string "console"), ("output", .string (line ++ "\n"))])

/-- The channel after a passing text is noted. What goes wrong with the log is of
no consequence. -/
def note (channel : Channel) (direction : Direction) (text : String) : Channel × List Effect :=
  let line := direction.line text
  match channel.traffic with
  | .disabled => (channel, [])
  | .console =>
    let (channel, attempt) := channel.offer (echo line) true
    (channel, [.offers attempt])
  | .file _ false => (channel, [])
  | .file content true =>
    ({ channel with traffic := .file (content ++ Utf8.encode (line ++ "\n")) true }, [.logs line])

/-- A message to the client: it is offered, and noted if it is not refused. The
result is the number of the message or the reason for the refusal. -/
def send (channel : Channel) (message : Message) :
    Channel × List Effect × Except SessionError Nat :=
  let (channel, attempt) := channel.offer message false
  match attempt.refusal with
  | some reason => (channel, [.offers attempt], .error (.io reason))
  | none =>
    let (channel, noted) := channel.note message.direction attempt.payload
    (channel, .offers attempt :: noted, .ok attempt.seq)

/-- An event to the client. -/
def raise (channel : Channel) (event : Event) : Channel × List Effect × Except SessionError Nat :=
  channel.send (.ofEvent event)

/-- Events to the client, one after another, whether they arrive or not. -/
def raiseAll (channel : Channel) : List Event → Channel × List Effect
  | [] => (channel, [])
  | event :: events =>
    let (channel, first, _) := channel.raise event
    let (channel, others) := channel.raiseAll events
    (channel, first ++ others)

/-- A message from the client is noted as the text that its bytes spell. -/
def noteInbound (channel : Channel) (text : String) : Channel × List Effect :=
  channel.note .command text

end Channel

end DebugAdapter
