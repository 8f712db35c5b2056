import DebugAdapter.Adapter

/-!
# Sessions

A session serves the bodies of a byte stream until the client leaves, the stream ends, or an answer
cannot be sent. The stream arrives in pieces, and between two pieces the debugger may raise events
of its own.
-/

namespace DebugAdapter

/-- A session with a debugger whose states are of type `σ`. Once it has ended it
has a result and reads no further. -/
structure Session (σ : Type) where
  adapter : Adapter σ
  reader : Frame.Reader := .start
  result : Option (Except SessionError Unit) := none

/-- What happens to a session while the stream lasts. -/
inductive Arrival where
  /-- Bytes arrive. -/
  | bytes (piece : Bytes)
  /-- The debugger raises an event on its own. -/
  | event (event : Event)

namespace Session

variable {σ : Type} (debugger : Debugger σ) (settings : LaunchSettings)

/-- The end of a session. A debugger that the client did not disconnect is
disconnected now. -/
def conclude (session : Session σ) (result : Except SessionError Unit) :
    Session σ × List Effect :=
  if session.adapter.exiting then ({ session with result := some result }, [])
  else
    let (adapter, effects, _) := session.adapter.perform debugger (.disconnect .default)
    ({ session with adapter, result := some result }, effects)

/-- A body served. The session ends if the answer cannot be sent or the client
has left. -/
def serve (session : Session σ) (body : Bytes) : Session σ × List Effect :=
  let (adapter, effects, result) := session.adapter.handle debugger settings body
  let session := { session with adapter }
  match result with
  | .error error =>
    let (session, last) := session.conclude debugger (.error error)
    (session, effects ++ last)
  | .ok _ =>
    if adapter.exiting then
      let (session, last) := session.conclude debugger (.ok ())
      (session, effects ++ last)
    else (session, effects)

/-- One more byte of the stream; a session that has ended does not look at it. -/
def feed (session : Session σ) (b : UInt8) : Session σ × List Effect :=
  if session.result.isSome then (session, [])
  else
    let (reader, body) := session.reader.feed b
    let session := { session with reader }
    match body with
    | none => (session, [])
    | some body => session.serve debugger settings body

/-- A session and what it has done, last effect first, after one more byte. -/
def feedOnto (state : Session σ × List Effect) (b : UInt8) : Session σ × List Effect :=
  let (session, effects) := state.1.feed debugger settings b
  (session, effects.reverse ++ state.2)

/-- A piece of the stream. -/
def receive (session : Session σ) (piece : Bytes) : Session σ × List Effect :=
  let (session, done) := piece.foldl (feedOnto debugger settings) (session, [])
  (session, done.reverse)

theorem foldl_feedOnto (session : Session σ) (done : List Effect) (piece : Bytes) :
    piece.foldl (feedOnto debugger settings) (session, done) =
      let (session, effects) := session.receive debugger settings piece
      (session, effects.reverse ++ done) := by
  induction piece generalizing session done with
  | nil => rfl
  | cons b piece ih =>
    simp only [receive, List.foldl_cons]
    rw [feedOnto, feedOnto, ih, ih]
    simp [receive]

@[simp]
theorem receive_nil (session : Session σ) :
    session.receive debugger settings [] = (session, []) :=
  rfl

/-- A piece is received byte by byte. -/
theorem receive_cons (session : Session σ) (b : UInt8) (piece : Bytes) :
    session.receive debugger settings (b :: piece) =
      let (session, first) := session.feed debugger settings b
      let (session, others) := session.receive debugger settings piece
      (session, first ++ others) := by
  rw [receive, List.foldl_cons, feedOnto, foldl_feedOnto]
  simp

/-- An event from outside, which reaches the client even when the session has
ended. -/
def raise (session : Session σ) (event : Event) :
    Session σ × List Effect × Except SessionError Nat :=
  let (adapter, effects, result) := session.adapter.raise event
  ({ session with adapter }, effects, result)

/-- The end of the stream. It may complete a last body; then the session is over. -/
def close (session : Session σ) (ending : Frame.Ending) : Session σ × List Effect :=
  if session.result.isSome then (session, [])
  else
    let (session, effects) :=
      match session.reader.finish ending with
      | none => (session, [])
      | some body => { session with reader := .start }.serve debugger settings body
    if session.result.isSome then (session, effects)
    else
      let (session, last) := session.conclude debugger (.ok ())
      (session, effects ++ last)

/-- One arrival. -/
def arrive (session : Session σ) : Arrival → Session σ × List Effect
  | .bytes piece => session.receive debugger settings piece
  | .event event =>
    let (session, effects, _) := session.raise event
    (session, effects)

/-- Arrivals in order. -/
def arriveAll (session : Session σ) : List Arrival → Session σ × List Effect
  | [] => (session, [])
  | arrival :: arrivals =>
    let (session, first) := session.arrive debugger settings arrival
    let (session, others) := session.arriveAll arrivals
    (session, first ++ others)

/-- A whole session: arrivals, and then the end of the stream. -/
def run (session : Session σ) (arrivals : List Arrival) (ending : Frame.Ending) :
    Session σ × List Effect :=
  let (session, effects) := session.arriveAll debugger settings arrivals
  let (session, last) := session.close debugger settings ending
  (session, effects ++ last)

end Session

end DebugAdapter
