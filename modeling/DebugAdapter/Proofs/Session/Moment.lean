import DebugAdapter.Proofs.Frame.Reader
import DebugAdapter.Proofs.Session.Serve

/-!
# Sessions moment by moment

A session meets with one moment after another: a body that is complete, or an event from outside.
How the stream was cut into pieces is no more to be seen, and neither is the reader.
-/

namespace DebugAdapter

/-! ## The moments of a stream -/

/-- What a session meets with. -/
inductive Moment where
  /-- A body is complete. -/
  | hears (body : Bytes)
  /-- An event is raised from outside. -/
  | raises (event : Event)

namespace Moment

/-- The bodies among moments. -/
def bodies : List Moment → List Bytes
  | [] => []
  | .hears body :: moments => body :: bodies moments
  | .raises _ :: moments => bodies moments

/-- The events among moments. -/
def events : List Moment → List Event
  | [] => []
  | .hears _ :: moments => events moments
  | .raises event :: moments => event :: events moments

@[simp]
theorem bodies_append (moments others : List Moment) :
    bodies (moments ++ others) = bodies moments ++ bodies others := by
  induction moments with
  | nil => rfl
  | cons moment moments ih => cases moment <;> simp [bodies, ih]

@[simp]
theorem events_append (moments others : List Moment) :
    events (moments ++ others) = events moments ++ events others := by
  induction moments with
  | nil => rfl
  | cons moment moments ih => cases moment <;> simp [events, ih]

@[simp]
theorem bodies_map_hears (completed : List Bytes) : bodies (completed.map .hears) = completed := by
  induction completed with
  | nil => rfl
  | cons body completed ih => simp [bodies, ih]

@[simp]
theorem events_map_hears (completed : List Bytes) : events (completed.map .hears) = [] := by
  induction completed with
  | nil => rfl
  | cons body completed ih => simp [events, ih]

end Moment

namespace Arrival

/-- The bytes that arrive, without what comes between them. -/
def stream : List Arrival → Bytes
  | [] => []
  | .bytes piece :: arrivals => piece ++ stream arrivals
  | .event _ :: arrivals => stream arrivals

/-- The events that come between the bytes. -/
def events : List Arrival → List Event
  | [] => []
  | .bytes _ :: arrivals => events arrivals
  | .event raised :: arrivals => raised :: events arrivals

/-- The moments of a stream for a reader. -/
def moments (ending : Frame.Ending) : Frame.Reader → List Arrival → List Moment
  | reader, [] => (reader.finish ending).toList.map .hears
  | reader, .bytes piece :: arrivals =>
    (reader.feedAll piece).2.map .hears ++ moments ending (reader.feedAll piece).1 arrivals
  | reader, .event raised :: arrivals => .raises raised :: moments ending reader arrivals

variable (ending : Frame.Ending) (arrivals : List Arrival)

theorem bodies_moments_of_reader (reader : Frame.Reader) :
    Moment.bodies (moments ending reader arrivals) =
      (reader.feedAll (stream arrivals)).2 ++
        ((reader.feedAll (stream arrivals)).1.finish ending).toList := by
  induction arrivals generalizing reader with
  | nil => simp [moments, stream]
  | cons arrival arrivals ih =>
    cases arrival with
    | bytes piece => simp [moments, stream, ih, Frame.Reader.feedAll_append]
    | event raised => simp [moments, stream, Moment.bodies, ih]

/-- The bodies of a stream do not depend on how it arrives. -/
theorem bodies_moments :
    Moment.bodies (moments ending .start arrivals) = Frame.bodies (stream arrivals) ending :=
  bodies_moments_of_reader ending arrivals .start

theorem events_moments (reader : Frame.Reader) :
    Moment.events (moments ending reader arrivals) = events arrivals := by
  induction arrivals generalizing reader with
  | nil => simp [moments, events]
  | cons arrival arrivals ih =>
    cases arrival with
    | bytes piece => simp [moments, events, ih]
    | event raised => simp [moments, events, Moment.events, ih]

@[simp]
theorem stream_map_bytes (pieces : List Bytes) : stream (pieces.map .bytes) = pieces.flatten := by
  induction pieces with
  | nil => rfl
  | cons piece pieces ih => simp [stream, ih]

theorem moments_map_bytes_of_reader (reader : Frame.Reader) (pieces : List Bytes) :
    moments ending reader (pieces.map .bytes) =
      ((reader.feedAll pieces.flatten).2 ++
        ((reader.feedAll pieces.flatten).1.finish ending).toList).map .hears := by
  induction pieces generalizing reader with
  | nil => simp [moments]
  | cons piece pieces ih => simp [moments, ih, Frame.Reader.feedAll_append]

/-- Without events from outside, the moments of a stream are its bodies. -/
theorem moments_map_bytes (pieces : List Bytes) :
    moments ending .start (pieces.map .bytes) = (Frame.bodies pieces.flatten ending).map .hears :=
  moments_map_bytes_of_reader ending .start pieces

end Arrival

namespace Session

variable {σ : Type} (debugger : Debugger σ) (settings : LaunchSettings)

/-! ## A session over moments -/

/-- A session and one moment. A session that is over takes up no body. -/
def meet (session : Session σ) : Moment → Session σ × List Effect
  | .hears body =>
    if session.result.isSome then (session, []) else session.serve debugger settings body
  | .raises event => ((session.raise event).1, (session.raise event).2.1)

/-- A session and moments in order. -/
def meetAll (session : Session σ) : List Moment → Session σ × List Effect
  | [] => (session, [])
  | moment :: moments =>
    (((session.meet debugger settings moment).1.meetAll moments).1,
      (session.meet debugger settings moment).2 ++
        ((session.meet debugger settings moment).1.meetAll moments).2)

/-- A session behind the last moment is over. -/
def settle (session : Session σ) : Session σ × List Effect :=
  if session.result.isSome then (session, []) else session.conclude debugger (.ok ())

/-- All that a session does over moments. -/
def experience (session : Session σ) (moments : List Moment) : Session σ × List Effect :=
  (((session.meetAll debugger settings moments).1.settle debugger).1,
    (session.meetAll debugger settings moments).2 ++
      ((session.meetAll debugger settings moments).1.settle debugger).2)

@[simp]
theorem experience_nil (session : Session σ) :
    session.experience debugger settings [] = session.settle debugger :=
  rfl

theorem experience_cons (session : Session σ) (moment : Moment) (moments : List Moment) :
    session.experience debugger settings (moment :: moments) =
      (((session.meet debugger settings moment).1.experience debugger settings moments).1,
        (session.meet debugger settings moment).2 ++
          ((session.meet debugger settings moment).1.experience debugger settings moments).2) := by
  simp [experience, meetAll]

theorem meetAll_append (session : Session σ) (moments others : List Moment) :
    session.meetAll debugger settings (moments ++ others) =
      (((session.meetAll debugger settings moments).1.meetAll debugger settings others).1,
        (session.meetAll debugger settings moments).2 ++
          ((session.meetAll debugger settings moments).1.meetAll debugger settings others).2) := by
  induction moments generalizing session with
  | nil => rfl
  | cons moment moments ih => simp [meetAll, ih]

section Meet

variable {debugger settings} {session : Session σ}

@[simp]
theorem meet_raises (event : Event) :
    session.meet debugger settings (.raises event) =
      ((session.raise event).1, (session.raise event).2.1) :=
  rfl

theorem meet_hears_of_over (h : session.result.isSome) (body : Bytes) :
    session.meet debugger settings (.hears body) = (session, []) := by
  rw [meet, if_pos h]

theorem meet_hears_of_open (h : session.result = none) (body : Bytes) :
    session.meet debugger settings (.hears body) = session.serve debugger settings body := by
  rw [meet, if_neg (by simp [h])]

theorem settle_of_over (h : session.result.isSome) : session.settle debugger = (session, []) := by
  rw [settle, if_pos h]

theorem settle_of_open (h : session.result = none) :
    session.settle debugger = session.conclude debugger (.ok ()) := by
  rw [settle, if_neg (by simp [h])]

/-- A session that is over only passes on events. -/
theorem experience_of_over (debugger : Debugger σ) (settings : LaunchSettings)
    (h : session.result.isSome) (moments : List Moment) :
    session.experience debugger settings moments =
      let raised := session.adapter.channel.raiseAll (Moment.events moments)
      ({ session with adapter := { session.adapter with channel := raised.1 } }, raised.2) := by
  induction moments generalizing session with
  | nil => rw [experience_nil, settle_of_over h]; rfl
  | cons moment moments ih =>
    rw [experience_cons]
    cases moment with
    | hears body => rw [meet_hears_of_over h, ih h]; rfl
    | raises event =>
      have hraise : (session.raise event).1.result.isSome := h
      rw [meet_raises, ih hraise]
      rfl

@[simp]
theorem taken_settle : Effect.taken (session.settle debugger).2 = [] := by
  rw [settle]
  split
  · rfl
  · exact taken_conclude debugger session _

end Meet

/-! ## A session over a stream -/

theorem meetAll_hears_of_over (debugger : Debugger σ) (settings : LaunchSettings)
    {session : Session σ} (h : session.result.isSome)
    (completed : List Bytes) :
    session.meetAll debugger settings (completed.map .hears) = (session, []) := by
  induction completed with
  | nil => rfl
  | cons body completed ih => simp [meetAll, meet, h, ih]

/-- A session with a reader that is as `met`, except that it reads from `reader` as long as
it is not over. -/
structure Tracks (session : Session σ) (reader : Frame.Reader) (met : Session σ) : Prop where
  eq : session = { met with reader := session.reader }
  reader : session.result = none → session.reader = reader

namespace Tracks

variable {session met : Session σ} {reader : Frame.Reader}

theorem refl (session : Session σ) : Tracks session session.reader session :=
  ⟨rfl, fun _ => rfl⟩

theorem result (h : Tracks session reader met) : session.result = met.result := by
  rw [h.eq]

theorem eq_of_open (h : Tracks session reader met) (hopen : ¬ session.result.isSome) :
    met.result.isSome = false ∧ session = { met with reader } := by
  have hreader : session.reader = reader := h.reader (by simpa using hopen)
  refine ⟨?_, by rw [h.eq, hreader]⟩
  rwa [← h.result, ← Bool.not_eq_true]

theorem feed (h : Tracks session reader met) (b : UInt8) :
    (session.feed debugger settings b).2 =
        (met.meetAll debugger settings ((reader.feed b).2.toList.map .hears)).2 ∧
      Tracks (session.feed debugger settings b).1 (reader.feed b).1
        (met.meetAll debugger settings ((reader.feed b).2.toList.map .hears)).1 := by
  by_cases hover : session.result.isSome
  · have hmet : met.result.isSome := by rwa [← h.result]
    rw [Session.feed, if_pos hover, meetAll_hears_of_over debugger settings hmet]
    -- the reader stays behind, which a session that is over may let it do
    refine ⟨rfl, h.eq, fun hnone => ?_⟩
    rw [hnone] at hover
    cases hover
  · obtain ⟨hmet, hsession⟩ := h.eq_of_open hover
    rw [Session.feed, if_neg hover, hsession]
    -- the byte completes a body or it does not
    cases hbody : (reader.feed b).2 with
    | none =>
      simp only [hbody, Option.toList_none, List.map_nil, meetAll]
      exact ⟨trivial, rfl, fun _ => rfl⟩
    | some body =>
      have hserve := serve_reader debugger settings met (reader.feed b).1 body
      simp only [hbody, hserve, Option.toList_some, List.map_cons, List.map_nil, meetAll, meet,
        hmet, Bool.false_eq_true, if_false, List.append_nil]
      exact ⟨trivial, rfl, fun _ => rfl⟩

theorem receive (h : Tracks session reader met) (piece : Bytes) :
    (session.receive debugger settings piece).2 =
        (met.meetAll debugger settings ((reader.feedAll piece).2.map .hears)).2 ∧
      Tracks (session.receive debugger settings piece).1 (reader.feedAll piece).1
        (met.meetAll debugger settings ((reader.feedAll piece).2.map .hears)).1 := by
  induction piece generalizing session reader met with
  | nil => exact ⟨rfl, h⟩
  | cons b piece ih =>
    obtain ⟨hfirst, hfeed⟩ := h.feed debugger settings b
    obtain ⟨hrest, hreceive⟩ := ih hfeed
    rw [receive_cons, Frame.Reader.feedAll_cons, List.map_append, meetAll_append]
    exact ⟨by simp only [hfirst, hrest], hreceive⟩

theorem raise (h : Tracks session reader met) (event : Event) :
    (session.raise event).2.1 = (met.raise event).2.1 ∧
      Tracks (session.raise event).1 reader (met.raise event).1 := by
  have hadapter : session.adapter = met.adapter := by rw [h.eq]
  refine ⟨by simp only [Session.raise, hadapter], ?_, h.reader⟩
  simp only [Session.raise, hadapter, h.result]

/-- The end of the stream may complete a last body before the session is settled. -/
theorem close (h : Tracks session reader met) (ending : Frame.Ending) :
    let last := met.experience debugger settings ((reader.finish ending).toList.map .hears)
    (session.close debugger settings ending).2 = last.2 ∧
      ∃ reader, (session.close debugger settings ending).1 = { last.1 with reader } := by
  by_cases hover : session.result.isSome
  · have hmet : met.result.isSome := by rwa [← h.result]
    rw [Session.close, if_pos hover, experience, meetAll_hears_of_over debugger settings hmet,
      settle, if_pos hmet]
    exact ⟨rfl, _, h.eq⟩
  · obtain ⟨hmet, hsession⟩ := h.eq_of_open hover
    rw [Session.close, if_neg hover, hsession]
    cases hlast : reader.finish ending with
    | none =>
      have hconclude := conclude_reader debugger met reader (.ok ())
      simp only [hmet, hconclude, experience, settle, Option.toList_none, List.map_nil, meetAll,
        Bool.false_eq_true, if_false]
      exact ⟨trivial, reader, rfl⟩
    | some body =>
      have hserve := serve_reader debugger settings met .start body
      have hconclude := conclude_reader debugger (met.serve debugger settings body).1 .start (.ok ())
      simp only [hserve, hmet, experience, settle, Option.toList_some, List.map_cons,
        List.map_nil, meetAll, meet, Bool.false_eq_true, if_false, List.append_nil]
      split
      · exact ⟨(List.append_nil _).symm, .start, rfl⟩
      · rw [hconclude]
        exact ⟨rfl, .start, rfl⟩

theorem run (h : Tracks session reader met) (arrivals : List Arrival) (ending : Frame.Ending) :
    let last := met.experience debugger settings (Arrival.moments ending reader arrivals)
    (session.run debugger settings arrivals ending).2 = last.2 ∧
      ∃ reader, (session.run debugger settings arrivals ending).1 = { last.1 with reader } := by
  induction arrivals generalizing session reader met with
  | nil => exact h.close debugger settings ending
  | cons arrival arrivals ih =>
    cases arrival with
    | bytes piece =>
      obtain ⟨hfirst, hreceive⟩ := h.receive debugger settings piece
      obtain ⟨hothers, hlast⟩ := ih hreceive
      simp only [Session.run, arriveAll, Session.arrive, Arrival.moments, experience,
        meetAll_append] at hothers hlast ⊢
      refine ⟨?_, hlast⟩
      rw [hfirst, List.append_assoc, hothers, List.append_assoc]
    | event raised =>
      obtain ⟨hfirst, hraise⟩ := h.raise raised
      obtain ⟨hothers, hlast⟩ := ih hraise
      simp only [Session.run, arriveAll, Session.arrive, Arrival.moments, experience, meetAll,
        meet] at hothers hlast ⊢
      refine ⟨?_, hlast⟩
      rw [hfirst, List.append_assoc, hothers, List.append_assoc]

end Tracks

/-- A session over a stream is one over the moments of the stream, except for the reader that
is left at the end. -/
theorem run_eq_experience (session : Session σ) (arrivals : List Arrival) (ending : Frame.Ending) :
    let last := session.experience debugger settings
      (Arrival.moments ending session.reader arrivals)
    (session.run debugger settings arrivals ending).2 = last.2 ∧
      ∃ reader, (session.run debugger settings arrivals ending).1 = { last.1 with reader } :=
  (Tracks.refl session).run debugger settings arrivals ending

end Session

end DebugAdapter
