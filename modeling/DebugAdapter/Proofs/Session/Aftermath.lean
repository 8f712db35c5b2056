import DebugAdapter.Proofs.Session.Cutting
import DebugAdapter.Proofs.Session.Teardown

/-!
# Behind the request to leave

A session that is over looks at no byte of the stream, and as long as it is open no body was a
request to leave. So the last byte of the frame that holds such a request is the last one that
matters.
-/

namespace DebugAdapter.Session

variable {σ : Type} {debugger : Debugger σ} {settings : LaunchSettings} {session : Session σ}

theorem receive_of_over (h : session.result.isSome) (piece : Bytes) :
    session.receive debugger settings piece = (session, []) := by
  induction piece with
  | nil => rfl
  | cons b piece ih =>
    have hfeed : session.feed debugger settings b = (session, []) := by rw [feed, if_pos h]
    rw [receive_cons, hfeed]
    simp only [ih, List.append_nil]

/-- Of what arrives at a session that is over, only the events go on to the client. -/
theorem arriveAll_of_over (debugger : Debugger σ) (settings : LaunchSettings)
    (h : session.result.isSome) (arrivals : List Arrival) :
    session.arriveAll debugger settings arrivals =
      let raised := session.adapter.channel.raiseAll (Arrival.events arrivals)
      ({ session with adapter := { session.adapter with channel := raised.1 } }, raised.2) := by
  induction arrivals generalizing session with
  | nil => rfl
  | cons arrival arrivals ih =>
    cases arrival with
    | bytes piece =>
      simp only [arriveAll, arrive, receive_of_over h, ih h]
      rfl
    | event event =>
      have hraised : (session.raise event).1.result.isSome := h
      simp only [arriveAll, arrive, ih hraised]
      rfl

theorem close_of_over (h : session.result.isSome) (ending : Frame.Ending) :
    session.close debugger settings ending = (session, []) := by
  rw [close, if_pos h]

/-- A session that is still open was open before each of the bodies, and none of them was a
request to leave. -/
theorem stays_of_meetAll {completed : List Bytes}
    (h : (session.meetAll debugger settings (completed.map .hears)).1.result = none) :
    session.result = none ∧ ∀ body ∈ completed, leaving? body = none := by
  induction completed generalizing session with
  | nil => exact ⟨h, fun body hbody => absurd hbody List.not_mem_nil⟩
  | cons body completed ih =>
    obtain ⟨hmet, hothers⟩ := ih h
    by_cases hover : session.result.isSome
    · rw [meet_hears_of_over hover] at hmet
      rw [hmet] at hover
      cases hover
    · have hopen : session.result = none := by simpa using hover
      refine ⟨hopen, ?_⟩
      intro other hother
      rcases List.mem_cons.1 hother with rfl | hother
      · cases hleaving : leaving? other with
        | none => rfl
        | some what =>
          rw [meet_hears_of_open hopen] at hmet
          have hserved : (session.serve debugger settings other).1.result.isSome :=
            (teardown_serve_of_leaving hleaving).1
          rw [hmet] at hserved
          cases hserved
      · exact hothers other hother

/-- An open session has read all that has arrived, and no body of it was a request to leave. -/
theorem stays_of_arriveAll {arrivals : List Arrival}
    (h : (session.arriveAll debugger settings arrivals).1.result = none) :
    session.result = none ∧
      ∀ body ∈ (session.reader.feedAll (Arrival.stream arrivals)).2, leaving? body = none := by
  induction arrivals generalizing session with
  | nil => exact ⟨h, fun body hbody => absurd hbody List.not_mem_nil⟩
  | cons arrival arrivals ih =>
    obtain ⟨harrived, hothers⟩ := ih h
    cases arrival with
    | event event => exact ⟨harrived, hothers⟩
    | bytes piece =>
      obtain ⟨-, htracks⟩ := (Tracks.refl session).receive debugger settings piece
      -- the session is open behind the piece, so its reader is where the piece ends
      have hreader : (session.receive debugger settings piece).1.reader =
          (session.reader.feedAll piece).1 := htracks.reader harrived
      have hmet : (session.meetAll debugger settings
          ((session.reader.feedAll piece).2.map .hears)).1.result = none := by
        rw [← htracks.result]
        exact harrived
      obtain ⟨hopen, hpiece⟩ := stays_of_meetAll hmet
      refine ⟨hopen, ?_⟩
      intro body hbody
      rw [Arrival.stream, Frame.Reader.feedAll_append, List.mem_append] at hbody
      rcases hbody with hbody | hbody
      · exact hpiece body hbody
      · rw [← hreader] at hbody
        exact hothers body hbody

/-- With the last byte of a frame that holds a request to leave, a session is over. -/
theorem over_of_leaving {front frame body : Bytes} {before : List Bytes}
    (hfront : Frame.IsStream front before) (hframe : Frame.IsFrame frame body)
    (hleaving : (leaving? body).isSome) (hreader : session.reader = .start)
    {arrivals : List Arrival} (harrived : Arrival.stream arrivals = front ++ frame) :
    (session.arriveAll debugger settings arrivals).1.result.isSome := by
  by_contra hopen
  obtain ⟨-, hstays⟩ := stays_of_arriveAll (by simpa using hopen)
  have hheard : (session.reader.feedAll (Arrival.stream arrivals)).2 = before ++ [body] := by
    rw [hreader, harrived, Frame.Reader.feedAll_append, Frame.Reader.feedAll_isStream hfront,
      Frame.Reader.feedAll_isFrame hframe]
  have hbody : leaving? body = none := hstays body (by rw [hheard]; simp)
  simp [hbody] at hleaving

/-- Pieces of one stream arrive alike. -/
theorem arriveAll_bytes_congr {pieces others : List Bytes} (h : pieces.flatten = others.flatten) :
    session.arriveAll debugger settings (pieces.map .bytes) =
      session.arriveAll debugger settings (others.map .bytes) := by
  rw [arriveAll_bytes, arriveAll_bytes, h]

theorem run_of_over {arrivals : List Arrival}
    (h : (session.arriveAll debugger settings arrivals).1.result.isSome) (ending : Frame.Ending) :
    session.run debugger settings arrivals ending =
      session.arriveAll debugger settings arrivals := by
  simp only [run, close_of_over h, List.append_nil]

theorem run_append_of_over {early : List Arrival}
    (h : (session.arriveAll debugger settings early).1.result.isSome) (later : List Arrival)
    (ending : Frame.Ending) :
    session.run debugger settings (early ++ later) ending =
      let short := session.arriveAll debugger settings early
      let raised := short.1.adapter.channel.raiseAll (Arrival.events later)
      ({ short.1 with adapter := { short.1.adapter with channel := raised.1 } },
        short.2 ++ raised.2) := by
  have hlater := arriveAll_of_over debugger settings h later
  have hover : (session.arriveAll debugger settings (early ++ later)).1.result.isSome := by
    rw [arriveAll_append, hlater]
    exact h
  rw [run_of_over hover, arriveAll_append, hlater]

/-- The request with which the client leaves is the last thing of a stream that is acted on. What
comes behind its frame makes no difference: the session does the same and comes to the same end
as if the stream ended there, whatever the debugger does, whatever frames are refused, the answer
to the request among them, and however either stream is cut and ends. If the debugger raises events
behind the frame, the client is offered these, and that is all. -/
theorem silent_behind_leaving (debugger : Debugger σ) (settings : LaunchSettings)
    (channel : Channel) (state : σ) {front frame body : Bytes} {before : List Bytes}
    (hfront : Frame.IsStream front before) (hframe : Frame.IsFrame frame body)
    (hleaving : (leaving? body).isSome) (rest : Bytes) (ending otherEnding : Frame.Ending) :
    let session : Session σ := { adapter := { channel, debugger := state } }
    (∀ pieces others : List Bytes, pieces.flatten = front ++ frame ++ rest →
      others.flatten = front ++ frame →
      run debugger settings session (pieces.map .bytes) ending =
        run debugger settings session (others.map .bytes) otherEnding) ∧
    ∀ early later : List Arrival, Arrival.stream early = front ++ frame →
      let short := run debugger settings session early otherEnding
      let raised := short.1.adapter.channel.raiseAll (Arrival.events later)
      run debugger settings session (early ++ later) ending =
        ({ short.1 with adapter := { short.1.adapter with channel := raised.1 } },
          short.2 ++ raised.2) := by
  intro session
  have hover : ∀ arrivals : List Arrival, Arrival.stream arrivals = front ++ frame →
      (session.arriveAll debugger settings arrivals).1.result.isSome := fun arrivals harrived =>
    over_of_leaving hfront hframe hleaving rfl harrived
  constructor
  · intro pieces others hpieces hothers
    -- both streams may be cut at the end of the frame
    have hcut : run debugger settings session (pieces.map .bytes) ending =
        run debugger settings session ([.bytes (front ++ frame)] ++ [.bytes rest]) ending := by
      have hjoin : pieces.flatten = [front ++ frame, rest].flatten := by simp [hpieces]
      rw [run, run, arriveAll_bytes_congr hjoin]
      rfl
    have hwhole : session.arriveAll debugger settings (others.map .bytes) =
        session.arriveAll debugger settings [.bytes (front ++ frame)] := by
      have hjoin : others.flatten = [front ++ frame].flatten := by simp [hothers]
      exact arriveAll_bytes_congr hjoin
    have hsingle : Arrival.stream [.bytes (front ++ frame)] = front ++ frame := by
      simp [Arrival.stream]
    rw [hcut, run_append_of_over (hover _ hsingle), run_of_over (hover _ (by simpa using hothers)),
      hwhole]
    simp [Arrival.events, Channel.raiseAll]
  · intro early later hearly
    simp only
    rw [run_append_of_over (hover early hearly), run_of_over (hover early hearly)]

/-- A client that leaves and sends another request behind that, over a channel that refuses the
answer. -/
theorem silent_behind_leaving_unanswered :
    let body := Utf8.encode "\x7b\"seq\":1,\"command\":\"disconnect\"\x7d"
    let rest := Frame.encode (Utf8.encode "\x7b\"seq\":2,\"command\":\"pause\"\x7d")
    let channel : Channel := { sink := { refusal := fun _ => some "sink closed" } }
    let session : Session Unit := { adapter := { channel, debugger := () } }
    Frame.IsStream [] [] ∧ Frame.IsFrame (Frame.encode body) body ∧ (leaving? body).isSome ∧
      run (.unable .notImplemented) {} session [.bytes (Frame.encode body ++ rest)] .failed =
        run (.unable .notImplemented) {} session [.bytes (Frame.encode body)] .closed := by
  intro body rest channel session
  have hframe : Frame.IsFrame (Frame.encode body) body := Frame.isFrame_encode (by decide +kernel)
  have hleaving : (leaving? body).isSome := by decide +kernel
  obtain ⟨hbytes, -⟩ := silent_behind_leaving (.unable .notImplemented) {} channel () .nil hframe
    hleaving rest .failed .closed
  exact ⟨.nil, hframe, hleaving,
    hbytes [Frame.encode body ++ rest] [Frame.encode body] (by simp) (by simp)⟩

end DebugAdapter.Session
