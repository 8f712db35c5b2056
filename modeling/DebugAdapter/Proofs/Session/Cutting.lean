import DebugAdapter.Proofs.Adapter.Dispatch
import DebugAdapter.Proofs.Frame.Grammar
import DebugAdapter.Proofs.Session.Moment

/-!
# Streams in pieces

How a stream is cut into pieces makes no difference. A body is served with the piece in which its
frame ends, because the reader needs no byte behind the frame to know its end.
-/

namespace DebugAdapter

namespace Frame

/-- The bodies that are delivered from a stream are those of frames in a row at its front. -/
theorem Reader.exists_isStream_of_feedAll (stream : Bytes) :
    ∃ front rest, stream = front ++ rest ∧ IsStream front (start.feedAll stream).2 := by
  cases hfed : start.feedAll stream with
  | mk reader bodies =>
    induction bodies generalizing stream with
    | nil => exact ⟨[], stream, rfl, .nil⟩
    | cons body bodies ih =>
      obtain ⟨frame, others, rfl, hframe, hothers⟩ := exists_isFrame_of_feedAll hfed
      obtain ⟨front, rest, rfl, hstream⟩ := ih others hothers
      exact ⟨frame ++ front, rest, (List.append_assoc _ _ _).symm, .cons hframe hstream⟩

end Frame

namespace Session

variable {σ : Type} (debugger : Debugger σ) (settings : LaunchSettings)

/-- A piece in two parts: the second is received by the session that the first has left. -/
theorem receive_append (session : Session σ) (front back : Bytes) :
    session.receive debugger settings (front ++ back) =
      (((session.receive debugger settings front).1.receive debugger settings back).1,
        (session.receive debugger settings front).2 ++
          ((session.receive debugger settings front).1.receive debugger settings back).2) := by
  induction front generalizing session with
  | nil => rfl
  | cons b front ih => simp [receive_cons, ih]

theorem arriveAll_append (session : Session σ) (arrivals others : List Arrival) :
    session.arriveAll debugger settings (arrivals ++ others) =
      (((session.arriveAll debugger settings arrivals).1.arriveAll debugger settings others).1,
        (session.arriveAll debugger settings arrivals).2 ++
          ((session.arriveAll debugger settings arrivals).1.arriveAll debugger settings
            others).2) := by
  induction arrivals generalizing session with
  | nil => rfl
  | cons arrival arrivals ih => simp [arriveAll, ih]

/-- Pieces that arrive one after another are received as one piece. -/
theorem arriveAll_bytes (session : Session σ) (pieces : List Bytes) :
    session.arriveAll debugger settings (pieces.map .bytes) =
      session.receive debugger settings pieces.flatten := by
  induction pieces generalizing session with
  | nil => rfl
  | cons piece pieces ih => simp [arriveAll, arrive, ih, receive_append]

/-- By the end of a piece a session has served the bodies that are complete by then. -/
theorem effects_arriveAll_bytes (adapter : Adapter σ) (pieces : List Bytes) :
    (arriveAll debugger settings { adapter } (pieces.map .bytes)).2 =
      (meetAll debugger settings { adapter }
        ((Frame.Reader.start.feedAll pieces.flatten).2.map .hears)).2 := by
  rw [arriveAll_bytes]
  exact ((Tracks.refl { adapter }).receive debugger settings pieces.flatten).1

theorem prefix_meetAll (session : Session σ) (moments others : List Moment) :
    (session.meetAll debugger settings moments).2 <+:
      (session.meetAll debugger settings (moments ++ others)).2 := by
  rw [meetAll_append]
  exact List.prefix_append _ _

theorem prefix_run (session : Session σ) (early later : List Arrival) (ending : Frame.Ending) :
    (session.arriveAll debugger settings early).2 <+:
      (session.run debugger settings (early ++ later) ending).2 := by
  simp only [run, arriveAll_append, List.append_assoc]
  exact List.prefix_append _ _

/-- A session over a stream of bytes does not depend on how the stream is cut into pieces, whatever
the stream and the cuts: it does the same and comes to the same end. By the end of each piece it has
done all that the frames cause whose last byte has arrived, and nothing else; the pieces
behind only add to it. -/
theorem independent_of_cutting (adapter : Adapter σ) (ending : Frame.Ending) :
    (∀ pieces others : List Bytes, pieces.flatten = others.flatten →
      run debugger settings { adapter } (pieces.map .bytes) ending =
        run debugger settings { adapter } (others.map .bytes) ending) ∧
    ∀ early later : List Bytes,
      let arrived := (arriveAll debugger settings { adapter } (early.map .bytes)).2
      (∀ front rest bodies, early.flatten = front ++ rest → Frame.IsStream front bodies →
        (meetAll debugger settings { adapter } (bodies.map .hears)).2 <+: arrived) ∧
      (∃ front rest bodies, early.flatten = front ++ rest ∧ Frame.IsStream front bodies ∧
        arrived = (meetAll debugger settings { adapter } (bodies.map .hears)).2) ∧
      arrived <+: (run debugger settings { adapter } ((early ++ later).map .bytes) ending).2 := by
  refine ⟨fun pieces others h => ?_, fun early later => ⟨?_, ?_, ?_⟩⟩
  · rw [run, run, arriveAll_bytes, arriveAll_bytes, h]
  · intro front rest bodies hearly hfront
    rw [effects_arriveAll_bytes, hearly, Frame.Reader.feedAll_append,
      Frame.Reader.feedAll_isStream hfront, List.map_append]
    exact prefix_meetAll debugger settings { adapter } _ _
  · obtain ⟨front, rest, hearly, hfront⟩ :=
      Frame.Reader.exists_isStream_of_feedAll early.flatten
    exact ⟨front, rest, _, hearly, hfront, effects_arriveAll_bytes debugger settings adapter early⟩
  · rw [List.map_append]
    exact prefix_run debugger settings { adapter } _ _ ending

/-- A frame that is cut between the two bytes of a line end. -/
theorem independent_of_cutting_inside_line_end :
    let body := Utf8.encode "\x7b\x7d"
    let pieces := [(Frame.encode body).take 18, (Frame.encode body).drop 18]
    let adapter : Adapter Unit := { channel := {}, debugger := () }
    pieces.flatten = Frame.encode body ∧ Frame.IsFrame (Frame.encode body) body ∧
    run (.unable .notImplemented) {} { adapter } (pieces.map .bytes) .closed =
      run (.unable .notImplemented) {} { adapter } [.bytes (Frame.encode body)] .closed ∧
    (serve (.unable .notImplemented) {} { adapter } body).2 <+:
      (arriveAll (.unable .notImplemented) {} { adapter } (pieces.map .bytes)).2 := by
  intro body pieces adapter
  have hwhole : pieces.flatten = Frame.encode body := by simp [pieces]
  have hframe : Frame.IsFrame (Frame.encode body) body := Frame.isFrame_encode (by decide)
  have hstream : Frame.IsStream (Frame.encode body) [body] := by
    simpa using Frame.IsStream.cons hframe .nil
  obtain ⟨hcut, hpieces⟩ :=
    independent_of_cutting (.unable .notImplemented) {} adapter .closed
  obtain ⟨hserved, -, -⟩ := hpieces pieces []
  refine ⟨hwhole, hframe, hcut pieces [Frame.encode body] (by simpa using hwhole), ?_⟩
  simpa [meetAll, meet] using hserved (Frame.encode body) [] [body] (by simpa using hwhole) hstream

end Session

end DebugAdapter
