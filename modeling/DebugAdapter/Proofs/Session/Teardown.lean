import DebugAdapter.Proofs.Session.Taken

/-!
# The end of a session

However a session ends, the debugger is disconnected exactly once, and nothing is asked of it behind
that.
-/

namespace DebugAdapter.Session

open Effect

variable {σ : Type} (debugger : Debugger σ) (settings : LaunchSettings)

/-- Effects with one disconnect, the last operation of all. If one of the bodies taken up
is a request with which the client leaves, the disconnect is what the first of
these says and `exiting` is true. -/
structure Teardown (effects : List Effect) (exiting : Bool) : Prop where
  last : ∃ earlier, (∀ what, .disconnect what ∉ earlier) ∧
    operations effects =
      earlier ++ [.disconnect (((taken effects).findSome? leaving?).getD .default)]
  exiting_eq : exiting = ((taken effects).findSome? leaving?).isSome

namespace Teardown

variable {effects others : List Effect} {exiting : Bool}

/-- In front of a teardown nothing disconnects and no client leaves. -/
theorem prepend (h : Teardown effects exiting)
    (hoperations : ∀ what, .disconnect what ∉ operations others)
    (htaken : ∀ body ∈ taken others, leaving? body = none) :
    Teardown (others ++ effects) exiting := by
  obtain ⟨⟨earlier, hearlier, hlast⟩, hexiting⟩ := h
  have hfirst : (taken (others ++ effects)).findSome? leaving? =
      (taken effects).findSome? leaving? := by
    rw [taken_append, List.findSome?_append, List.findSome?_eq_none_iff.2 htaken, Option.none_or]
  refine ⟨⟨operations others ++ earlier, fun what hmem => ?_, ?_⟩, by rw [hfirst, hexiting]⟩
  · rcases List.mem_append.1 hmem with hmem | hmem
    · exact hoperations what hmem
    · exact hearlier what hmem
  · rw [operations_append, hfirst, hlast, List.append_assoc]

/-- Behind a teardown there are no operations and no bodies. -/
theorem append (h : Teardown effects exiting) (hoperations : operations others = [])
    (htaken : taken others = []) : Teardown (effects ++ others) exiting := by
  obtain ⟨⟨earlier, hearlier, hlast⟩, hexiting⟩ := h
  refine ⟨⟨earlier, hearlier, ?_⟩, ?_⟩
  · rw [operations_append, taken_append, hoperations, htaken, List.append_nil, List.append_nil,
      hlast]
  · rw [taken_append, htaken, List.append_nil, hexiting]

end Teardown

variable {debugger settings} {session : Session σ}

theorem teardown_conclude (h : session.adapter.exiting = false)
    (result : Except SessionError Unit) :
    Teardown (session.conclude debugger result).2
      (session.conclude debugger result).1.adapter.exiting := by
  rw [conclude_of_staying debugger session h]
  exact ⟨⟨[], fun _ => List.not_mem_nil, by simp⟩, by simp [h]⟩

/-- A body with which the client leaves is the end, whether the answer can be sent or not. -/
theorem teardown_serve_of_leaving {body : Bytes} {what : DisconnectAction}
    (h : leaving? body = some what) :
    (session.serve debugger settings body).1.result.isSome ∧
      Teardown (session.serve debugger settings body).2
        (session.serve debugger settings body).1.adapter.exiting := by
  obtain ⟨hcall, hleaves⟩ :=
    debugger.answer_of_leaving settings session.adapter.debugger h
  have hexiting : (session.adapter.handle debugger settings body).1.exiting = true := by
    simp [hleaves]
  -- the session cannot go on, and `exiting` keeps it from disconnecting once more
  rcases session.serve_cases debugger settings body with ⟨hstays, -⟩ | ⟨result, hserve⟩
  · rw [hexiting] at hstays
    cases hstays
  · rw [hserve, conclude_of_exiting debugger _ hexiting]
    refine ⟨rfl, ⟨[], fun _ => List.not_mem_nil, ?_⟩, ?_⟩
    · simp [hcall, h]
    · simp [hleaves, h]

/-- Another body either ends the session with the teardown or leaves it open. -/
theorem teardown_serve_of_staying {body : Bytes} (hexiting : session.adapter.exiting = false)
    (h : leaving? body = none) :
    ((session.serve debugger settings body).1.result.isSome ∧
      Teardown (session.serve debugger settings body).2
        (session.serve debugger settings body).1.adapter.exiting) ∨
    ((session.serve debugger settings body).1.result = session.result ∧
      (session.serve debugger settings body).1.adapter.exiting = false ∧
      ∀ what, .disconnect what ∉ operations (session.serve debugger settings body).2) := by
  obtain ⟨hcall, hleaves⟩ :=
    debugger.answer_of_staying settings session.adapter.debugger h
  have hstays : (session.adapter.handle debugger settings body).1.exiting = false := by
    simp [hexiting, hleaves]
  have hoperations : ∀ what,
      .disconnect what ∉ operations (session.adapter.handle debugger settings body).2.1 := by
    intro what hmem
    rw [Adapter.operations_handle, Option.mem_toList] at hmem
    exact hcall what hmem
  rcases session.serve_cases debugger settings body with ⟨-, hserve⟩ | ⟨result, hserve⟩
  · refine .inr ?_
    rw [hserve]
    exact ⟨rfl, hstays, hoperations⟩
  · refine .inl ?_
    rw [hserve]
    refine ⟨by rw [result_conclude]; rfl, ?_⟩
    refine (teardown_conclude hstays result).prepend hoperations fun other hother => ?_
    rw [Adapter.taken_handle, List.mem_singleton] at hother
    rw [hother, h]

variable (debugger settings)

theorem teardown_experience (session : Session σ) (hopen : session.result = none)
    (hexiting : session.adapter.exiting = false) (moments : List Moment) :
    Teardown (session.experience debugger settings moments).2
      (session.experience debugger settings moments).1.adapter.exiting := by
  induction moments generalizing session with
  | nil =>
    rw [experience_nil, settle_of_open hopen]
    exact teardown_conclude hexiting (.ok ())
  | cons moment moments ih =>
    rw [experience_cons]
    cases moment with
    | raises event =>
      have hrest : Teardown ((session.raise event).1.experience debugger settings moments).2
          ((session.raise event).1.experience debugger settings moments).1.adapter.exiting :=
        ih _ hopen hexiting
      refine hrest.prepend ?_ ?_ <;> simp
    | hears body =>
      rw [meet_hears_of_open hopen]
      -- a body that ends the session is the last one that is taken up
      have hover : (session.serve debugger settings body).1.result.isSome ∧
          Teardown (session.serve debugger settings body).2
            (session.serve debugger settings body).1.adapter.exiting →
          Teardown ((session.serve debugger settings body).2 ++
            ((session.serve debugger settings body).1.experience debugger settings moments).2)
            ((session.serve debugger settings body).1.experience debugger settings
              moments).1.adapter.exiting := by
        rintro ⟨hresult, hteardown⟩
        rw [experience_of_over debugger settings hresult]
        exact hteardown.append (Channel.operations_raiseAll _ _) (Channel.taken_raiseAll _ _)
      cases hleaving : leaving? body with
      | some what => exact hover (teardown_serve_of_leaving hleaving)
      | none =>
        rcases teardown_serve_of_staying hexiting hleaving with
          hends | ⟨hresult, hstays, hoperations⟩
        · exact hover hends
        · refine (ih _ (hresult.trans hopen) hstays).prepend hoperations fun other hother => ?_
          rw [taken_serve, List.mem_singleton] at hother
          rw [hother, hleaving]

/-- However the stream arrives and ends, whatever the debugger does and whichever frames are
refused, a session takes up the first bodies of the stream, up to the one with which the client
leaves at most and all of these if it ends well, and asks the debugger exactly once to disconnect,
behind all other operations. If one of these bodies is a request to leave with a field that is
absent, null or boolean, the disconnect is what the field says, and the adapter knows that the
client has left; otherwise it is the default, and the adapter does not. A request to leave with any
other field is refused: the debugger does not hear of it, and the session goes on. -/
theorem disconnects_exactly_once (channel : Channel) (state : σ) (arrivals : List Arrival)
    (ending : Frame.Ending) :
    let run := run debugger settings { adapter := { channel, debugger := state } } arrivals ending
    let bodies := untilLeaving (Frame.bodies (Arrival.stream arrivals) ending)
    (taken run.2 <+: bodies ∧ (run.1.result = some (.ok ()) → taken run.2 = bodies)) ∧
    (∃ earlier action, operations run.2 = earlier ++ [.disconnect action] ∧
      (∀ what, .disconnect what ∉ earlier) ∧
      match (taken run.2).findSome? leaving? with
      | some what => action = what ∧ run.1.adapter.exiting = true
      | none => action = .default ∧ run.1.adapter.exiting = false) ∧
    ∀ (session : Session σ) (body : Bytes) (request : Request) (found : Json),
      Request.decode body = .ok request → request.command = "disconnect" →
      request.arguments.field? "terminateDebuggee" = some found →
      found ≠ .null → (∀ b, found ≠ .bool b) →
      session.result = none → session.adapter.exiting = false →
      (∃ error : ArgumentError, (session.adapter.serve debugger settings body).2.2 =
        .ofResult request.seq "disconnect" (.error error.toFailure)) ∧
      operations (session.adapter.handle debugger settings body).2.1 = [] ∧
      ∀ seq, (session.adapter.handle debugger settings body).2.2 = .ok seq →
        (session.serve debugger settings body).1.result = none := by
  intro run bodies
  obtain ⟨heffects, reader, hlast⟩ := run_eq_experience debugger settings
    { adapter := { channel, debugger := state } } arrivals ending
  obtain ⟨hfirst, hall, -⟩ := taken_run debugger settings channel state arrivals ending
  refine ⟨⟨hfirst, hall⟩, ?_, ?_⟩
  · rw [heffects, hlast]
    obtain ⟨⟨earlier, hearlier, hoperations⟩, hexiting⟩ := teardown_experience debugger settings
      { adapter := { channel, debugger := state } } rfl rfl (Arrival.moments ending .start arrivals)
    refine ⟨earlier, _, hoperations, hearlier, ?_⟩
    split
    · next what hwhat => exact ⟨by rw [hwhat]; rfl, by rw [hexiting, hwhat]; rfl⟩
    · next hnone => exact ⟨by rw [hnone]; rfl, by rw [hexiting, hnone]; rfl⟩
  · intro session body request found hdecode hname hfound hnull hbool hopen hexiting
    obtain ⟨error, hanswer⟩ := debugger.answer_of_refused settings session.adapter.debugger hdecode
      hname (Request.leaving?_eq_none hfound hnull hbool)
    refine ⟨⟨error, by rw [Adapter.serve_eq, hanswer]⟩, ?_, fun seq hseq => ?_⟩
    · rw [Adapter.operations_handle, hanswer, Option.toList_none]
    · have hstays : (session.adapter.handle debugger settings body).1.exiting = false := by
        rw [Adapter.handle_exiting, hanswer, hexiting, Bool.or_false]
      rw [serve_of_staying session hseq hstays]
      exact hopen

end DebugAdapter.Session
