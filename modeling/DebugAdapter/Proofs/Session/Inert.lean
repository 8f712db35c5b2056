import DebugAdapter.Proofs.Frame.Grammar
import DebugAdapter.Proofs.Session.Dialogue
import DebugAdapter.Proofs.Session.Script

/-!
# Faulty bodies

A body that asks for nothing that can be done has its reply, and otherwise the session is the same
as without the frame of the body. Only the numbers behind the reply differ, by one.
-/

namespace DebugAdapter

open Effect

/-! ## The reaction to a faulty body -/

/-- A body that asks for nothing that can be done. -/
inductive Faulty (settings : LaunchSettings) (body : Bytes) : Prop where
  /-- It is not a request. -/
  | undecodable {rejection : Rejection} (decode : Request.decode body = .error rejection)
  /-- There is no command of that name. -/
  | unsupported {request : Request} (decode : Request.decode body = .ok request)
      (name : Command.supports request.command = false)
  /-- The arguments are not acceptable. -/
  | unacceptable {request : Request} {command : Command} {currentFrame : Int64}
      {error : ArgumentError} (decode : Request.decode body = .ok request)
      (name : Command.ofName? request.command = some command)
      (arguments : command.action settings currentFrame ⟨request.arguments⟩ = .error error)

/-- Whether arguments are acceptable does not depend on the frame in which expressions are
evaluated by default. -/
theorem Command.action_eq_error {settings : LaunchSettings} {currentFrame : Int64}
    {args : Arguments} {command : Command} {error : ArgumentError}
    (h : command.action settings currentFrame args = .error error) (otherFrame : Int64) :
    command.action settings otherFrame args = .error error := by
  cases command with
  | evaluate =>
    simp only [action, evaluateAction, Arguments.int64D] at h ⊢
    cases hexpression : args.string "expression" with
    | error missing => rwa [hexpression] at h
    | ok expression =>
      rw [hexpression] at h
      cases hframe : args.int64? "frameId" with
      | error mismatch => rwa [hframe] at h
      | ok frameId =>
        rw [hframe] at h
        cases h
  | _ => exact h

namespace Faulty

variable {σ : Type} {settings : LaunchSettings} {body : Bytes}

/-- A faulty body has a reply of its own, and that is all it comes to. -/
theorem exists_answer_eq (h : Faulty settings body) :
    ∃ reply, ∀ {σ : Type} (debugger : Debugger σ) (state : σ),
      debugger.answer settings state body = { state, result := reply } := by
  cases h with
  | @undecodable rejection hdecode =>
    exact ⟨Adapter.rejectionMessage rejection, fun debugger state => by
      simp [Debugger.answer, hdecode]⟩
  | @unsupported request hdecode hname =>
    have hnone : Command.ofName? request.command = none := by
      simpa [Command.supports] using hname
    exact ⟨.ofResult request.seq request.command (.error .notImplemented), fun debugger state => by
      simp [Debugger.answer, Debugger.react, Reaction.map, hdecode, hnone]⟩
  | @unacceptable request command _ error hdecode hname harguments =>
    refine ⟨.ofResult request.seq request.command (.error error.toFailure),
      fun debugger state => ?_⟩
    have haction := Command.action_eq_error harguments (debugger.currentFrame state)
    simp [Debugger.answer, Debugger.react, Reaction.map, hdecode, hname, haction]

theorem leaving?_eq_none (h : Faulty settings body) : leaving? body = none := by
  obtain ⟨reply, hanswer⟩ := h.exists_answer_eq
  have hleaves : ((Debugger.unable .notImplemented).answer settings () body).leaves =
      (leaving? body).isSome := Debugger.answer_leaves _ settings ()
  rw [hanswer] at hleaves
  exact Option.isNone_iff_eq_none.1 (Option.isSome_eq_false_iff.1 hleaves.symm)

end Faulty

/-! ## A faulty body in a script -/

section Script

variable {σ : Type} {debugger : Debugger σ} {settings : LaunchSettings}

/-- Behind bodies with which the client does not leave, a script goes on as one of its own. -/
theorem exists_script_append {before : List Bytes} (h : ∀ body ∈ before, leaving? body = none)
    (state : σ) :
    ∃ intents last, intents.filterMap Intent.body? = before ∧
      ∀ moments, debugger.script settings state (before.map .hears ++ moments) =
        intents ++ debugger.script settings last moments := by
  induction before generalizing state with
  | nil => exact ⟨[], state, rfl, fun _ => rfl⟩
  | cons body before ih =>
    let reaction := debugger.answer settings state body
    have hstays : reaction.leaves = false := by
      rw [debugger.answer_leaves, h body (.head _)]
      rfl
    obtain ⟨intents, last, htaken, hscript⟩ :=
      ih (fun other hother => h other (.tail _ hother)) reaction.state
    refine ⟨.takes body :: (reaction.intents ++ intents), last, ?_, fun moments => ?_⟩
    · have hreaction : reaction.intents.filterMap Intent.body? = [] := by
        simp [Reaction.intents, Reaction.conduct, Intent.raises, Intent.body?]
      simp [Intent.body?, hreaction, htaken]
    · rw [List.map_cons, List.cons_append, Debugger.script, if_neg (by rw [hstays]; decide),
        hscript, List.cons_append, List.append_assoc]

theorem Faulty.exists_script_eq {body : Bytes} (h : Faulty settings body) :
    ∃ reply, (∀ adapter : Adapter σ, adapter.Replies debugger settings body reply.fields) ∧
      ∀ (state : σ) (moments : List Moment),
        debugger.script settings state (.hears body :: moments) =
          .takes body :: .sends .adapter reply :: debugger.script settings state moments := by
  obtain ⟨reply, hanswer⟩ := h.exists_answer_eq
  refine ⟨reply, fun adapter => ?_, fun state moments => ?_⟩
  · have hreplies := adapter.replies_answer debugger settings body
    rwa [hanswer] at hreplies
  · rw [Debugger.script, hanswer]
    rfl

end Script

/-! ## Sessions with and without a faulty body -/

/-- A frame that is offered behind `k` more messages. -/
def Attempt.later (k : Nat) (attempt : Attempt) : Attempt :=
  { attempt with offer := attempt.offer + k, seq := attempt.seq + k }

/-- An effect behind `k` more messages. -/
def Effect.later (k : Nat) : Effect → Effect
  | .offers attempt => .offers (attempt.later k)
  | effect => effect

theorem Intent.numbered_add (n k : Nat) (intents : List Intent) :
    numbered (n + k) intents = (numbered n intents).map (Effect.later k) := by
  induction intents generalizing n with
  | nil => rfl
  | cons intent intents ih =>
    cases intent with
    | takes body => exact congrArg _ (ih n)
    | calls operation => exact congrArg _ (ih n)
    | sends origin message =>
      have hnext : n + k + 1 = n + 1 + k := by omega
      rw [numbered, hnext, ih, numbered, List.map_cons]
      rfl

theorem Effect.delivered?_later (k : Nat) (effect : Effect) :
    (effect.later k).delivered? = effect.delivered?.map (Attempt.later k) := by
  cases effect with
  | offers attempt =>
    have hsame : (attempt.later k).delivered = attempt.delivered := rfl
    rw [later, delivered?, delivered?, hsame]
    split <;> rfl
  | _ => rfl

theorem deliveries_map_later (k : Nat) (effects : List Effect) :
    deliveries (effects.map (Effect.later k)) = (deliveries effects).map (Attempt.later k) := by
  rw [deliveries, deliveries, List.filterMap_map, List.map_filterMap]
  exact congrArg (effects.filterMap ·) (funext (delivered?_later k))

theorem operations_map_later (k : Nat) (effects : List Effect) :
    operations (effects.map (Effect.later k)) = operations effects := by
  have hsame : operation? ∘ later k = operation? := by
    funext effect
    cases effect <;> rfl
  rw [operations, operations, List.filterMap_map, hsame]

namespace Session

variable {σ : Type}

/-- A session without a log over frames in a row, and the session without one of the frames: one
that is read, because the client has not left before it, and whose body is faulty. The
body has one reply, which says so. But for that, both sessions do the same and come to the same
end, whatever stands in the stream behind the frame and however the streams are cut. The
messages behind the reply have numbers that are greater by one. -/
theorem faulty_body_is_inert (debugger : Debugger σ) (settings : LaunchSettings) (state : σ)
    (ending : Frame.Ending) {front frame rest body : Bytes} {before : List Bytes}
    (hfront : Frame.IsStream front before) (hframe : Frame.IsFrame frame body)
    (hread : ∀ earlier ∈ before, leaving? earlier = none) (hfaulty : Faulty settings body)
    {pieces others : List Bytes} (hpieces : pieces.flatten = front ++ (frame ++ rest))
    (hothers : others.flatten = front ++ rest) :
    let whole :=
      run debugger settings (fresh (fun _ => none) .disabled state) (pieces.map .bytes) ending
    let without :=
      run debugger settings (fresh (fun _ => none) .disabled state) (others.map .bytes) ending
    ∃ earlier reply later,
      whole.2 = earlier ++ .takes body :: .offers reply :: later.map (Effect.later 1) ∧
      without.2 = earlier ++ later ∧ taken earlier = before ∧
      reply.delivered = true ∧ reply.isEcho = false ∧
      (∀ adapter : Adapter σ, adapter.Replies debugger settings body reply.message.fields) ∧
      deliveries whole.2 =
        deliveries earlier ++ reply :: (deliveries later).map (Attempt.later 1) ∧
      deliveries without.2 = deliveries earlier ++ deliveries later ∧
      operations whole.2 = operations without.2 ∧
      whole.1.adapter.exiting = without.1.adapter.exiting ∧
      whole.1.result = without.1.result := by
  intro whole without
  have hframed : Frame.IsStream frame [body] := by simpa using Frame.IsStream.cons hframe .nil
  have hbodies : Frame.bodies pieces.flatten ending =
      before ++ body :: Frame.bodies rest ending := by
    rw [hpieces, Frame.bodies_append_of_isStream hfront, Frame.bodies_append_of_isStream hframed]
    rfl
  have hbodies' : Frame.bodies others.flatten ending = before ++ Frame.bodies rest ending := by
    rw [hothers, Frame.bodies_append_of_isStream hfront]
  obtain ⟨intents, last, htaken, hscript⟩ := exists_script_append hread state
  obtain ⟨reply, hreplies, hadds⟩ := hfaulty.exists_script_eq
  let n := (Intent.messages intents).length
  let behind := debugger.script settings last ((Frame.bodies rest ending).map .hears)
  let own : Attempt :=
    { offer := n + 1, seq := n + 1, message := reply, isEcho := false, refusal := none }
  have hwhole : whole.2 = Intent.numbered 0 intents ++
      .takes body :: .offers own :: (Intent.numbered n behind).map (Effect.later 1) := by
    have hrun := run_eq_numbered debugger settings state (pieces.map .bytes) ending
    rw [Arrival.moments_map_bytes, hbodies, List.map_append, hscript, List.map_cons, hadds,
      Intent.numbered_append, Nat.zero_add] at hrun
    rw [← Intent.numbered_add]
    exact hrun
  have hwithout : without.2 = Intent.numbered 0 intents ++ Intent.numbered n behind := by
    have hrun := run_eq_numbered debugger settings state (others.map .bytes) ending
    rwa [Arrival.moments_map_bytes, hbodies', List.map_append, hscript, Intent.numbered_append,
      Nat.zero_add] at hrun
  obtain ⟨-, hexiting, hresult⟩ :=
    run_eq_play debugger settings .disabled state (pieces.map .bytes) ending
  obtain ⟨-, hexiting', hresult'⟩ :=
    run_eq_play debugger settings .disabled state (others.map .bytes) ending
  rw [Arrival.stream_map_bytes, hbodies] at hexiting
  rw [Arrival.stream_map_bytes, hbodies'] at hexiting'
  refine ⟨_, _, _, hwhole, hwithout, (Intent.taken_numbered 0 intents).trans htaken, rfl, rfl,
    hreplies, ?_, ?_, ?_, ?_, hresult.trans hresult'.symm⟩
  · rw [hwhole, deliveries_append, deliveries_cons, deliveries_cons, deliveries_map_later]
    rfl
  · rw [hwithout, deliveries_append]
  · rw [hwhole, hwithout, operations_append, operations_append, operations_cons, operations_cons,
      operations_map_later]
    rfl
  · -- the client does not leave with a body that is faulty
    have hstays := hfaulty.leaving?_eq_none
    rw [hexiting, hexiting', List.findSome?_append, List.findSome?_append, List.findSome?_cons,
      hstays]

/-- A client that says of the program what is neither true nor false does not leave. -/
theorem faulty_body_is_inert_wrong_argument :
    let first := Utf8.encode "1"
    let body := Utf8.encode
      "\x7b\"seq\":2,\"command\":\"disconnect\",\"arguments\":\x7b\"terminateDebuggee\":0\x7d\x7d"
    let pieces := [Frame.encode first, Frame.encode body, Frame.encode first]
    let others := [Frame.encode first, Frame.encode first]
    let session : Session Unit := fresh (fun _ => none) .disabled ()
    let whole := run (.unable .notImplemented) {} session (pieces.map .bytes) .closed
    let without := run (.unable .notImplemented) {} session (others.map .bytes) .closed
    Frame.IsStream (Frame.encode first) [first] ∧ Frame.IsFrame (Frame.encode body) body ∧
      (∀ earlier ∈ [first], leaving? earlier = none) ∧ Faulty {} body ∧
      operations whole.2 = operations without.2 ∧
      (deliveries whole.2).length = (deliveries without.2).length + 1 ∧
      whole.1.adapter.exiting = without.1.adapter.exiting := by
  intro first body pieces others session whole without
  have hfront : Frame.IsStream (Frame.encode first) [first] := by
    simpa using Frame.IsStream.cons (Frame.isFrame_encode (by decide)) .nil
  have hframe : Frame.IsFrame (Frame.encode body) body :=
    Frame.isFrame_encode (by decide +kernel)
  have hread : ∀ earlier ∈ [first], leaving? earlier = none := by decide
  let request : Request :=
    { seq := 2, command := "disconnect", arguments := .object [("terminateDebuggee", .int 0)] }
  have hdecode : Request.decode body = .ok request := by decide +kernel
  have hname : Command.ofName? request.command = some .disconnect := by decide
  have hstays : request.leaving? = none := by decide
  obtain ⟨found, hrefused⟩ := Command.disconnectAction_of_refused rfl hstays
  have haction : Command.disconnect.action {} 0 ⟨request.arguments⟩ =
      .error (.mismatch "terminateDebuggee" .boolean found) := hrefused
  have hfaulty : Faulty {} body := .unacceptable hdecode hname haction
  have hpieces : pieces.flatten =
      Frame.encode first ++ (Frame.encode body ++ Frame.encode first) := by simp [pieces]
  have hothers : others.flatten = Frame.encode first ++ Frame.encode first := by simp [others]
  obtain ⟨earlier, reply, later, -, -, -, -, -, -, hwhole, hwithout, hoperations, hexiting, -⟩ :=
    faulty_body_is_inert (.unable .notImplemented) {} () .closed hfront hframe hread hfaulty hpieces
      hothers
  refine ⟨hfront, hframe, hread, hfaulty, hoperations, ?_, hexiting⟩
  have hlength : (deliveries whole.2).length =
      (deliveries earlier ++ reply :: (deliveries later).map (Attempt.later 1)).length :=
    congrArg List.length hwhole
  have hlength' : (deliveries without.2).length =
      (deliveries earlier ++ deliveries later).length := congrArg List.length hwithout
  rw [hlength, hlength']
  simp
  omega

end Session

end DebugAdapter
