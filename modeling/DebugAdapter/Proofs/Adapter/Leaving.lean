import DebugAdapter.Proofs.Adapter.Dispatch

/-!
# How a client leaves

A client leaves with one command only, and it may say what becomes of the program. No other command
disconnects the debugger or ends the session.
-/

namespace DebugAdapter

/-- What a request says about the program, if the client leaves with it. -/
def Request.leaving? (request : Request) : Option DisconnectAction :=
  if request.command = "disconnect" then
    match (request.arguments.field? "terminateDebuggee").getD .null with
    | .null => some .default
    | .bool true => some .terminate
    | .bool false => some .detach
    | _ => none
  else none

/-- A client cannot leave with a field of the wrong kind. -/
theorem Request.leaving?_eq_none {request : Request} {found : Json}
    (h : request.arguments.field? "terminateDebuggee" = some found) (hnull : found ≠ .null)
    (hbool : ∀ b, found ≠ .bool b) : request.leaving? = none := by
  rw [leaving?, h, Option.getD_some]
  split
  · cases found with
    | null => exact absurd rfl hnull
    | bool b => exact absurd rfl (hbool b)
    | _ => rfl
  · rfl

example : Request.leaving? {
    seq := 3, command := "disconnect",
    arguments := .object [("terminateDebuggee", .string "true")] } = none := by
  decide

/-- What a body says about the program, if it is a request with which the client leaves. -/
def leaving? (body : Bytes) : Option DisconnectAction :=
  match Request.decode body with
  | .ok request => request.leaving?
  | .error _ => none

/-- An action behind which the session goes on. -/
structure Action.Stays (action : Action) : Prop where
  leaves : action.leaves = false
  operation : ∀ what, action.operation ≠ .disconnect what

namespace Command

theorem action_stays {settings : LaunchSettings} {currentFrame : Int64} {args : Arguments}
    {command : Command} (h : command ≠ .disconnect) :
    Gives Action.Stays (command.action settings currentFrame args) := by
  intro action haction
  obtain ⟨hoperation, hleaves, -⟩ :=
    action_faithful settings currentFrame args command action haction
  refine ⟨by simp [hleaves, h], fun what hwhat => h ?_⟩
  rw [← hoperation, hwhat]
  rfl

theorem bool?_eq (args : Arguments) (name : String) :
    args.bool? name =
      match (args.value.field? name).getD .null with
      | .null => .ok none
      | .bool b => .ok (some b)
      | found => .error (.mismatch name .boolean found) := by
  cases hfield : args.value.field? name with
  | none => simp [Arguments.bool?, Arguments.optional, Arguments.get?, hfield]
  | some found =>
    cases found <;>
      simp [Arguments.bool?, Arguments.optional, Arguments.get?, Arguments.convert, hfield,
        Json.asBool?, Option.filter, Functor.map, Except.map]

variable {settings : LaunchSettings} {currentFrame : Int64} {request : Request}
  {what : DisconnectAction}

/-- The command disconnects the debugger as the client says. -/
theorem disconnectAction_of_leaving (h : request.leaving? = some what) :
    request.command = "disconnect" ∧
      disconnectAction ⟨request.arguments⟩ =
        .ok { operation := .disconnect what, body := fun () => .ok emptyBody, leaves := true } := by
  by_cases hname : request.command = "disconnect"
  · refine ⟨hname, ?_⟩
    rw [Request.leaving?, if_pos hname] at h
    rw [disconnectAction, bool?_eq]
    split at h <;> cases h <;> simp only [*] <;> rfl
  · rw [Request.leaving?, if_neg hname] at h
    cases h

/-- The command is refused if the client says something else. -/
theorem disconnectAction_of_refused (hname : request.command = "disconnect")
    (h : request.leaving? = none) :
    ∃ found, disconnectAction ⟨request.arguments⟩ =
      .error (.mismatch "terminateDebuggee" .boolean found) := by
  rw [Request.leaving?, if_pos hname] at h
  rw [disconnectAction, bool?_eq]
  cases hfound : (request.arguments.field? "terminateDebuggee").getD .null with
  | null => simp [hfound] at h
  | bool b => cases b <;> simp [hfound] at h
  | _ => exact ⟨_, rfl⟩

theorem action_of_staying (h : request.leaving? = none) {command : Command}
    (hname : ofName? request.command = some command) :
    Gives Action.Stays (command.action settings currentFrame ⟨request.arguments⟩) := by
  by_cases hcommand : command = .disconnect
  · subst hcommand
    obtain ⟨found, hrefused⟩ := disconnectAction_of_refused (ofName?_eq_some.1 hname).symm h
    intro given hgiven
    rw [action, hrefused] at hgiven
    cases hgiven
  · exact action_stays hcommand

end Command

namespace Debugger

variable {σ : Type} (debugger : Debugger σ) (settings : LaunchSettings) (state : σ) {body : Bytes}

theorem answer_of_leaving {what : DisconnectAction} (h : leaving? body = some what) :
    (debugger.answer settings state body).call = some (.disconnect what) ∧
      (debugger.answer settings state body).leaves = true := by
  cases hdecode : Request.decode body with
  | error rejection => simp [leaving?, hdecode] at h
  | ok request =>
    rw [leaving?, hdecode] at h
    obtain ⟨hcommand, haction⟩ := Command.disconnectAction_of_leaving h
    have hname : Command.ofName? request.command = some .disconnect :=
      Command.ofName?_eq_some.2 hcommand.symm
    simp [answer, react, hdecode, hname, Command.action, haction, Reaction.map]

theorem answer_of_staying (h : leaving? body = none) :
    (∀ what, (debugger.answer settings state body).call ≠ some (.disconnect what)) ∧
      (debugger.answer settings state body).leaves = false := by
  cases hdecode : Request.decode body with
  | error rejection => simp [answer, hdecode]
  | ok request =>
    rw [leaving?, hdecode] at h
    cases hname : Command.ofName? request.command with
    | none => simp [answer, react, hdecode, hname, Reaction.map]
    | some command =>
      have hstays : Gives Action.Stays
          (command.action settings (debugger.currentFrame state) ⟨request.arguments⟩) :=
        Command.action_of_staying h hname
      cases haction : command.action settings (debugger.currentFrame state)
          ⟨request.arguments⟩ with
      | error error => simp [answer, react, hdecode, hname, haction, Reaction.map]
      | ok action =>
        obtain ⟨hleaves, hoperation⟩ := hstays action haction
        simp [answer, react, hdecode, hname, haction, Reaction.map, hleaves, hoperation]

theorem answer_leaves :
    (debugger.answer settings state body).leaves = (leaving? body).isSome := by
  cases h : leaving? body with
  | some what => exact (debugger.answer_of_leaving settings state h).2
  | none => exact (debugger.answer_of_staying settings state h).2

/-- A client that means to leave and is refused changes nothing, and is told so. -/
theorem answer_of_refused {request : Request} (hdecode : Request.decode body = .ok request)
    (hname : request.command = "disconnect") (h : request.leaving? = none) :
    ∃ error : ArgumentError, debugger.answer settings state body =
      { state, result := .ofResult request.seq "disconnect" (.error error.toFailure) } := by
  obtain ⟨found, hrefused⟩ := Command.disconnectAction_of_refused hname h
  have hcommand : Command.ofName? "disconnect" = some .disconnect :=
    Command.ofName?_eq_some.2 rfl
  refine ⟨.mismatch "terminateDebuggee" .boolean found, ?_⟩
  simp only [answer, react, hdecode, hcommand, Command.action, hrefused, Reaction.map, hname]

end Debugger

end DebugAdapter
