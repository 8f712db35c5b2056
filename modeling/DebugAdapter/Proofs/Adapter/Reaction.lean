import DebugAdapter.Adapter
import DebugAdapter.Proofs.Channel.Course

/-!
# Reactions

What a request comes to follows from the request and the state of the debugger. The channel only
carries it.
-/

namespace DebugAdapter

variable {σ ρ τ : Type}

/-- All that a request comes to: events in advance, at most one operation, the events that
the debugger raises meanwhile, its state behind it, whether the client leaves, and a result. -/
structure Reaction (σ ρ : Type) where
  announces : List Event := []
  call : Option Operation := none
  raises : List Event := []
  state : σ
  leaves : Bool := false
  result : ρ

/-- A reaction with another result. -/
def Reaction.map (f : ρ → τ) (reaction : Reaction σ ρ) : Reaction σ τ :=
  { reaction with result := f reaction.result }

namespace Debugger

variable (debugger : Debugger σ) (settings : LaunchSettings)

/-- What a command comes to. -/
def react (state : σ) (command : String) (arguments : Json) : Reaction σ (Except Failure Json) :=
  match Command.ofName? command with
  | none => { state, result := .error .notImplemented }
  | some command =>
    match command.action settings (debugger.currentFrame state) ⟨arguments⟩ with
    | .error error => { state, result := .error error.toFailure }
    | .ok action =>
      let performed := debugger.perform state action.operation
      { announces := action.announces
        call := some action.operation
        raises := performed.events
        state := performed.state
        leaves := action.leaves
        result := action.body performed.outcome }

/-- What a body comes to, with the reply as the result. -/
def answer (state : σ) (body : Bytes) : Reaction σ Message :=
  match Request.decode body with
  | .ok request =>
    (debugger.react settings state request.command request.arguments).map
      (.ofResult request.seq request.command)
  | .error rejection => { state, result := Adapter.rejectionMessage rejection }

variable (state : σ) (body : Bytes)

/-- A body for which the debugger is not called raises no events. -/
theorem answer_of_call_eq_none (h : (debugger.answer settings state body).call = none) :
    (debugger.answer settings state body).announces = [] ∧
      (debugger.answer settings state body).raises = [] := by
  unfold answer at h ⊢
  split at h
  · simp only [Reaction.map, react] at h ⊢
    split at h
    · exact ⟨rfl, rfl⟩
    · split at h
      · exact ⟨rfl, rfl⟩
      · cases h
  · exact ⟨rfl, rfl⟩

/-- The events behind the call are those that the debugger raises during the operation. -/
theorem answer_of_call_eq_some {operation : Operation}
    (h : (debugger.answer settings state body).call = some operation) :
    (debugger.answer settings state body).raises = (debugger.perform state operation).events := by
  unfold answer at h ⊢
  split at h
  · simp only [Reaction.map, react] at h ⊢
    split at h
    · cases h
    · split at h
      · cases h
      · cases h
        rfl
  · cases h

end Debugger

namespace Adapter

open Effect

/-- A reaction on its way through the channel of an adapter. -/
def carry (adapter : Adapter σ) (reaction : Reaction σ ρ) : Adapter σ × List Effect :=
  let (channel, announced) := adapter.channel.raiseAll reaction.announces
  let (channel, raised) := channel.raiseAll reaction.raises
  ({ channel, debugger := reaction.state, exiting := adapter.exiting || reaction.leaves },
    announced ++ (reaction.call.toList.map Effect.calls ++ raised))

variable (debugger : Debugger σ) (settings : LaunchSettings)

@[simp]
theorem carry_map (adapter : Adapter σ) (f : ρ → τ) (reaction : Reaction σ ρ) :
    adapter.carry (reaction.map f) = adapter.carry reaction :=
  rfl

theorem carry_result (adapter : Adapter σ) (result : ρ) :
    adapter.carry { state := adapter.debugger, result } = (adapter, []) := by
  simp [carry, Channel.raiseAll]

/-- A command is carried out as the reaction to it. -/
theorem dispatch_eq (adapter : Adapter σ) (command : String) (arguments : Json) :
    adapter.dispatch debugger settings command arguments =
      let reaction := debugger.react settings adapter.debugger command arguments
      ((adapter.carry reaction).1, (adapter.carry reaction).2, reaction.result) := by
  cases hname : Command.ofName? command with
  | none => simp [dispatch, Debugger.react, hname, carry_result]
  | some known =>
    cases haction : known.action settings (debugger.currentFrame adapter.debugger) ⟨arguments⟩ with
    | error error => simp [dispatch, Debugger.react, hname, haction, carry_result]
    | ok action =>
      simp [dispatch, Debugger.react, hname, haction, carryOut, perform, carry]

theorem serve_eq (adapter : Adapter σ) (body : Bytes) :
    adapter.serve debugger settings body =
      let reaction := debugger.answer settings adapter.debugger body
      ((adapter.carry reaction).1, (adapter.carry reaction).2, reaction.result) := by
  cases hdecode : Request.decode body with
  | error rejection => simp [serve, Debugger.answer, hdecode, carry_result]
  | ok request =>
    simp only [serve, Debugger.answer, hdecode, dispatch_eq, carry_map]
    rfl

/-! ## What carrying a reaction does -/

section Carry

variable (adapter : Adapter σ) (reaction : Reaction σ ρ)

@[simp]
theorem carry_debugger : (adapter.carry reaction).1.debugger = reaction.state :=
  rfl

@[simp]
theorem carry_exiting :
    (adapter.carry reaction).1.exiting = (adapter.exiting || reaction.leaves) :=
  rfl

theorem course_carry :
    Channel.Course adapter.channel (adapter.carry reaction).2
      (adapter.carry reaction).1.channel := by
  have hannounced := Channel.Course.raiseAll adapter.channel reaction.announces
  have hraised := Channel.Course.raiseAll (adapter.channel.raiseAll reaction.announces).1
    reaction.raises
  refine hannounced.trans ?_
  cases reaction.call with
  | none => exact hraised
  | some operation => exact .calls operation hraised

@[simp]
theorem operations_carry : operations (adapter.carry reaction).2 = reaction.call.toList := by
  cases h : reaction.call <;> simp [carry, h, operation?]

@[simp]
theorem taken_carry : taken (adapter.carry reaction).2 = [] := by
  cases h : reaction.call <;> simp [carry, h, taken?]

end Carry

/-! ## What handling a body does -/

section Handle

variable (adapter : Adapter σ) (body : Bytes)

/-- A body is noted, the reaction to it is carried, and the reply is sent. -/
theorem handle_eq :
    adapter.handle debugger settings body =
      let noted := adapter.channel.noteInbound (Utf8.decodeLossy body)
      let reaction := debugger.answer settings adapter.debugger body
      let carried := { adapter with channel := noted.1 }.carry reaction
      let replied := carried.1.channel.send reaction.result
      ({ carried.1 with channel := replied.1 },
        .takes body :: (noted.2 ++ carried.2 ++ replied.2.1), replied.2.2) := by
  simp [handle, serve_eq, send]

@[simp]
theorem handle_debugger :
    (adapter.handle debugger settings body).1.debugger =
      (debugger.answer settings adapter.debugger body).state := by
  simp [handle_eq]

@[simp]
theorem handle_exiting :
    (adapter.handle debugger settings body).1.exiting =
      (adapter.exiting || (debugger.answer settings adapter.debugger body).leaves) := by
  simp [handle_eq]

@[simp]
theorem operations_handle :
    operations (adapter.handle debugger settings body).2.1 =
      (debugger.answer settings adapter.debugger body).call.toList := by
  simp [handle_eq, Channel.noteInbound, operation?]

@[simp]
theorem taken_handle : taken (adapter.handle debugger settings body).2.1 = [body] := by
  simp [handle_eq, Channel.noteInbound, taken?]

theorem course_handle :
    Channel.Course adapter.channel (adapter.handle debugger settings body).2.1
      (adapter.handle debugger settings body).1.channel := by
  rw [handle_eq]
  refine .takes body ?_
  have hnoted := Channel.Course.noteInbound adapter.channel (Utf8.decodeLossy body)
  have hcarried := course_carry
    { adapter with channel := (adapter.channel.noteInbound (Utf8.decodeLossy body)).1 }
    (debugger.answer settings adapter.debugger body)
  exact (hnoted.trans hcarried).trans (Channel.Course.send _ _)

end Handle

/-! ## What a single operation does -/

section Perform

variable (adapter : Adapter σ) (operation : Operation)

@[simp]
theorem perform_exiting : (adapter.perform debugger operation).1.exiting = adapter.exiting :=
  rfl

@[simp]
theorem operations_perform :
    operations (adapter.perform debugger operation).2.1 = [operation] := by
  simp [perform, operation?]

@[simp]
theorem taken_perform : taken (adapter.perform debugger operation).2.1 = [] := by
  simp [perform, taken?]

theorem course_perform :
    Channel.Course adapter.channel (adapter.perform debugger operation).2.1
      (adapter.perform debugger operation).1.channel :=
  .calls operation (Channel.Course.raiseAll _ _)

end Perform

end Adapter

end DebugAdapter
