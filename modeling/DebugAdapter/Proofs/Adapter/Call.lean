import DebugAdapter.Proofs.Adapter.Dispatch

/-!
# Commands as calls of the debugger

A command whose arguments are acceptable is carried out with one operation, and the client is told
what follows from what the operation ends with.
-/

namespace DebugAdapter.Adapter

open Effect

variable {σ : Type}

/-- A command that was carried out with one operation: the debugger was asked for it and for nothing
else, its state is the one behind it, and the client is told what it ends with. -/
structure Performs (debugger : Debugger σ) (adapter : Adapter σ) (operation : Operation)
    (tell : operation.Outcome → Except Failure Json)
    (dispatched : Adapter σ × List Effect × Except Failure Json) : Prop where
  operations : operations dispatched.2.1 = [operation]
  state : dispatched.1.debugger = (debugger.perform adapter.debugger operation).state
  result : dispatched.2.2 = tell (debugger.perform adapter.debugger operation).outcome

variable {debugger : Debugger σ} {settings : LaunchSettings} {adapter : Adapter σ}
  {arguments : Json}

theorem dispatch_of_error (command : Command) {error : ArgumentError}
    (h : command.action settings (debugger.currentFrame adapter.debugger) ⟨arguments⟩ =
      .error error) :
    adapter.dispatch debugger settings command.name arguments =
      (adapter, [], .error error.toFailure) := by
  have hname : Command.ofName? command.name = some command := Command.ofName?_eq_some.2 rfl
  simp only [dispatch, hname, h]

theorem performs_dispatch (command : Command) {action : Action}
    (h : command.action settings (debugger.currentFrame adapter.debugger) ⟨arguments⟩ =
      .ok action) :
    Performs debugger adapter action.operation action.body
      (adapter.dispatch debugger settings command.name arguments) := by
  have hname : Command.ofName? command.name = some command := Command.ofName?_eq_some.2 rfl
  have hdispatch : adapter.dispatch debugger settings command.name arguments =
      adapter.carryOut debugger action := by
    simp only [dispatch, hname, h]
  rw [hdispatch]
  exact ⟨by simp [carryOut], rfl, rfl⟩

/-- What comes of a command depends on what it comes to and on nothing else. -/
theorem dispatch_congr (command : Command) {settings' : LaunchSettings} {arguments' : Json}
    (h : command.action settings' (debugger.currentFrame adapter.debugger) ⟨arguments'⟩ =
      command.action settings (debugger.currentFrame adapter.debugger) ⟨arguments⟩) :
    adapter.dispatch debugger settings' command.name arguments' =
      adapter.dispatch debugger settings command.name arguments := by
  have hname : Command.ofName? command.name = some command := Command.ofName?_eq_some.2 rfl
  simp only [dispatch, hname, h]

end DebugAdapter.Adapter
