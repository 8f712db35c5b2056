import DebugAdapter.Proofs.Adapter.Reaction
import DebugAdapter.Session

/-!
# Sessions body by body

A session that serves a body handles it and then either goes on or is concluded, because the answer
cannot be sent or because the client has left.
-/

namespace DebugAdapter.Session

variable {σ : Type} (debugger : Debugger σ) (settings : LaunchSettings)

section Serve

variable {debugger settings} {body : Bytes}

theorem conclude_of_exiting (debugger : Debugger σ) (session : Session σ)
    (h : session.adapter.exiting = true) (result : Except SessionError Unit) :
    session.conclude debugger result = ({ session with result := some result }, []) := by
  rw [conclude, if_pos h]

theorem conclude_of_staying (debugger : Debugger σ) (session : Session σ)
    (h : session.adapter.exiting = false) (result : Except SessionError Unit) :
    session.conclude debugger result =
      ({ session with
          adapter := (session.adapter.perform debugger (.disconnect .default)).1
          result := some result },
        (session.adapter.perform debugger (.disconnect .default)).2.1) := by
  rw [conclude, if_neg (by rw [h]; decide)]

@[simp]
theorem conclude_exiting (debugger : Debugger σ) (session : Session σ)
    (result : Except SessionError Unit) :
    (session.conclude debugger result).1.adapter.exiting = session.adapter.exiting := by
  cases h : session.adapter.exiting with
  | true => rw [conclude_of_exiting debugger session h, h]
  | false => rw [conclude_of_staying debugger session h, Adapter.perform_exiting, h]

theorem result_conclude (debugger : Debugger σ) (session : Session σ)
    (result : Except SessionError Unit) :
    (session.conclude debugger result).1.result = some result := by
  cases h : session.adapter.exiting with
  | true => rw [conclude_of_exiting debugger session h]
  | false => rw [conclude_of_staying debugger session h]

/-- A body with an answer that cannot be sent ends the session. -/
theorem serve_of_refused (session : Session σ) {error : SessionError}
    (h : (session.adapter.handle debugger settings body).2.2 = .error error) :
    session.serve debugger settings body =
      let handled : Session σ :=
        { session with adapter := (session.adapter.handle debugger settings body).1 }
      ((handled.conclude debugger (.error error)).1,
        (session.adapter.handle debugger settings body).2.1 ++
          (handled.conclude debugger (.error error)).2) := by
  simp only [serve, h]

/-- A body with which the client leaves ends the session. -/
theorem serve_of_leaving (session : Session σ) {seq : Nat}
    (h : (session.adapter.handle debugger settings body).2.2 = .ok seq)
    (hexiting : (session.adapter.handle debugger settings body).1.exiting = true) :
    session.serve debugger settings body =
      ({ session with
          adapter := (session.adapter.handle debugger settings body).1
          result := some (.ok ()) },
        (session.adapter.handle debugger settings body).2.1) := by
  simp only [serve, h, hexiting, if_true]
  rw [conclude_of_exiting debugger _ hexiting, List.append_nil]

/-- Any other body leaves the session as open as it was. -/
theorem serve_of_staying (session : Session σ) {seq : Nat}
    (h : (session.adapter.handle debugger settings body).2.2 = .ok seq)
    (hexiting : (session.adapter.handle debugger settings body).1.exiting = false) :
    session.serve debugger settings body =
      ({ session with adapter := (session.adapter.handle debugger settings body).1 },
        (session.adapter.handle debugger settings body).2.1) := by
  simp only [serve, h, hexiting, Bool.false_eq_true, if_false]

variable (debugger settings)

/-- There are two ways to serve a body: the session goes on, or it is concluded behind the
effects of the body. -/
theorem serve_cases (session : Session σ) (body : Bytes) :
    let handled : Session σ :=
      { session with adapter := (session.adapter.handle debugger settings body).1 }
    (handled.adapter.exiting = false ∧
      session.serve debugger settings body =
        (handled, (session.adapter.handle debugger settings body).2.1)) ∨
    ∃ result, session.serve debugger settings body =
      ((handled.conclude debugger result).1,
        (session.adapter.handle debugger settings body).2.1 ++
          (handled.conclude debugger result).2) := by
  intro handled
  cases hresult : (session.adapter.handle debugger settings body).2.2 with
  | error error => exact .inr ⟨.error error, serve_of_refused session hresult⟩
  | ok seq =>
    cases hexiting : handled.adapter.exiting with
    | false => exact .inl ⟨rfl, serve_of_staying session hresult hexiting⟩
    | true =>
      refine .inr ⟨.ok (), ?_⟩
      rw [serve_of_leaving session hresult hexiting, conclude_of_exiting debugger handled hexiting,
        List.append_nil]

theorem conclude_reader (session : Session σ) (reader : Frame.Reader)
    (result : Except SessionError Unit) :
    ({ session with reader } : Session σ).conclude debugger result =
      ({ (session.conclude debugger result).1 with reader },
        (session.conclude debugger result).2) := by
  cases h : session.adapter.exiting with
  | true => simp only [conclude_of_exiting, h]
  | false => simp only [conclude_of_staying, h]

/-- The reader has no part in how a body is served. -/
theorem serve_reader (session : Session σ) (reader : Frame.Reader) (body : Bytes) :
    ({ session with reader } : Session σ).serve debugger settings body =
      ({ (session.serve debugger settings body).1 with reader },
        (session.serve debugger settings body).2) := by
  cases h : (session.adapter.handle debugger settings body).2.2 with
  | error error =>
    have hconclude := conclude_reader debugger
      { session with adapter := (session.adapter.handle debugger settings body).1 } reader
      (.error error)
    rw [serve_of_refused session h, serve_of_refused { session with reader } h]
    simp only [hconclude]
  | ok seq =>
    cases hexiting : (session.adapter.handle debugger settings body).1.exiting with
    | true =>
      rw [serve_of_leaving session h hexiting, serve_of_leaving { session with reader } h hexiting]
    | false =>
      rw [serve_of_staying session h hexiting, serve_of_staying { session with reader } h hexiting]

end Serve

section Effects

open Effect

variable (session : Session σ)

@[simp]
theorem operations_raise (event : Event) :
    operations (session.raise event).2.1 = [] :=
  Channel.operations_send _ _

@[simp]
theorem taken_raise (event : Event) :
    taken (session.raise event).2.1 = [] :=
  Channel.taken_send _ _

@[simp]
theorem taken_conclude (result : Except SessionError Unit) :
    taken (session.conclude debugger result).2 = [] := by
  cases h : session.adapter.exiting with
  | true => rw [conclude_of_exiting debugger session h, taken_nil]
  | false => rw [conclude_of_staying debugger session h, Adapter.taken_perform]

@[simp]
theorem taken_serve (body : Bytes) : taken (session.serve debugger settings body).2 = [body] := by
  rcases session.serve_cases debugger settings body with ⟨-, hserve⟩ | ⟨result, hserve⟩
  · rw [hserve, Adapter.taken_handle]
  · rw [hserve, taken_append, Adapter.taken_handle, taken_conclude, List.append_nil]

end Effects

end DebugAdapter.Session
