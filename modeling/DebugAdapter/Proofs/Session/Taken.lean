import DebugAdapter.Proofs.Adapter.Leaving
import DebugAdapter.Proofs.Session.Moment

/-!
# Bodies that are taken up

A session takes up the bodies of its stream one after another, until the client leaves with one,
the reply to one is refused, or none is left.
-/

namespace DebugAdapter

open Effect

/-- The bodies up to the one with which the client leaves, or all of them. -/
def untilLeaving : List Bytes → List Bytes
  | [] => []
  | body :: bodies => if (leaving? body).isSome then [body] else body :: untilLeaving bodies

theorem untilLeaving_of_leaving {body : Bytes} (h : (leaving? body).isSome)
    (bodies : List Bytes) : untilLeaving (body :: bodies) = [body] := by
  rw [untilLeaving, if_pos h]

theorem untilLeaving_of_staying {body : Bytes} (h : leaving? body = none) (bodies : List Bytes) :
    untilLeaving (body :: bodies) = body :: untilLeaving bodies := by
  rw [untilLeaving, if_neg (by simp [h])]

/-- The first body is always one of them. -/
theorem exists_untilLeaving_cons (body : Bytes) (bodies : List Bytes) :
    ∃ others, untilLeaving (body :: bodies) = body :: others := by
  rw [untilLeaving]
  split
  · exact ⟨[], rfl⟩
  · exact ⟨untilLeaving bodies, rfl⟩

namespace Adapter

variable {σ : Type} (adapter : Adapter σ) (effects : List Effect)

theorem taken_raise_append (event : Event) :
    taken ((adapter.raise event).2.1 ++ effects) = taken effects := by
  rw [taken_append, raise, send, Channel.taken_send, List.nil_append]

theorem taken_handle_append (debugger : Debugger σ) (settings : LaunchSettings) (body : Bytes) :
    taken ((adapter.handle debugger settings body).2.1 ++ effects) = body :: taken effects := by
  rw [taken_append, taken_handle, List.singleton_append]

end Adapter

namespace Session

variable {σ : Type} (debugger : Debugger σ) (settings : LaunchSettings)

/-- How an adapter takes up bodies, what it does meanwhile, and how that ends. -/
inductive TakesUp :
    Adapter σ → List Bytes → List Effect → Except SessionError Unit → Prop where
  /-- No body is left. -/
  | done {adapter : Adapter σ} {rest : List Effect} (idle : taken rest = []) :
      TakesUp adapter [] rest (.ok ())
  /-- An event comes from outside. -/
  | raises {adapter : Adapter σ} {bodies : List Bytes} {effects : List Effect}
      {result : Except SessionError Unit} (event : Event)
      (rest : TakesUp (adapter.raise event).1 bodies effects result) :
      TakesUp adapter bodies ((adapter.raise event).2.1 ++ effects) result
  /-- A body is answered, and the client stays. -/
  | stays {adapter : Adapter σ} {body : Bytes} {bodies : List Bytes} {effects : List Effect}
      {result : Except SessionError Unit} {seq : Nat}
      (answered : (adapter.handle debugger settings body).2.2 = .ok seq)
      (stays : leaving? body = none)
      (rest : TakesUp (adapter.handle debugger settings body).1 bodies effects result) :
      TakesUp adapter (body :: bodies)
        ((adapter.handle debugger settings body).2.1 ++ effects) result
  /-- A body is answered, and the client leaves with it. -/
  | leaves {adapter : Adapter σ} {body : Bytes} {rest : List Effect} {seq : Nat}
      (bodies : List Bytes)
      (answered : (adapter.handle debugger settings body).2.2 = .ok seq)
      (leaves : (leaving? body).isSome) (idle : taken rest = []) :
      TakesUp adapter (body :: bodies)
        ((adapter.handle debugger settings body).2.1 ++ rest) (.ok ())
  /-- The reply to a body is refused. -/
  | refused {adapter : Adapter σ} {body : Bytes} {rest : List Effect} {error : SessionError}
      (bodies : List Bytes)
      (refused : (adapter.handle debugger settings body).2.2 = .error error)
      (idle : taken rest = []) :
      TakesUp adapter (body :: bodies)
        ((adapter.handle debugger settings body).2.1 ++ rest) (.error error)

namespace TakesUp

variable {debugger settings} {adapter : Adapter σ} {bodies : List Bytes} {effects : List Effect}
  {result : Except SessionError Unit}

/-- The bodies that are taken up come first among these, and if no reply is refused, they are all
of them. -/
theorem exists_missed (h : TakesUp debugger settings adapter bodies effects result) :
    ∃ missed, untilLeaving bodies = taken effects ++ missed ∧ (result = .ok () → missed = []) := by
  induction h with
  | done idle => exact ⟨[], by rw [idle]; rfl, fun _ => rfl⟩
  | raises event _ ih =>
    rw [Adapter.taken_raise_append]
    exact ih
  | stays _ stays _ ih =>
    obtain ⟨missed, hmissed, hall⟩ := ih
    refine ⟨missed, ?_, hall⟩
    rw [untilLeaving_of_staying stays, hmissed, Adapter.taken_handle_append, List.cons_append]
  | leaves bodies _ leaves idle =>
    refine ⟨[], ?_, fun _ => rfl⟩
    rw [untilLeaving_of_leaving leaves, Adapter.taken_handle_append, idle, List.append_nil]
  | @refused adapter body rest error bodies _ idle =>
    obtain ⟨missed, hmissed⟩ := exists_untilLeaving_cons body bodies
    refine ⟨missed, ?_, by simp⟩
    rw [hmissed, Adapter.taken_handle_append, idle, List.singleton_append]

/-- If a reply is refused, it is the one to the last body that is taken up. -/
theorem exists_last (h : TakesUp debugger settings adapter bodies effects result)
    {error : SessionError} (hresult : result = .error error) :
    ∃ front body refusing, taken effects = front ++ [body] ∧
      (Adapter.handle debugger settings refusing body).2.2 = .error error := by
  induction h with
  | done idle => cases hresult
  | raises event _ ih =>
    rw [Adapter.taken_raise_append]
    exact ih hresult
  | @stays adapter body _ _ _ _ _ _ _ ih =>
    obtain ⟨front, last, refusing, hfront, hrefused⟩ := ih hresult
    refine ⟨body :: front, last, refusing, ?_, hrefused⟩
    rw [Adapter.taken_handle_append, hfront, List.cons_append]
  | leaves _ _ _ _ => cases hresult
  | @refused adapter body _ _ _ refused idle =>
    cases hresult
    refine ⟨[], body, adapter, ?_, refused⟩
    rw [Adapter.taken_handle_append, idle, List.nil_append]

end TakesUp

/-! ## Sessions -/

/-- There are three ways to serve a body if the client has not left before. -/
theorem serve_ways {session : Session σ} (hexiting : session.adapter.exiting = false)
    (body : Bytes) :
    let handled := session.adapter.handle debugger settings body
    let next : Session σ := { session with adapter := handled.1 }
    (∃ seq, handled.2.2 = .ok seq ∧ leaving? body = none ∧ handled.1.exiting = false ∧
      session.serve debugger settings body = (next, handled.2.1)) ∨
    (∃ seq, handled.2.2 = .ok seq ∧ (leaving? body).isSome ∧
      session.serve debugger settings body =
        ({ next with result := some (.ok ()) }, handled.2.1)) ∨
    ∃ error, handled.2.2 = .error error ∧
      session.serve debugger settings body =
        ((next.conclude debugger (.error error)).1,
          handled.2.1 ++ (next.conclude debugger (.error error)).2) := by
  intro handled next
  have hleaves : handled.1.exiting = (leaving? body).isSome := by
    simp only [handled, Adapter.handle_exiting, hexiting, Debugger.answer_leaves, Bool.false_or]
  cases hresult : handled.2.2 with
  | error error => exact .inr (.inr ⟨error, rfl, serve_of_refused session hresult⟩)
  | ok seq =>
    cases hleaving : leaving? body with
    | none =>
      rw [hleaving, Option.isSome_none] at hleaves
      exact .inl ⟨seq, rfl, rfl, hleaves, serve_of_staying session hresult hleaves⟩
    | some what =>
      rw [hleaving, Option.isSome_some] at hleaves
      exact .inr (.inl ⟨seq, rfl, rfl, serve_of_leaving session hresult hleaves⟩)

/-- Behind the body that ends a session nothing is taken up. -/
theorem idle_experience_of_over {session : Session σ} {result : Except SessionError Unit}
    (h : session.result = some result) (moments : List Moment) :
    (session.experience debugger settings moments).1.result = some result ∧
      taken (session.experience debugger settings moments).2 = [] := by
  have hover : session.result.isSome := by rw [h]; rfl
  rw [experience_of_over debugger settings hover]
  exact ⟨h, Channel.taken_raiseAll _ _⟩

/-- A session that is open takes up bodies of its moments and comes to an end. -/
theorem takesUp_experience {session : Session σ} (hopen : session.result = none)
    (hexiting : session.adapter.exiting = false) (moments : List Moment) :
    let last := session.experience debugger settings moments
    ∃ result, last.1.result = some result ∧
      TakesUp debugger settings session.adapter (Moment.bodies moments) last.2 result := by
  induction moments generalizing session with
  | nil =>
    rw [experience_nil, settle_of_open hopen]
    exact ⟨.ok (), result_conclude debugger session _, .done (taken_conclude debugger session _)⟩
  | cons moment moments ih =>
    rw [experience_cons]
    cases moment with
    | raises event =>
      have hraised : (session.raise event).1.result = none := hopen
      obtain ⟨result, hresult, hrest⟩ := ih hraised hexiting
      exact ⟨result, hresult, .raises event hrest⟩
    | hears body =>
      rw [meet_hears_of_open hopen]
      let next : Session σ :=
        { session with adapter := (session.adapter.handle debugger settings body).1 }
      rcases serve_ways debugger settings hexiting body with
        ⟨seq, hanswered, hstays, hgoes, hserve⟩ | ⟨seq, hanswered, hleaves, hserve⟩ |
          ⟨error, hrefused, hserve⟩
      · have hnext : next.result = none := hopen
        obtain ⟨result, hresult, hrest⟩ := ih hnext hgoes
        rw [hserve]
        exact ⟨result, hresult, .stays hanswered hstays hrest⟩
      · have hleft : ({ next with result := some (.ok ()) } : Session σ).result = some (.ok ()) := rfl
        obtain ⟨hresult, hidle⟩ := idle_experience_of_over debugger settings hleft moments
        rw [hserve]
        exact ⟨.ok (), hresult, .leaves _ hanswered hleaves hidle⟩
      · -- disconnecting the debugger takes up nothing
        have hlast := result_conclude debugger next (.error error)
        obtain ⟨hresult, hidle⟩ := idle_experience_of_over debugger settings hlast moments
        rw [hserve, List.append_assoc]
        refine ⟨.error error, hresult, .refused _ hrefused ?_⟩
        rw [taken_append, taken_conclude, hidle]
        rfl

/-- A session that begins takes up bodies of its stream and comes to an end. -/
theorem takesUp_run (channel : Channel) (state : σ) (arrivals : List Arrival)
    (ending : Frame.Ending) :
    let adapter : Adapter σ := { channel, debugger := state }
    let run := run debugger settings { adapter } arrivals ending
    ∃ result, run.1.result = some result ∧
      TakesUp debugger settings adapter (Frame.bodies (Arrival.stream arrivals) ending) run.2
        result := by
  intro adapter run
  obtain ⟨heffects, reader, hlast⟩ :=
    run_eq_experience debugger settings { adapter } arrivals ending
  have hopen : ({ adapter } : Session σ).result = none := rfl
  obtain ⟨result, hresult, htakes⟩ :=
    takesUp_experience debugger settings hopen rfl (Arrival.moments ending .start arrivals)
  rw [Arrival.bodies_moments] at htakes
  refine ⟨result, ?_, ?_⟩
  · simp only [run]
    rw [hlast]
    exact hresult
  · simp only [run]
    rw [heffects]
    exact htakes

/-- The bodies that a session takes up are the first ones of its stream, up to the one with which
the client leaves at most. A session takes up all of these, unless the reply to one is refused, and
that one is the last. -/
theorem taken_run (channel : Channel) (state : σ) (arrivals : List Arrival)
    (ending : Frame.Ending) :
    let run := run debugger settings { adapter := { channel, debugger := state } } arrivals ending
    let bodies := untilLeaving (Frame.bodies (Arrival.stream arrivals) ending)
    taken run.2 <+: bodies ∧ (run.1.result = some (.ok ()) → taken run.2 = bodies) ∧
      ∀ error, run.1.result = some (.error error) →
        ∃ front body refusing, taken run.2 = front ++ [body] ∧
          (Adapter.handle debugger settings refusing body).2.2 = .error error := by
  intro run bodies
  obtain ⟨result, hresult, htakes⟩ := takesUp_run debugger settings channel state arrivals ending
  obtain ⟨missed, hmissed, hall⟩ := htakes.exists_missed
  refine ⟨⟨missed, hmissed.symm⟩, fun hok => ?_, fun error herror => ?_⟩
  · have hnone : missed = [] := hall (Option.some.inj (hresult.symm.trans hok))
    rw [hnone, List.append_nil] at hmissed
    exact hmissed.symm
  · exact htakes.exists_last (Option.some.inj (hresult.symm.trans herror))

end Session

end DebugAdapter
