import DebugAdapter.Proofs.Session.Script

/-!
# Sessions on channels that act alike

All that a session learns from its channel is whether a reply was sent. So sessions on channels that
act alike do the same, up to a rule for each effect.
-/

namespace DebugAdapter

variable {σ : Type}

/-- Whatever channels `R` relates, the second does for each intent what the first does, up to what
`turn` makes of an effect, and a message has the same result on both. -/
structure Channel.Mimics (turn : Effect → List Effect) (R : Channel → Channel → Prop) : Prop where
  act : ∀ {channel other : Channel}, R channel other → ∀ intent,
    R (channel.act intent).1 (other.act intent).1 ∧
      (other.act intent).2 = (channel.act intent).2.flatMap turn
  result : ∀ {channel other : Channel}, R channel other → ∀ message,
    (other.send message).2.2 = (channel.send message).2.2

/-- Two adapters that differ in their channels only, and these are related. -/
structure Adapter.Alike (R : Channel → Channel → Prop) (adapter other : Adapter σ) : Prop where
  channel : R adapter.channel other.channel
  debugger : other.debugger = adapter.debugger
  exiting : other.exiting = adapter.exiting

/-- Two sessions that are in the same place with adapters that are alike. -/
structure Session.Alike (R : Channel → Channel → Prop) (session other : Session σ) : Prop where
  adapter : Adapter.Alike R session.adapter other.adapter
  result : other.result = session.result

namespace Channel.Mimics

variable {turn : Effect → List Effect} {R : Channel → Channel → Prop} (mimics : Mimics turn R)
include mimics

theorem play {channel other : Channel} (h : R channel other) (intents : List Intent) :
    R (channel.play intents).1 (other.play intents).1 ∧
      (other.play intents).2 = (channel.play intents).2.flatMap turn := by
  induction intents generalizing channel other with
  | nil => exact ⟨h, rfl⟩
  | cons intent intents ih =>
    obtain ⟨hact, hfirst⟩ := mimics.act h intent
    obtain ⟨hplay, hothers⟩ := ih hact
    refine ⟨hplay, ?_⟩
    rw [Channel.play, Channel.play, List.flatMap_append, hfirst, hothers]

variable (debugger : Debugger σ) (settings : LaunchSettings)

section Adapter

variable {adapter other : Adapter σ} (h : Adapter.Alike R adapter other)
include h

theorem perform (operation : Operation) :
    Adapter.Alike R (adapter.perform debugger operation).1
        (other.perform debugger operation).1 ∧
      (other.perform debugger operation).2.1 =
        (adapter.perform debugger operation).2.1.flatMap turn := by
  obtain ⟨hchannel, heffects⟩ := mimics.play h.channel (.calls operation ::
    (debugger.perform adapter.debugger operation).events.map (.raises .debugger))
  rw [Adapter.perform_eq_play, Adapter.perform_eq_play, h.debugger]
  exact ⟨⟨hchannel, rfl, h.exiting⟩, heffects⟩

/-- A body is handled alike, and its reply is sent with the same result. -/
theorem handle (body : Bytes) :
    Adapter.Alike R (adapter.handle debugger settings body).1
        (other.handle debugger settings body).1 ∧
      (other.handle debugger settings body).2.1 =
        (adapter.handle debugger settings body).2.1.flatMap turn ∧
      (other.handle debugger settings body).2.2 =
        (adapter.handle debugger settings body).2.2 := by
  let reaction := debugger.answer settings adapter.debugger body
  obtain ⟨hplayed, hfirst⟩ := mimics.play h.channel (.takes body :: reaction.conduct)
  obtain ⟨hreplied, hlast⟩ := mimics.act hplayed (.sends .adapter reaction.result)
  have hresult := mimics.result hplayed reaction.result
  rw [Adapter.handle_eq_play, Adapter.handle_eq_play, h.debugger, h.exiting]
  refine ⟨⟨hreplied, rfl, rfl⟩, ?_, hresult⟩
  rw [List.flatMap_append]
  exact congrArg₂ (· ++ ·) hfirst hlast

end Adapter

section Session

variable {session other : Session σ} (h : Session.Alike R session other)
include h

theorem conclude (result : Except SessionError Unit) :
    Session.Alike R (session.conclude debugger result).1 (other.conclude debugger result).1 ∧
      (other.conclude debugger result).2 = (session.conclude debugger result).2.flatMap turn := by
  have hexiting := h.adapter.exiting
  cases hsession : session.adapter.exiting with
  | true =>
    rw [Session.conclude_of_exiting debugger session hsession,
      Session.conclude_of_exiting debugger other (hexiting.trans hsession)]
    exact ⟨⟨h.adapter, rfl⟩, rfl⟩
  | false =>
    rw [Session.conclude_of_staying debugger session hsession,
      Session.conclude_of_staying debugger other (hexiting.trans hsession)]
    obtain ⟨hadapter, heffects⟩ := mimics.perform debugger h.adapter (.disconnect .default)
    exact ⟨⟨hadapter, rfl⟩, heffects⟩

theorem serve (body : Bytes) :
    Session.Alike R (session.serve debugger settings body).1
        (other.serve debugger settings body).1 ∧
      (other.serve debugger settings body).2 =
        (session.serve debugger settings body).2.flatMap turn := by
  obtain ⟨hadapter, heffects, hsent⟩ := mimics.handle debugger settings h.adapter body
  cases hresult : (session.adapter.handle debugger settings body).2.2 with
  | error error =>
    -- the reply is sent on neither channel, and both sessions are concluded
    let handled : Session σ :=
      { session with adapter := (session.adapter.handle debugger settings body).1 }
    let handledOther : Session σ :=
      { other with adapter := (other.adapter.handle debugger settings body).1 }
    have hhandled : Session.Alike R handled handledOther := ⟨hadapter, h.result⟩
    obtain ⟨hends, hlast⟩ := mimics.conclude debugger hhandled (.error error)
    rw [Session.serve_of_refused session hresult,
      Session.serve_of_refused other (hsent.trans hresult)]
    refine ⟨hends, ?_⟩
    rw [List.flatMap_append]
    exact congrArg₂ (· ++ ·) heffects hlast
  | ok seq =>
    cases hexiting : (session.adapter.handle debugger settings body).1.exiting with
    | true =>
      rw [Session.serve_of_leaving session hresult hexiting,
        Session.serve_of_leaving other (hsent.trans hresult) (hadapter.exiting.trans hexiting)]
      exact ⟨⟨hadapter, rfl⟩, heffects⟩
    | false =>
      rw [Session.serve_of_staying session hresult hexiting,
        Session.serve_of_staying other (hsent.trans hresult) (hadapter.exiting.trans hexiting)]
      exact ⟨⟨hadapter, h.result⟩, heffects⟩

theorem meet (moment : Moment) :
    Session.Alike R (session.meet debugger settings moment).1
        (other.meet debugger settings moment).1 ∧
      (other.meet debugger settings moment).2 =
        (session.meet debugger settings moment).2.flatMap turn := by
  cases moment with
  | raises event =>
    obtain ⟨hchannel, heffects⟩ := mimics.act h.adapter.channel (.raises .outside event)
    exact ⟨⟨⟨hchannel, h.adapter.debugger, h.adapter.exiting⟩, h.result⟩, heffects⟩
  | hears body =>
    rw [Session.meet, Session.meet, h.result]
    split
    · exact ⟨h, rfl⟩
    · exact mimics.serve debugger settings h body

theorem experience (moments : List Moment) :
    Session.Alike R (session.experience debugger settings moments).1
        (other.experience debugger settings moments).1 ∧
      (other.experience debugger settings moments).2 =
        (session.experience debugger settings moments).2.flatMap turn := by
  induction moments generalizing session other with
  | nil =>
    rw [Session.experience_nil, Session.experience_nil, Session.settle, Session.settle, h.result]
    split
    · exact ⟨h, rfl⟩
    · exact mimics.conclude debugger h (.ok ())
  | cons moment moments ih =>
    obtain ⟨hmeet, hfirst⟩ := mimics.meet debugger settings h moment
    obtain ⟨hlast, hothers⟩ := ih hmeet
    rw [Session.experience_cons, Session.experience_cons]
    refine ⟨hlast, ?_⟩
    rw [List.flatMap_append, hfirst, hothers]

/-- Two sessions that are alike and begin with the same reader stay alike over any stream. -/
theorem run (hreader : other.reader = session.reader) (arrivals : List Arrival)
    (ending : Frame.Ending) :
    Session.Alike R (session.run debugger settings arrivals ending).1
        (other.run debugger settings arrivals ending).1 ∧
      (other.run debugger settings arrivals ending).2 =
        (session.run debugger settings arrivals ending).2.flatMap turn := by
  obtain ⟨heffects, reader, hlast⟩ :=
    Session.run_eq_experience debugger settings session arrivals ending
  obtain ⟨hother, reader', hlast'⟩ :=
    Session.run_eq_experience debugger settings other arrivals ending
  obtain ⟨halike, hturn⟩ := mimics.experience debugger settings h
    (Arrival.moments ending session.reader arrivals)
  rw [hreader] at hother hlast'
  rw [heffects, hother, hlast, hlast']
  exact ⟨⟨halike.adapter, halike.result⟩, hturn⟩

end Session

end Channel.Mimics

end DebugAdapter
