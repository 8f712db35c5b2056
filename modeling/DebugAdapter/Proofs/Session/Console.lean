import DebugAdapter.Proofs.Session.Script

/-!
# Sessions that are mirrored on the console

On the client's console the echo of a frame comes behind the frame, and the echo of a body before
anything that the body causes. Echoes take numbers of their own, and that is all they change.
-/

namespace DebugAdapter

/-- A frame that reaches the client as the echo of a line: output on the console. -/
structure Attempt.Echoes (attempt : Attempt) (line : String) : Prop where
  delivered : attempt.delivered = true
  isEcho : attempt.isEcho = true
  message : attempt.message = .event "output"
    (.ofFields [("category", .string "console"), ("output", .string (line ++ "\n"))])

namespace Effect

/-- Effects that are mirrored on the console: behind a body that is taken up comes the echo of its
text, behind a frame that is no echo the echo of what is in the frame, and there are no
other echoes. -/
inductive Mirrored : List Effect → Prop where
  | done : Mirrored []
  | takes {body : Bytes} {echo : Attempt} {effects : List Effect}
      (announces : echo.Echoes (LogLine.ofBody body)) (rest : Mirrored effects) :
      Mirrored (.takes body :: .offers echo :: effects)
  | calls {operation : Operation} {effects : List Effect} (rest : Mirrored effects) :
      Mirrored (.calls operation :: effects)
  | sends {own echo : Attempt} {effects : List Effect} (delivered : own.delivered = true)
      (isEcho : own.isEcho = false) (mirrors : echo.Echoes (LogLine.ofFrame own))
      (rest : Mirrored effects) : Mirrored (.offers own :: .offers echo :: effects)

/-- Whether an effect is an echo. -/
def isEcho : Effect → Bool
  | .offers attempt => attempt.isEcho
  | _ => false

/-- Effects without the echoes. -/
def unechoed (effects : List Effect) : List Effect :=
  effects.filter (!·.isEcho)

/-- Effects whose frames are numbered anew, behind `n` others. -/
def renumbered : Nat → List Effect → List Effect
  | _, [] => []
  | n, .offers attempt :: effects =>
    .offers { attempt with offer := n + 1, seq := n + 1 } :: renumbered (n + 1) effects
  | n, effect :: effects => effect :: renumbered n effects

/-- Whoever does not look at frames sees the same with echoes as without. -/
theorem filterMap_unechoed {α : Type} (see? : Effect → Option α)
    (hoffers : ∀ attempt, see? (.offers attempt) = none) (effects : List Effect) :
    (unechoed effects).filterMap see? = effects.filterMap see? := by
  induction effects with
  | nil => rfl
  | cons effect effects ih =>
    rw [List.filterMap_cons, ← ih, unechoed, List.filter_cons]
    cases effect with
    | offers attempt => cases h : attempt.isEcho <;> simp [unechoed, isEcho, h, hoffers]
    | _ => rfl

theorem filterMap_renumbered {α : Type} (see? : Effect → Option α)
    (hoffers : ∀ attempt, see? (.offers attempt) = none) (n : Nat) (effects : List Effect) :
    (renumbered n effects).filterMap see? = effects.filterMap see? := by
  induction effects generalizing n with
  | nil => rfl
  | cons effect effects ih =>
    rw [List.filterMap_cons]
    cases effect with
    | offers attempt => rw [renumbered, List.filterMap_cons, hoffers, hoffers, ih]
    | _ => rw [← ih n]; rfl

end Effect

namespace Channel

open Effect

variable {channel : Channel}

theorem mirrored_play (h : channel.Reliable) (hconsole : channel.traffic = .console)
    (intents : List Intent) : Mirrored (channel.play intents).2 := by
  induction intents generalizing channel with
  | nil => exact .done
  | cons intent intents ih =>
    rw [play]
    cases intent with
    | takes body =>
      rw [act, noteInbound, note_of_console hconsole]
      exact .takes ⟨h.delivered_offer .., rfl, rfl⟩ (ih h hconsole)
    | calls operation => exact .calls (ih h hconsole)
    | sends origin message =>
      rw [act, send_of_console h hconsole]
      have hown : (channel.offer message false).1.Reliable := h
      exact .sends (h.delivered_offer ..) rfl ⟨hown.delivered_offer .., rfl, rfl⟩ (ih h hconsole)

/-- The numbers of the echoes are all that a log on the console changes. -/
theorem renumbered_unechoed_play (h : channel.Reliable) (hconsole : channel.traffic = .console)
    (n : Nat) (intents : List Intent) :
    renumbered n (unechoed (channel.play intents).2) = Intent.numbered n intents := by
  induction intents generalizing channel n with
  | nil => rfl
  | cons intent intents ih =>
    rw [play]
    cases intent with
    | takes body =>
      let echoed := channel.offer (echo (LogLine.ofBody body)) true
      have hechoed : echoed.1.Reliable := h
      have hrest : renumbered n (unechoed (echoed.1.play intents).2) = Intent.numbered n intents :=
        ih hechoed hconsole n
      rw [act, noteInbound, note_of_console hconsole, Intent.numbered, ← hrest]
      rfl
    | calls operation => exact congrArg _ (ih h hconsole n)
    | sends origin message =>
      -- the echo takes a number as well, but `n` counts the messages only
      let own := channel.offer message false
      let echoed := own.1.offer (echo (LogLine.ofFrame own.2)) true
      have hechoed : echoed.1.Reliable := h
      have hrest : renumbered (n + 1) (unechoed (echoed.1.play intents).2) =
          Intent.numbered (n + 1) intents :=
        ih hechoed hconsole (n + 1)
      have hrefusal : own.2.refusal = none := h _
      rw [act, send_of_console h hconsole, Intent.numbered, ← hrest, ← hrefusal]
      rfl

end Channel

namespace Session

open Effect

/-- A session with a log on the console is mirrored there, and its echoes are all that sets it
apart from the session without a log: without them, and numbered anew, its effects are the same,
and so are what the debugger is asked, what is taken up, whether the client left and the result. -/
theorem mirrored_on_console {σ : Type} (debugger : Debugger σ) (settings : LaunchSettings)
    (state : σ) (arrivals : List Arrival) (ending : Frame.Ending) :
    let console := run debugger settings (fresh (fun _ => none) .console state) arrivals ending
    let plain := run debugger settings (fresh (fun _ => none) .disabled state) arrivals ending
    Mirrored console.2 ∧
      renumbered 0 (unechoed console.2) = plain.2 ∧
      operations console.2 = operations plain.2 ∧
      taken console.2 = taken plain.2 ∧
      console.1.adapter.exiting = plain.1.adapter.exiting ∧
      console.1.result = plain.1.result := by
  intro console plain
  obtain ⟨hconsole, hleft, hresult⟩ :=
    run_eq_play debugger settings .console state arrivals ending
  obtain ⟨-, hplainLeft, hplainResult⟩ :=
    run_eq_play debugger settings .disabled state arrivals ending
  have hplain : plain.2 = _ := run_eq_numbered debugger settings state arrivals ending
  have hsame : renumbered 0 (unechoed console.2) = plain.2 := by
    rw [hconsole, hplain]
    exact Channel.renumbered_unechoed_play (fun _ => rfl) rfl 0 _
  have hseen {α : Type} (see? : Effect → Option α)
      (hoffers : ∀ attempt, see? (.offers attempt) = none) :
      console.2.filterMap see? = plain.2.filterMap see? := by
    rw [← hsame, filterMap_renumbered see? hoffers, filterMap_unechoed see? hoffers]
  refine ⟨?_, hsame, hseen _ fun _ => rfl, hseen _ fun _ => rfl, hleft.trans hplainLeft.symm,
    hresult.trans hplainResult.symm⟩
  rw [hconsole]
  exact Channel.mirrored_play (fun _ => rfl) rfl _

end Session

end DebugAdapter
