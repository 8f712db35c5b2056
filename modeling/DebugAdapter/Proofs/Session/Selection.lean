import DebugAdapter.Proofs.Session.Script

/-!
# Sessions with some events left out

Events of the debugger and from outside may be left out. Nothing that is sent, asked or taken up
depends on them.
-/

namespace DebugAdapter

variable {σ ρ α : Type}

/-! ## Which events are kept -/

/-- A choice of events. Operations, the events of an operation and the events from outside are
counted from one. -/
structure Selection where
  /-- Whether an event is kept that the debugger raises during an operation. -/
  debugger : (operation event : Nat) → Bool
  /-- Whether an event from outside is kept. -/
  outside : (event : Nat) → Bool

namespace Selection

/-- What is kept of a list behind `n` others. -/
def keep (kept : Nat → Bool) : Nat → List α → List α
  | _, [] => []
  | n, a :: as => (if kept (n + 1) then [a] else []) ++ keep kept (n + 1) as

variable (selection : Selection)

/-- A debugger that does all the same but raises only the events that are kept. It
counts its operations. -/
def restrain (debugger : Debugger σ) : Debugger (σ × Nat) where
  perform state operation :=
    let performed := debugger.perform state.1 operation
    { events := keep (selection.debugger (state.2 + 1)) 0 performed.events
      outcome := performed.outcome
      state := (performed.state, state.2 + 1) }
  lastStopped state := debugger.lastStopped state.1
  frameId state := debugger.frameId state.1

/-- A stream with only those events from outside that are kept, behind `n` others. -/
def arrivals : Nat → List Arrival → List Arrival
  | _, [] => []
  | n, .bytes piece :: others => .bytes piece :: arrivals n others
  | n, .event event :: others =>
    (if selection.outside (n + 1) then [.event event] else []) ++ arrivals (n + 1) others

/-- Moments with only those events from outside that are kept, behind `n` others. -/
def moments : Nat → List Moment → List Moment
  | _, [] => []
  | n, .hears body :: others => .hears body :: moments n others
  | n, .raises event :: others =>
    (if selection.outside (n + 1) then [.raises event] else []) ++ moments (n + 1) others

/-- Intents without the events that are left out, behind a number of operations, of events of
the last operation, and of events from outside. -/
def intents : (operations raised outside : Nat) → List Intent → List Intent
  | _, _, _, [] => []
  | operations, raised, outside, .takes body :: others =>
    .takes body :: intents operations raised outside others
  | operations, _, outside, .calls operation :: others =>
    .calls operation :: intents (operations + 1) 0 outside others
  | operations, raised, outside, .sends .adapter message :: others =>
    .sends .adapter message :: intents operations raised outside others
  | operations, raised, outside, .sends .debugger message :: others =>
    (if selection.debugger operations (raised + 1) then [.sends .debugger message] else []) ++
      intents operations (raised + 1) outside others
  | operations, raised, outside, .sends .outside message :: others =>
    (if selection.outside (outside + 1) then [.sends .outside message] else []) ++
      intents operations raised (outside + 1) others

/-! ## Streams -/

@[simp]
theorem stream_arrivals (n : Nat) (stream : List Arrival) :
    Arrival.stream (selection.arrivals n stream) = Arrival.stream stream := by
  induction stream generalizing n with
  | nil => rfl
  | cons arrival others ih =>
    cases arrival with
    | bytes piece => simp [arrivals, Arrival.stream, ih]
    | event event => cases h : selection.outside (n + 1) <;> simp [arrivals, Arrival.stream, ih, h]

theorem moments_hears (n : Nat) (bodies : List Bytes) (others : List Moment) :
    selection.moments n (bodies.map .hears ++ others) =
      bodies.map .hears ++ selection.moments n others := by
  induction bodies with
  | nil => rfl
  | cons body bodies ih => simp [moments, ih]

theorem moments_arrivals (ending : Frame.Ending) (reader : Frame.Reader) (n : Nat)
    (stream : List Arrival) :
    Arrival.moments ending reader (selection.arrivals n stream) =
      selection.moments n (Arrival.moments ending reader stream) := by
  induction stream generalizing reader n with
  | nil =>
    have hlast := selection.moments_hears n (reader.finish ending).toList []
    rw [List.append_nil] at hlast
    rw [arrivals, Arrival.moments, hlast, moments, List.append_nil]
  | cons arrival others ih =>
    cases arrival with
    | bytes piece => simp [arrivals, Arrival.moments, moments_hears, ih]
    | event event =>
      cases h : selection.outside (n + 1) <;> simp [arrivals, moments, Arrival.moments, ih, h]

theorem events_moments (n : Nat) (others : List Moment) :
    Moment.events (selection.moments n others) =
      keep selection.outside n (Moment.events others) := by
  induction others generalizing n with
  | nil => rfl
  | cons moment others ih =>
    cases moment with
    | hears body => exact ih n
    | raises event =>
      cases h : selection.outside (n + 1) <;> simp [moments, Moment.events, keep, ih, h]

/-! ## The debugger -/

/-- A reaction whose operation, if there is one, comes behind `operations` others, with only those
events that are kept. -/
def reaction (operations : Nat) (reaction : Reaction σ ρ) : Reaction (σ × Nat) ρ where
  announces := reaction.announces
  call := reaction.call
  raises := keep (selection.debugger (operations + 1)) 0 reaction.raises
  state := (reaction.state, operations + reaction.call.toList.length)
  leaves := reaction.leaves
  result := reaction.result

theorem react_restrain (debugger : Debugger σ) (settings : LaunchSettings) (state : σ)
    (operations : Nat) (command : String) (arguments : Json) :
    (selection.restrain debugger).react settings (state, operations) command arguments =
      selection.reaction operations (debugger.react settings state command arguments) := by
  have hframe : (selection.restrain debugger).currentFrame (state, operations) =
      debugger.currentFrame state := rfl
  rw [Debugger.react, Debugger.react, hframe]
  cases Command.ofName? command with
  | none => rfl
  | some known =>
    cases haction : known.action settings (debugger.currentFrame state) ⟨arguments⟩ with
    | error error => simp only [haction]; rfl
    | ok action => simp only [haction]; rfl

theorem answer_restrain (debugger : Debugger σ) (settings : LaunchSettings) (state : σ)
    (operations : Nat) (body : Bytes) :
    (selection.restrain debugger).answer settings (state, operations) body =
      selection.reaction operations (debugger.answer settings state body) := by
  rw [Debugger.answer, Debugger.answer]
  cases Request.decode body with
  | error rejection => rfl
  | ok request =>
    simp only [react_restrain]
    rfl

/-! ## Intents -/

theorem intents_announces (operations raised outside : Nat) (events : List Event)
    (others : List Intent) :
    selection.intents operations raised outside (events.map (.raises .adapter) ++ others) =
      events.map (.raises .adapter) ++ selection.intents operations raised outside others := by
  induction events with
  | nil => rfl
  | cons event events ih => exact congrArg _ ih

theorem intents_raises (operations raised outside : Nat) (events : List Event)
    (others : List Intent) :
    selection.intents operations raised outside (events.map (.raises .debugger) ++ others) =
      (keep (selection.debugger operations) raised events).map (.raises .debugger) ++
        selection.intents operations (raised + events.length) outside others := by
  induction events generalizing raised with
  | nil => rfl
  | cons event events ih =>
    have hlength : raised + (event :: events).length = raised + 1 + events.length := by
      simp
      omega
    rw [hlength, keep, List.map_append, List.append_assoc, ← ih (raised + 1), List.map_cons,
      List.cons_append, Intent.raises, intents]
    cases selection.debugger operations (raised + 1) <;> rfl

theorem intents_outside (operations raised outside : Nat) (events : List Event) :
    selection.intents operations raised outside (events.map (.raises .outside)) =
      (keep selection.outside outside events).map (.raises .outside) := by
  induction events generalizing outside with
  | nil => rfl
  | cons event events ih =>
    rw [keep, List.map_append, ← ih (outside + 1), List.map_cons, Intent.raises, intents]
    cases selection.outside (outside + 1) <;> rfl

/-- A reaction keeps its announcements, its operation and its reply. -/
theorem exists_intents_reaction {given : Reaction σ Message}
    (h : given.call = none → given.raises = []) (operations raised outside : Nat)
    (others : List Intent) :
    ∃ behind, selection.intents operations raised outside (given.intents ++ others) =
      (selection.reaction operations given).intents ++
        selection.intents (operations + given.call.toList.length) behind outside others := by
  cases hcall : given.call with
  | none =>
    refine ⟨raised, ?_⟩
    simp [Reaction.intents, Reaction.conduct, reaction, hcall, h hcall, keep, intents_announces,
      intents]
  | some operation =>
    refine ⟨given.raises.length, ?_⟩
    simp [Reaction.intents, Reaction.conduct, reaction, hcall, intents_announces, intents_raises,
      intents]

/-- A restrained debugger has the same script without the events that are left out. -/
theorem script_restrain (debugger : Debugger σ) (settings : LaunchSettings) (state : σ)
    (operations raised outside : Nat) (others : List Moment) :
    (selection.restrain debugger).script settings (state, operations)
        (selection.moments outside others) =
      selection.intents operations raised outside (debugger.script settings state others) := by
  induction others generalizing state operations raised outside with
  | nil =>
    have hlast := selection.intents_raises (operations + 1) 0 outside
      (debugger.perform state (.disconnect .default)).events []
    rw [List.append_nil] at hlast
    rw [moments, Debugger.script, Debugger.script, intents, hlast]
    simp only [intents, List.append_nil]
    rfl
  | cons moment others ih =>
    cases moment with
    | raises event =>
      rw [moments, Debugger.script, Intent.raises, intents,
        ← ih state operations raised (outside + 1)]
      cases selection.outside (outside + 1) <;> rfl
    | hears body =>
      -- the operation of the body, if it has one, begins a count of events of its own, so
      -- `raised` has no part in what follows
      let given := debugger.answer settings state body
      obtain ⟨behind, hgiven⟩ := selection.exists_intents_reaction
        (fun hcall => (debugger.answer_of_call_eq_none settings state body hcall).2)
        operations raised outside
        (if given.leaves then (Moment.events others).map (.raises .outside)
          else debugger.script settings given.state others)
      rw [moments, Debugger.script, Debugger.script, intents, answer_restrain, hgiven]
      refine congrArg _ (congrArg _ ?_)
      have hleaves : (selection.reaction operations given).leaves = given.leaves := rfl
      rw [hleaves]
      cases given.leaves with
      | true =>
        rw [if_pos rfl, if_pos rfl, events_moments, intents_outside]
      | false =>
        rw [if_neg Bool.false_ne_true, if_neg Bool.false_ne_true]
        exact ih given.state (operations + given.call.toList.length) behind outside

/-- Whoever does not look at the events sees the same intents with them as without. -/
theorem filterMap_intents (see? : Intent → Option α)
    (hdebugger : ∀ message, see? (.sends .debugger message) = none)
    (houtside : ∀ message, see? (.sends .outside message) = none)
    (operations raised outside : Nat) (others : List Intent) :
    (selection.intents operations raised outside others).filterMap see? =
      others.filterMap see? := by
  induction others generalizing operations raised outside with
  | nil => rfl
  | cons intent others ih =>
    cases intent with
    | takes body => rw [intents, List.filterMap_cons, List.filterMap_cons, ih]
    | calls operation => rw [intents, List.filterMap_cons, List.filterMap_cons, ih]
    | sends origin message =>
      cases origin with
      | adapter => rw [intents, List.filterMap_cons, List.filterMap_cons, ih]
      | debugger =>
        rw [intents, List.filterMap_append, List.filterMap_cons_none (hdebugger message), ih]
        cases selection.debugger operations (raised + 1) <;> simp [hdebugger]
      | outside =>
        rw [intents, List.filterMap_append, List.filterMap_cons_none (houtside message), ih]
        cases selection.outside (outside + 1) <;> simp [houtside]

end Selection

/-! ## Sessions -/

namespace Session

open Effect

/-- A session without a log whose client refuses no frame, beside the same session with any of the
events left out that the debugger raises or that come from outside. Both do what the
first means to do, one after another, and number the messages: the second without the events
that are left out, and all else in the same order. The debugger is asked the same, the same
bodies are taken up, and whether the client left and the result are the same. -/
theorem events_do_not_disturb (debugger : Debugger σ) (settings : LaunchSettings)
    (selection : Selection) (state : σ) (arrivals : List Arrival) (ending : Frame.Ending) :
    let full := run debugger settings (fresh (fun _ => none) .disabled state) arrivals ending
    let other := run (selection.restrain debugger) settings
      (fresh (fun _ => none) .disabled (state, 0)) (selection.arrivals 0 arrivals) ending
    let steps := debugger.script settings state (Arrival.moments ending .start arrivals)
    full.2 = Intent.numbered 0 steps ∧
      other.2 = Intent.numbered 0 (selection.intents 0 0 0 steps) ∧
      operations other.2 = operations full.2 ∧
      taken other.2 = taken full.2 ∧
      other.1.adapter.exiting = full.1.adapter.exiting ∧
      other.1.result = full.1.result := by
  intro full other steps
  have hfull : full.2 = Intent.numbered 0 steps :=
    run_eq_numbered debugger settings state arrivals ending
  have hother : other.2 = Intent.numbered 0 (selection.intents 0 0 0 steps) := by
    rw [← selection.script_restrain, ← selection.moments_arrivals]
    exact run_eq_numbered (selection.restrain debugger) settings (state, 0) _ ending
  obtain ⟨-, hleft, hresult⟩ := run_eq_play debugger settings .disabled state arrivals ending
  obtain ⟨-, hleft', hresult'⟩ := run_eq_play (selection.restrain debugger) settings .disabled
    (state, 0) (selection.arrivals 0 arrivals) ending
  rw [selection.stream_arrivals] at hleft'
  refine ⟨hfull, hother, ?_, ?_, hleft'.trans hleft.symm, hresult'.trans hresult.symm⟩
  · rw [hfull, hother, Intent.operations_numbered, Intent.operations_numbered]
    exact selection.filterMap_intents _ (fun _ => rfl) (fun _ => rfl) 0 0 0 steps
  · rw [hfull, hother, Intent.taken_numbered, Intent.taken_numbered]
    exact selection.filterMap_intents _ (fun _ => rfl) (fun _ => rfl) 0 0 0 steps

end Session

end DebugAdapter
