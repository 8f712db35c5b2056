import DebugAdapter.Proofs.Channel.Delivery

/-!
# The log of a channel

A log tells of every body that is taken up and of every frame that reaches the client. On the
client's console a line becomes an echo, in a file it is added at the end.
-/

namespace DebugAdapter

namespace LogLine

/-- The line about a body that is taken up. -/
def ofBody (body : Bytes) : String :=
  "-> (C) " ++ Utf8.decodeLossy body

/-- The line about a frame that reaches the client. -/
def ofFrame (attempt : Attempt) : String :=
  match attempt.message with
  | .response _ => "<- (R) " ++ attempt.payload
  | .event .. => "<- (E) " ++ attempt.payload

/-- A line in the log file. -/
def written (line : String) : Bytes :=
  Utf8.encode (line ++ "\n")

theorem direction_line (attempt : Attempt) :
    attempt.message.direction.line attempt.payload = ofFrame attempt := by
  rw [ofFrame]
  cases attempt.message <;> rfl

end LogLine

namespace Effect

/-- The line about an effect, if a log tells of it. -/
def line? : Effect → Option String
  | .takes body => some (LogLine.ofBody body)
  | .offers attempt => if attempt.delivered then some (LogLine.ofFrame attempt) else none
  | _ => none

/-- The line that is written to the log file. -/
def log? : Effect → Option String
  | .logs line => some line
  | _ => none

/-- The lines that are written to the log file. -/
def logged (effects : List Effect) : List String :=
  effects.filterMap log?

@[simp] theorem logged_nil : logged [] = [] := rfl

@[simp]
theorem logged_append (effects others : List Effect) :
    logged (effects ++ others) = logged effects ++ logged others :=
  List.filterMap_append

@[simp]
theorem logged_cons (effect : Effect) (effects : List Effect) :
    logged (effect :: effects) = effect.log?.toList ++ logged effects := by
  cases h : effect.log? <;> simp [logged, h]

end Effect

namespace Channel

open Effect

variable {channel last : Channel} {effects : List Effect}

theorem note_of_disabled (h : channel.traffic = .disabled) (direction : Direction) (text : String) :
    channel.note direction text = (channel, []) := by
  rw [note, h]

theorem note_of_console (h : channel.traffic = .console) (direction : Direction) (text : String) :
    let echoed := channel.offer (echo (direction.line text)) true
    channel.note direction text = (echoed.1, [.offers echoed.2]) := by
  rw [note, h]

theorem note_of_unwritable {content : Bytes} (h : channel.traffic = .file content false)
    (direction : Direction) (text : String) : channel.note direction text = (channel, []) := by
  rw [note, h]

theorem note_of_file {content : Bytes} (h : channel.traffic = .file content true)
    (direction : Direction) (text : String) :
    let line := direction.line text
    channel.note direction text =
      ({ channel with traffic := .file (content ++ LogLine.written line) true }, [.logs line]) := by
  rw [note, h]
  rfl

/-- Without a log a message is offered, and that is all. -/
theorem send_of_disabled (h : channel.traffic = .disabled) (message : Message) :
    let own := channel.offer message false
    channel.send message =
      (own.1, [.offers own.2],
        match own.2.refusal with
        | some reason => .error (.io reason)
        | none => .ok own.2.seq) := by
  intro own
  have hown : own.1.traffic = .disabled := h
  cases hrefusal : own.2.refusal with
  | some reason => rw [send_of_refused hrefusal]
  | none => rw [send_of_accepted hrefusal, note_of_disabled hown]

theorem send_of_console (h : channel.Reliable) (hconsole : channel.traffic = .console)
    (message : Message) :
    let own := channel.offer message false
    let echoed := own.1.offer (echo (LogLine.ofFrame own.2)) true
    channel.send message = (echoed.1, [.offers own.2, .offers echoed.2], .ok own.2.seq) := by
  have haccepted : (channel.offer message false).2.refusal = none := h _
  have hown : (channel.offer message false).1.traffic = .console := hconsole
  have hline := LogLine.direction_line (channel.offer message false).2
  rw [send_of_accepted haccepted, note_of_console hown]
  simp only [← hline]
  rfl

theorem traffic_use_of_file {content : Bytes} (h : channel.traffic = .file content true)
    (first : Use) :
    (channel.use first).1.traffic =
      .file (content ++ (logged (channel.use first).2).flatMap LogLine.written) true := by
  cases first with
  | note text =>
    rw [use, noteInbound, note_of_file h]
    simp [log?]
  | send message =>
    have hown : (channel.offer message false).1.traffic = .file content true := h
    rw [use]
    cases hrefusal : (channel.offer message false).2.refusal with
    | some reason =>
      rw [send_of_refused hrefusal]
      simpa [log?] using hown
    | none =>
      rw [send_of_accepted hrefusal, note_of_file hown]
      simp [log?]

/-- Every line is added to the file as it is written, and nothing else is. -/
theorem Course.traffic_of_file (h : Course channel effects last) {content : Bytes}
    (htraffic : channel.traffic = .file content true) :
    last.traffic = .file (content ++ (logged effects).flatMap LogLine.written) true := by
  induction h generalizing content with
  | done => simpa using htraffic
  | use first _ ih =>
    rw [ih (traffic_use_of_file htraffic first)]
    simp
  | takes body _ ih => exact ih htraffic
  | calls operation _ ih => exact ih htraffic

theorem use_of_disabled (h : channel.traffic = .disabled) (first : Use) :
    (channel.use first).1.traffic = .disabled ∧ logged (channel.use first).2 = [] := by
  cases first with
  | note text =>
    rw [use, noteInbound, note_of_disabled h]
    exact ⟨h, rfl⟩
  | send message =>
    rw [use, send_of_disabled h]
    exact ⟨h, rfl⟩

theorem Course.logged_of_disabled (h : Course channel effects last)
    (htraffic : channel.traffic = .disabled) : logged effects = [] := by
  induction h with
  | done => rfl
  | use first _ ih =>
    obtain ⟨hquiet, hlogged⟩ := use_of_disabled htraffic first
    rw [logged_append, hlogged, ih hquiet]
    rfl
  | takes body _ ih => exact ih htraffic
  | calls operation _ ih => exact ih htraffic

end Channel

end DebugAdapter
