import DebugAdapter.Proofs.Json.Printable
import DebugAdapter.Proofs.Session.LogFile
import DebugAdapter.Proofs.Text.Lines

/-!
# The lines of a log file

A message to the client takes one line of a log file, because its text has no line feed. A body from
the client is noted as it is, and takes one line more for each of its line feeds.
-/

namespace DebugAdapter

open Ascii Effect

/-! ## The lines of one message -/

/-- A message that is noted: what it is, and its text. -/
structure Note where
  direction : Direction
  text : String

theorem LogLine.written_eq (line : String) : written line = Utf8.encode line ++ [lineFeed] := by
  rw [written, Utf8.encode, String.toList_append, Utf8.encodeChars_append]
  rfl

theorem Direction.lineFeed_not_mem_mark (direction : Direction) :
    lineFeed ∉ Utf8.encode direction.mark := by
  rw [Utf8.lineFeed_mem_encode]
  cases direction <;> decide

namespace Note

/-- What is noted. -/
def line (note : Note) : String :=
  note.direction.line note.text

/-- The lines that a note takes in a file. -/
def lines (note : Note) : List Bytes :=
  DebugAdapter.lines (LogLine.written note.line)

variable (note : Note)

theorem encode_line :
    Utf8.encode note.line = Utf8.encode note.direction.mark ++ Utf8.encode note.text := by
  rw [line, Direction.line, Utf8.encode, String.toList_append, Utf8.encodeChars_append]
  rfl

/-- The mark of a message stands in front of the first line of its note. -/
theorem exists_lines_eq :
    ∃ first others, note.lines = (Utf8.encode note.direction.mark ++ first) :: others := by
  obtain ⟨first, others, htext⟩ := DebugAdapter.exists_lines_eq (Utf8.encode note.text) []
  refine ⟨first, others, ?_⟩
  rw [lines, LogLine.written_eq, encode_line, List.append_assoc]
  exact lines_append note.direction.lineFeed_not_mem_mark htext

/-- A note takes as many lines more than one as its text has line feeds. -/
theorem length_lines : note.lines.length = note.text.toList.count '\n' + 1 := by
  rw [lines, LogLine.written_eq, DebugAdapter.length_lines, encode_line, List.count_append,
    List.count_eq_zero.2 note.direction.lineFeed_not_mem_mark, Nat.zero_add,
    Utf8.count_lineFeed_encode]

theorem lines_of_not_mem (h : '\n' ∉ note.text.toList) :
    note.lines = [Utf8.encode note.line] := by
  have htext : lineFeed ∉ Utf8.encode note.text := fun hmem => h (Utf8.lineFeed_mem_encode.1 hmem)
  rw [lines, LogLine.written_eq]
  refine DebugAdapter.lines_of_not_mem ?_
  rw [encode_line, List.mem_append, not_or]
  exact ⟨note.direction.lineFeed_not_mem_mark, htext⟩

/-- In a file, the lines of one note stand behind those of another. -/
theorem lines_flatMap_written (notes : List Note) :
    DebugAdapter.lines (notes.flatMap fun note => LogLine.written note.line) =
      notes.flatMap lines := by
  induction notes with
  | nil => rfl
  | cons note notes ih =>
    have hclosed (rest : Bytes) : LogLine.written note.line ++ rest =
        Utf8.encode note.line ++ lineFeed :: rest := by
      rw [LogLine.written_eq, List.append_assoc]
      rfl
    rw [List.flatMap_cons, hclosed, lines_append_lineFeed, ← LogLine.written_eq, ih,
      List.flatMap_cons]
    rfl

end Note

/-- The lines of a log file. -/
def TrafficLog.lines : TrafficLog → List Bytes
  | .file content _ => DebugAdapter.lines content
  | _ => []

/-! ## The messages of a session -/

namespace Effect

/-- The note about an effect, if a log tells of it. -/
def note? : Effect → Option Note
  | .takes body => some ⟨.command, Utf8.decodeLossy body⟩
  | .offers attempt =>
    if attempt.delivered then some ⟨attempt.message.direction, attempt.payload⟩ else none
  | _ => none

theorem line?_eq (effect : Effect) : effect.line? = effect.note?.map Note.line := by
  cases effect with
  | offers attempt =>
    rw [line?, note?]
    split
    · exact congrArg some (LogLine.direction_line attempt).symm
    · rfl
  | _ => rfl

/-- The messages of which a log tells. -/
def notes (effects : List Effect) : List Note :=
  effects.filterMap note?

@[simp]
theorem notes_nil : notes [] = [] := rfl

@[simp]
theorem notes_cons (effect : Effect) (effects : List Effect) :
    notes (effect :: effects) = effect.note?.toList ++ notes effects := by
  cases h : effect.note? <;> simp [notes, h]

theorem filterMap_line?_eq (effects : List Effect) :
    effects.filterMap line? = (notes effects).map Note.line := by
  have hline : line? = fun effect => effect.note?.map Note.line := funext line?_eq
  rw [hline, notes, List.map_filterMap]

/-- A frame has no line feed in it. -/
theorem lineFeed_not_mem_payload (attempt : Attempt) : '\n' ∉ attempt.payload.toList := by
  intro hmem
  have hspace : ' ' ≤ '\n' := Message.printable_payload attempt.seq attempt.message '\n' hmem
  exact absurd hspace (by decide)

theorem length_note? (effect : Effect) :
    effect.note?.toList.length =
      effect.taken?.toList.length + effect.delivered?.toList.length := by
  cases effect with
  | offers attempt => cases h : attempt.delivered <;> simp [note?, taken?, delivered?, h]
  | _ => rfl

/-- A log tells of every body that is taken up and of every frame that reaches the client. -/
theorem length_notes (effects : List Effect) :
    (notes effects).length = (taken effects).length + (deliveries effects).length := by
  induction effects with
  | nil => rfl
  | cons effect effects ih =>
    have heffect := effect.length_note?
    rw [notes_cons, taken_cons, deliveries_cons, List.length_append, List.length_append,
      List.length_append]
    omega

/-- Of a single message, only the line feeds of a body make more lines than one. -/
theorem length_lines_note? (effect : Effect) :
    (effect.note?.toList.flatMap Note.lines).length =
      effect.note?.toList.length + (effect.taken?.toList.map (·.count lineFeed)).sum := by
  cases effect with
  | takes body =>
    have hbody : (Note.mk .command (Utf8.decodeLossy body)).lines.length =
        body.count lineFeed + 1 := by
      rw [Note.length_lines, Utf8.count_lineFeed_decodeLossy]
    simp [note?, taken?, hbody, Nat.add_comm]
  | offers attempt =>
    cases h : attempt.delivered with
    | true =>
      have hframe := Note.length_lines ⟨attempt.message.direction, attempt.payload⟩
      rw [List.count_eq_zero.2 (lineFeed_not_mem_payload attempt)] at hframe
      simp [note?, taken?, h, hframe]
    | false => simp [note?, taken?, h]
  | _ => rfl

theorem length_flatMap_lines (effects : List Effect) :
    ((notes effects).flatMap Note.lines).length =
      (notes effects).length + ((taken effects).map (·.count lineFeed)).sum := by
  induction effects with
  | nil => rfl
  | cons effect effects ih =>
    have heffect := effect.length_lines_note?
    rw [notes_cons, taken_cons, List.flatMap_append, List.length_append, List.length_append,
      List.map_append, List.sum_append]
    omega

/-- Without line feeds in the bodies, every note takes one line. -/
theorem flatMap_lines_of_not_mem {effects : List Effect}
    (h : ∀ body ∈ taken effects, lineFeed ∉ body) :
    (notes effects).flatMap Note.lines = (notes effects).map fun note => Utf8.encode note.line := by
  have hnote : ∀ note ∈ notes effects, note.lines = [Utf8.encode note.line] := by
    intro note hmem
    obtain ⟨effect, heffect, hnote⟩ := List.mem_filterMap.1 hmem
    apply note.lines_of_not_mem
    cases effect with
    | takes body =>
      obtain rfl := Option.some.inj hnote
      have hbody : lineFeed ∉ body := h body (List.mem_filterMap.2 ⟨_, heffect, rfl⟩)
      exact fun hmem => hbody (Utf8.lineFeed_mem_decodeLossy.1 hmem)
    | offers attempt =>
      rw [note?] at hnote
      split at hnote
      · obtain rfl := Option.some.inj hnote
        exact lineFeed_not_mem_payload attempt
      · cases hnote
    | calls operation => cases hnote
    | logs line => cases hnote
  rw [List.flatMap_congr hnote, List.map_eq_flatMap]

end Effect

namespace Session

variable {σ : Type} (debugger : Debugger σ) (settings : LaunchSettings)

/-- What is written into a log file is what a log tells of a session. -/
theorem logged_run_of_file (refusal : Nat → Option String) (content : Bytes) (state : σ)
    (arrivals : List Arrival) (ending : Frame.Ending) :
    let session : Session σ := fresh refusal (.file content true) state
    logged (session.run debugger settings arrivals ending).2 =
      (session.run debugger settings arrivals ending).2.filterMap line? := by
  intro session
  -- without a log, the same session writes no line and does all else alike
  let quiet : Session σ := fresh refusal .disabled state
  have hfresh : Alike (Channel.Keeps true) quiet session := ⟨⟨⟨rfl, content, rfl⟩, rfl, rfl⟩, rfl⟩
  obtain ⟨-, heffects⟩ :=
    (Channel.mimics_keeps true).run debugger settings hfresh rfl arrivals ending
  have hquiet : logged (quiet.run debugger settings arrivals ending).2 = [] :=
    (course_run debugger settings quiet arrivals ending).logged_of_disabled rfl
  rw [heffects, logged_flatMap_noted _ hquiet,
    filterMap_flatMap_noted true _ line? fun _ => rfl]

theorem traffic_run_of_file (refusal : Nat → Option String) (content : Bytes) (state : σ)
    (arrivals : List Arrival) (ending : Frame.Ending) :
    let run := Session.run debugger settings (fresh refusal (.file content true) state) arrivals
      ending
    run.1.adapter.channel.traffic =
      .file (content ++ (notes run.2).flatMap fun note => LogLine.written note.line) true := by
  intro run
  have hlogged : logged run.2 = run.2.filterMap line? :=
    logged_run_of_file debugger settings refusal content state arrivals ending
  have hfile : run.1.adapter.channel.traffic =
      .file (content ++ (logged run.2).flatMap LogLine.written) true :=
    (course_run debugger settings (fresh refusal (.file content true) state) arrivals
      ending).traffic_of_file rfl
  rw [hfile, hlogged, filterMap_line?_eq, List.flatMap_map]

theorem lines_run_of_file (refusal : Nat → Option String) (state : σ) (arrivals : List Arrival)
    (ending : Frame.Ending) :
    let run := Session.run debugger settings (fresh refusal (.file [] true) state) arrivals ending
    run.1.adapter.channel.traffic.lines = (notes run.2).flatMap Note.lines := by
  intro run
  have hfile : run.1.adapter.channel.traffic =
      .file ((notes run.2).flatMap fun note => LogLine.written note.line) true :=
    traffic_run_of_file debugger settings refusal [] state arrivals ending
  rw [hfile, TrafficLog.lines, Note.lines_flatMap_written]

/-- The lines of a log file that is empty when a session begins are those of the notes, one behind
the other, and there is a note of every body that is taken up and of every frame that reaches the
client, in order. A note has its mark in front of its first line. A frame takes one line; a body
takes one line more for each of its line feeds, without any mark. So there are as many lines as
messages if and only if no body has a line feed, and then every line is that of its message. -/
theorem log_lines (refusal : Nat → Option String) (state : σ) (arrivals : List Arrival)
    (ending : Frame.Ending) :
    let run := Session.run debugger settings (fresh refusal (.file [] true) state) arrivals ending
    let log := run.1.adapter.channel.traffic
    log = .file ((notes run.2).flatMap fun note => LogLine.written note.line) true ∧
      log.lines = (notes run.2).flatMap Note.lines ∧
      (notes run.2).length = (taken run.2).length + (deliveries run.2).length ∧
      (∀ note ∈ notes run.2, ∃ first others,
        note.lines = (Utf8.encode note.direction.mark ++ first) :: others) ∧
      log.lines.length = (notes run.2).length + ((taken run.2).map (·.count lineFeed)).sum ∧
      (log.lines.length = (notes run.2).length ↔ ∀ body ∈ taken run.2, lineFeed ∉ body) ∧
      ((∀ body ∈ taken run.2, lineFeed ∉ body) →
        log.lines = (notes run.2).map fun note => Utf8.encode note.line) := by
  intro run log
  have hfile : log = .file ((notes run.2).flatMap fun note => LogLine.written note.line) true :=
    traffic_run_of_file debugger settings refusal [] state arrivals ending
  have hlines : log.lines = (notes run.2).flatMap Note.lines :=
    lines_run_of_file debugger settings refusal state arrivals ending
  have hlength : log.lines.length =
      (notes run.2).length + ((taken run.2).map (·.count lineFeed)).sum := by
    rw [hlines, length_flatMap_lines]
  refine ⟨hfile, hlines, length_notes run.2, fun note _ => note.exists_lines_eq, hlength, ?_,
    fun h => hlines.trans (flatMap_lines_of_not_mem h)⟩
  rw [hlength, Nat.add_eq_left, List.sum_eq_zero_iff_forall_eq_nat]
  simp only [List.mem_map, forall_exists_index, and_imp, forall_apply_eq_imp_iff₂,
    List.count_eq_zero]

/-- That there are as many lines as messages is false: with a line feed and what looks like a mark,
a client makes a line about a response that was never sent. -/
theorem not_one_line_per_message :
    ¬ ∀ (arrivals : List Arrival) (ending : Frame.Ending),
      let run := Session.run (.unable .notImplemented) {} (fresh (fun _ => none) (.file [] true) ())
        arrivals ending
      run.1.adapter.channel.traffic.lines.length =
        (taken run.2).length + (deliveries run.2).length := by
  intro hone
  let body := Utf8.encode "1\n<- (R) 1"
  let arrivals : List Arrival := [.bytes (Frame.encode body)]
  let run := Session.run (.unable .notImplemented) {} (fresh (fun _ => none) (.file [] true) ())
    arrivals .closed
  have hforged : run.1.adapter.channel.traffic.lines.length =
      (taken run.2).length + (deliveries run.2).length := hone arrivals .closed
  have hlines : run.1.adapter.channel.traffic.lines = (notes run.2).flatMap Note.lines :=
    lines_run_of_file _ {} _ () arrivals .closed
  have htaken : taken run.2 = [body] := by decide +kernel
  have hcount : body.count lineFeed = 1 := by decide
  rw [hlines, length_flatMap_lines, length_notes, htaken] at hforged
  simp [hcount] at hforged

end Session

end DebugAdapter
