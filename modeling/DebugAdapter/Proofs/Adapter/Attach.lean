import DebugAdapter.Proofs.Adapter.Call
import DebugAdapter.Proofs.Arguments.Kind

/-!
# Processes that are attached to

The client names a process by an integer of 64 bits, or by a text with a numeral of such an integer
and white space around it.
-/

namespace DebugAdapter

/-- A value that names a process: its number, or a numeral of it with white space around it. -/
inductive NamesProcess : Json → (id : Int64) → Prop where
  | number (id : Int64) : NamesProcess (.ofInt64 id) id
  | text {text : String} {front numeral back : List Char} {id : Int64}
      (text_eq : text.toList = front ++ (numeral ++ back))
      (front_blank : ∀ c ∈ front, isBlank c) (back_blank : ∀ c ∈ back, isBlank c)
      (spells : WholeNumber.Numeral numeral id.toInt) : NamesProcess (.string text) id

theorem NamesProcess.ne_null {found : Json} {id : Int64} (h : NamesProcess found id) :
    found ≠ .null := by
  cases h with
  | number => nofun
  | text => nofun

/-- An integer of 64 bits is read if a numeral of it stands between white space. -/
theorem signed_trimBlank_eq_ok {text : String} {i : Int} :
    WholeNumber.signed (trimBlank text.toList) = .ok i ↔
      ∃ id : Int64, id.toInt = i ∧ NamesProcess (.string text) id := by
  constructor
  · intro h
    obtain ⟨hnumeral, hlow, hhigh⟩ := WholeNumber.signed_eq_ok.1 h
    obtain ⟨front, back, htext, hfront, hback⟩ := exists_append_trimBlank text.toList
    have hid : (Int64.ofInt i).toInt = i := Int64.toInt_ofInt_of_le (by omega) (by omega)
    rw [← hid] at hnumeral
    exact ⟨Int64.ofInt i, hid, .text htext hfront hback hnumeral⟩
  · rintro ⟨id, rfl, h⟩
    cases h with
    | text text_eq front_blank back_blank spells =>
      rw [text_eq, trimBlank_between front_blank (fun _ hc => spells.isBlank hc) back_blank]
      exact WholeNumber.signed_eq_ok.2 ⟨spells, id.le_toInt, id.toInt_lt⟩

theorem namesProcess_string {text : String} {id : Int64} :
    NamesProcess (.string text) id ↔
      WholeNumber.signed (trimBlank text.toList) = .ok id.toInt := by
  rw [signed_trimBlank_eq_ok]
  constructor
  · intro h
    exact ⟨id, rfl, h⟩
  · rintro ⟨other, hother, h⟩
    rwa [← Int64.toInt_inj.1 hother]

theorem namesProcess_of_not_string {found : Json} {id : Int64} (h : ∀ text, found ≠ .string text) :
    NamesProcess found id ↔ found.asInt64? = some id := by
  rw [Json.asInt64?_eq_some]
  constructor
  · intro hnames
    cases hnames with
    | number => rfl
    | text => exact absurd rfl (h _)
  · rintro rfl
    exact .number id

namespace Command

variable {args : Arguments}

theorem processId_eq_ok {id : Int64} :
    processId args = .ok id ↔ ∃ found, args.get? "processId" = some found ∧ NamesProcess found id := by
  rw [processId]
  cases hfound : args.get? "processId" with
  | none => simp
  | some found =>
    simp only [Option.some.injEq, exists_eq_left']
    cases found with
    | string text =>
      rw [namesProcess_string]
      cases hread : WholeNumber.signed (trimBlank text.toList) with
      | error fault => simp [hread]
      | ok i =>
        obtain ⟨other, rfl, -⟩ := signed_trimBlank_eq_ok.1 hread
        simp [hread, Int64.toInt_inj]
    | int i =>
      have hnumber : ∀ text, Json.int i ≠ .string text := by simp
      rw [namesProcess_of_not_string hnumber]
      cases hread : (Json.int i).asInt64? with
      | none => simp [hread]
      | some other => simp [hread]
    | _ => simp [namesProcess_of_not_string, Json.asInt64?]

theorem action_attach {settings : LaunchSettings} {currentFrame : Int64} {id : Int64}
    (h : processId args = .ok id) :
    attach.action settings currentFrame args = .ok { operation := .attach id, body := done } := by
  rw [action, h]
  rfl

end Command

namespace Adapter

variable {σ : Type}

/-- A command to attach to a process is carried out with the one operation to attach to the process
that is named, by its number or by a text, and what comes of it does not depend on how it is named.
If no process is named, nothing happens, and the client is told so. -/
theorem attaches_to_named_process (debugger : Debugger σ) (settings : LaunchSettings)
    (adapter : Adapter σ) (arguments : Json) :
    let dispatched := adapter.dispatch debugger settings "attach" arguments
    (∀ (found : Json) (id : Int64), arguments.field? "processId" = some found →
      NamesProcess found id →
      adapter.Performs debugger (.attach id) (fun outcome => outcome.map fun () => .object [])
        dispatched ∧
      ∀ arguments' found' : Json, arguments'.field? "processId" = some found' →
        NamesProcess found' id →
        adapter.dispatch debugger settings "attach" arguments' = dispatched) ∧
    ((∀ (found : Json) (id : Int64), arguments.field? "processId" = some found →
        ¬ NamesProcess found id) →
      ∃ message, dispatched = (adapter, [], .error (.invalidArgument message))) := by
  intro dispatched
  let frame := debugger.currentFrame adapter.debugger
  have hattach {arguments found : Json} {id : Int64}
      (hfound : arguments.field? "processId" = some found) (hnames : NamesProcess found id) :
      Command.attach.action settings frame ⟨arguments⟩ =
        .ok { operation := .attach id, body := Command.done } :=
    Command.action_attach
      (Command.processId_eq_ok.2 ⟨found, Arguments.get?_of_field? hfound hnames.ne_null, hnames⟩)
  refine ⟨fun found id hfound hnames => ⟨?_, ?_⟩, fun hnone => ?_⟩
  · exact performs_dispatch .attach (hattach hfound hnames)
  · intro arguments' found' hfound' hnames'
    exact dispatch_congr .attach ((hattach hfound' hnames').trans (hattach hfound hnames).symm)
  · cases haction : Command.attach.action settings frame ⟨arguments⟩ with
    | error error => exact ⟨error.message, dispatch_of_error .attach haction⟩
    | ok action =>
      obtain ⟨id, hid, -⟩ := exists_of_bind_eq_ok haction
      obtain ⟨found, hfound, hnames⟩ := Command.processId_eq_ok.1 hid
      rw [Arguments.get?, Option.filter_eq_some_iff] at hfound
      exact absurd hnames (hnone found id hfound.1)

/-- The lowest number in two notations, and one that is too high. -/
theorem attaches_to_named_process_lowest :
    let adapter : Adapter Unit := { channel := {}, debugger := () }
    let debugger := Debugger.unable .notImplemented
    let text := "\u00A0-009223372036854775808\u3000"
    let named (found : Json) : Json := .object [("processId", found)]
    NamesProcess (.string text) Int64.minValue ∧
      NamesProcess (.int (-0x8000000000000000)) Int64.minValue ∧
      (∀ id, ¬ NamesProcess (.string "9223372036854775808") id) ∧
      adapter.Performs debugger (.attach Int64.minValue)
        (fun outcome => outcome.map fun () => .object [])
        (adapter.dispatch debugger {} "attach" (named (.string text))) ∧
      adapter.dispatch debugger {} "attach" (named (.int (-0x8000000000000000))) =
        adapter.dispatch debugger {} "attach" (named (.string text)) ∧
      ∃ message, adapter.dispatch debugger {} "attach" (named (.string "9223372036854775808")) =
        (adapter, [], .error (.invalidArgument message)) := by
  intro adapter debugger text named
  have hnumber : NamesProcess (.int (-0x8000000000000000)) Int64.minValue := .number Int64.minValue
  have htext : NamesProcess (.string text) Int64.minValue := by
    have hparts : text.toList = ['\u00A0'] ++ ("-009223372036854775808".toList ++ ['\u3000']) := by
      decide
    have hdigits : ∀ c ∈ "009223372036854775808".toList, c.isDigit := List.all_eq_true.1 (by decide)
    have hspells : WholeNumber.Spells 0x8000000000000000 "009223372036854775808".toList :=
      ⟨by decide, hdigits, by decide⟩
    exact .text hparts (List.forall_mem_singleton.2 (by decide))
      (List.forall_mem_singleton.2 (by decide)) (.minus hspells)
  have hnone : ∀ id, ¬ NamesProcess (.string "9223372036854775808") id := by
    intro id hnames
    have hread : WholeNumber.signed (trimBlank "9223372036854775808".toList) = .error .tooLarge := by
      decide
    rw [namesProcess_string, hread] at hnames
    cases hnames
  have hfield (found : Json) : (named found).field? "processId" = some found := rfl
  obtain ⟨hperforms, hsame⟩ := (attaches_to_named_process debugger {} adapter
    (named (.string text))).1 _ _ (hfield _) htext
  have hrefused := (attaches_to_named_process debugger {} adapter
    (named (.string "9223372036854775808"))).2
  refine ⟨htext, hnumber, hnone, hperforms, hsame _ _ (hfield _) hnumber, hrefused ?_⟩
  rintro found id ⟨⟩
  exact hnone id

end Adapter

end DebugAdapter
