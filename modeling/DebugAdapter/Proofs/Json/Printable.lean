import DebugAdapter.Message
import DebugAdapter.Proofs.Text.Utf8
import DebugAdapter.Proofs.Text.WholeNumber
import DebugAdapter.Text.Ascii

/-!
# JSON text without control characters

Where a value has a control character, its text has an escape. So the text is one line, and none of
its bytes is less than that of the space.
-/

namespace DebugAdapter

/-- Characters that are not below the space. -/
def Printable (text : List Char) : Prop :=
  ∀ c ∈ text, ' ' ≤ c

instance (text : List Char) : Decidable (Printable text) :=
  decidable_of_iff (text.all fun c => decide (' ' ≤ c)) (by simp [Printable])

namespace Printable

@[simp]
theorem nil : Printable [] :=
  fun _ h => absurd h List.not_mem_nil

@[simp]
theorem cons {c : Char} {text : List Char} : Printable (c :: text) ↔ ' ' ≤ c ∧ Printable text :=
  List.forall_mem_cons

@[simp]
theorem append {text others : List Char} :
    Printable (text ++ others) ↔ Printable text ∧ Printable others :=
  List.forall_mem_append

theorem sublist {text others : List Char} (h : Printable others) (hsub : text.Sublist others) :
    Printable text :=
  fun c hc => h c (hsub.subset hc)

theorem flatMap {α : Type} {items : List α} {f : α → List Char} (h : ∀ a ∈ items, Printable (f a)) :
    Printable (items.flatMap f) := by
  intro c hc
  obtain ⟨a, ha, hca⟩ := List.mem_flatMap.1 hc
  exact h a ha c hca

theorem replicate {c : Char} (h : ' ' ≤ c) (n : Nat) : Printable (List.replicate n c) := by
  intro d hd
  rw [List.eq_of_mem_replicate hd]
  exact h

theorem toDigits (n : Nat) : Printable (Nat.toDigits 10 n) := by
  intro c hc
  obtain ⟨hzero, -⟩ := toNat_of_isDigit (WholeNumber.isDigit_of_mem_toDigits hc)
  have hlow : '0' ≤ c := Char.le_def.2 (UInt32.le_iff_toNat_le.2 hzero)
  exact Char.le_trans (by decide) hlow

/-- The bytes of a text are above the control characters if its characters are. -/
theorem space_le_of_mem_encodeChars {text : List Char} (h : Printable text) {b : UInt8}
    (hb : b ∈ Utf8.encodeChars text) : Ascii.space ≤ b := by
  by_contra hlow
  have hlow : b.toNat < 0x20 := by
    rw [UInt8.le_iff_toNat_le, Nat.not_le] at hlow
    exact hlow
  obtain ⟨c, hc, hcb⟩ := Utf8.mem_encodeChars_of_ascii (by omega) hb
  have hspace : ' '.toNat ≤ c.toNat := UInt32.le_iff_toNat_le.1 (Char.le_def.1 (h c hc))
  have hvalue : ' '.toNat = 0x20 := rfl
  omega

end Printable

/-! ## Numbers -/

namespace Binary64

theorem Layout.printable_place (layout : Layout) {digits : List Char} (h : Printable digits)
    (j : Int) : Printable (layout.place digits j) := by
  have hzeros (n : Nat) : Printable (List.replicate n '0') := .replicate (by decide) n
  have hpadded (n : Nat) : Printable (digits ++ List.replicate n '0') :=
    Printable.append.2 ⟨h, hzeros n⟩
  unfold place
  dsimp only
  split
  · split
    · exact Printable.cons.2
        ⟨by decide, Printable.cons.2 ⟨by decide, Printable.append.2 ⟨hzeros _, h⟩⟩⟩
    · refine Printable.append.2 ⟨(hpadded _).sublist (List.take_sublist _ _), ?_⟩
      refine Printable.cons.2 ⟨by decide, ?_⟩
      split
      · decide
      · exact (hpadded _).sublist (List.drop_sublist _ _)
  · refine Printable.append.2 ⟨?_, Printable.cons.2 ⟨by decide, Printable.cons.2 ⟨?_, .toDigits _⟩⟩⟩
    · split
      next first second rest _ =>
        obtain ⟨hfirst, hothers⟩ := Printable.cons.1 h
        exact Printable.cons.2 ⟨hfirst, Printable.cons.2 ⟨by decide, hothers⟩⟩
      next => exact h
    · split <;> decide

theorem printable_render (layout : Layout) (x : Binary64) : Printable (x.render layout) := by
  have hmagnitude : Printable (if x.significand = 0 then ['0', '.', '0'] else
      layout.place (Nat.toDigits 10 x.shortest.1) x.shortest.2) := by
    split
    · decide
    · exact layout.printable_place (.toDigits _) _
  rw [render]
  split
  · exact Printable.cons.2 ⟨by decide, hmagnitude⟩
  · exact hmagnitude

end Binary64

namespace Json

theorem printable_renderInt (i : Int) : Printable (renderInt i) := by
  cases i with
  | ofNat n => exact .toDigits n
  | negSucc n => exact Printable.cons.2 ⟨by decide, .toDigits _⟩

/-! ## Strings -/

/-- Characters with an escape of two characters, and the second one of it. -/
def shortEscapes : List (Char × Char) :=
  [('"', '"'), ('\\', '\\'), ('\x08', 'b'), ('\t', 't'), ('\n', 'n'), ('\x0c', 'f'), ('\r', 'r')]

/-- A character stands for itself, has a short escape, or has one in hexadecimal. -/
theorem escape_cases (c : Char) :
    (escape c = [c] ∧ ' ' ≤ c ∧ c ≠ '"' ∧ c ≠ '\\') ∨
    (∃ e, escape c = ['\\', e] ∧ (c, e) ∈ shortEscapes) ∨
    (escape c = ['\\', 'u', '0', '0', hexDigit (c.toNat / 16), hexDigit (c.toNat % 16)] ∧
      c.toNat < 0x20) := by
  by_cases hspace : ' ' ≤ c
  · by_cases hquote : c = '"'
    · subst hquote
      exact .inr (.inl ⟨'"', rfl, by decide⟩)
    · by_cases hbackslash : c = '\\'
      · subst hbackslash
        exact .inr (.inl ⟨'\\', rfl, by decide⟩)
      · refine .inl ⟨?_, hspace, hquote, hbackslash⟩
        rw [escape, if_neg hquote, if_neg hbackslash, if_pos hspace]
  · have hcontrol : c.toNat < 0x20 := by
      rw [Char.le_def, UInt32.le_iff_toNat_le, Nat.not_le] at hspace
      exact hspace
    refine .inr ?_
    rw [escape, if_neg (by rintro rfl; exact hspace (by decide)),
      if_neg (by rintro rfl; exact hspace (by decide)), if_neg hspace]
    split; · exact .inl ⟨'b', rfl, by simp [shortEscapes, *]⟩
    split; · exact .inl ⟨'t', rfl, by simp [shortEscapes, *]⟩
    split; · exact .inl ⟨'n', rfl, by simp [shortEscapes, *]⟩
    split; · exact .inl ⟨'f', rfl, by simp [shortEscapes, *]⟩
    split; · exact .inl ⟨'r', rfl, by simp [shortEscapes, *]⟩
    exact .inr ⟨rfl, hcontrol⟩

theorem space_le_of_mem_shortEscapes : ∀ pair ∈ shortEscapes, ' ' ≤ pair.2 := by
  decide

theorem space_le_hexDigit : ∀ n < 16, ' ' ≤ hexDigit n := by
  decide

theorem printable_escape (c : Char) : Printable (escape c) := by
  rcases escape_cases c with ⟨hescape, hspace, -⟩ | ⟨e, hescape, he⟩ | ⟨hescape, hcontrol⟩
  · rw [hescape]
    exact Printable.cons.2 ⟨hspace, .nil⟩
  · rw [hescape]
    exact Printable.cons.2
      ⟨by decide, Printable.cons.2 ⟨space_le_of_mem_shortEscapes _ he, .nil⟩⟩
  · have hhigh := space_le_hexDigit (c.toNat / 16) (by omega)
    have hlow := space_le_hexDigit (c.toNat % 16) (by omega)
    have hdigits : Printable [hexDigit (c.toNat / 16), hexDigit (c.toNat % 16)] :=
      Printable.cons.2 ⟨hhigh, Printable.cons.2 ⟨hlow, .nil⟩⟩
    rw [hescape, show ['\\', 'u', '0', '0', hexDigit (c.toNat / 16), hexDigit (c.toNat % 16)] =
      ['\\', 'u', '0', '0'] ++ [hexDigit (c.toNat / 16), hexDigit (c.toNat % 16)] from rfl]
    exact Printable.append.2 ⟨by decide, hdigits⟩

theorem printable_quote (text : String) : Printable (quote text) := by
  refine Printable.cons.2 ⟨by decide, Printable.append.2 ⟨?_, by decide⟩⟩
  exact Printable.flatMap fun c _ => printable_escape c

/-! ## Values -/

mutual

theorem printable_chars : ∀ value : Json, Printable value.chars
  | .null | .bool true | .bool false => by decide
  | .int i => printable_renderInt i
  | .double x => x.printable_render .message
  | .string s => printable_quote s
  | .array items => by
    rw [chars, Printable.cons, Printable.append]
    exact ⟨by decide, printable_itemChars items, by decide⟩
  | .object fields => by
    rw [chars, Printable.cons, Printable.append]
    exact ⟨by decide, printable_fieldChars fields, by decide⟩

theorem printable_itemChars : ∀ items : List Json, Printable (itemChars items)
  | [] => .nil
  | [value] => printable_chars value
  | value :: next :: rest => by
    rw [itemChars, Printable.append, Printable.cons]
    exact ⟨printable_chars value, by decide, printable_itemChars (next :: rest)⟩

theorem printable_fieldChars : ∀ fields : List (String × Json), Printable (fieldChars fields)
  | [] => .nil
  | [(name, value)] => by
    rw [fieldChars, Printable.append, Printable.cons]
    exact ⟨printable_quote name, by decide, printable_chars value⟩
  | (name, value) :: next :: rest => by
    rw [fieldChars, Printable.append, Printable.cons, Printable.append, Printable.cons]
    exact ⟨printable_quote name, by decide, printable_chars value, by decide,
      printable_fieldChars (next :: rest)⟩

end

end Json

/-! ## Messages -/

theorem Message.payload_toList (seq : Nat) (message : Message) :
    (message.payload seq).toList =
      (Json.object (("seq", .int seq) :: message.fields)).chars := by
  rw [payload, Json.render, String.toList_ofList]

theorem Message.printable_payload (seq : Nat) (message : Message) :
    Printable (message.payload seq).toList := by
  rw [payload_toList]
  exact Json.printable_chars _

end DebugAdapter
