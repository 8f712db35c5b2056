import DebugAdapter.Json.StringLiteral
import DebugAdapter.Proofs.Json.Printable

/-!
# Reading back string literals

A literal is read as the text that it was made of, whatever comes behind it.
-/

namespace DebugAdapter

open Ascii

namespace Json.Reader

/-- Bytes that a literal may hold as they are. -/
def IsPlain (b : UInt8) : Prop :=
  b ≠ quotationMark ∧ b ≠ backslash ∧ space ≤ b

theorem literalBytes_plain {bytes : Bytes} (h : ∀ b ∈ bytes, IsPlain b) (acc rest : Bytes) :
    literalBytes acc (bytes ++ rest) = literalBytes (bytes.reverse ++ acc) rest := by
  induction bytes generalizing acc with
  | nil => rfl
  | cons b bytes ih =>
    obtain ⟨hquote, hbackslash, hspace⟩ := h b (by simp)
    have hstep : literalBytes acc (b :: (bytes ++ rest)) =
        literalBytes (b :: acc) (bytes ++ rest) := by
      rw [literalBytes.eq_def]
      simp [hquote, hbackslash, UInt8.not_lt.2 hspace]
    rw [List.cons_append, hstep, ih fun d hd => h d (by simp [hd])]
    simp

theorem literalBytes_short {e b : UInt8} (hletter : e ≠ letterU) (h : shortEscape? e = some b)
    (acc rest : Bytes) :
    literalBytes acc (backslash :: e :: rest) = literalBytes (b :: acc) rest := by
  rw [literalBytes.eq_def]
  simp [hletter, h, show backslash ≠ quotationMark by decide, show ¬ backslash < space by decide]

theorem literalBytes_hexadecimal {h₁ h₂ h₃ h₄ : UInt8} {n : Nat}
    (h : fourHex? h₁ h₂ h₃ h₄ = some n) (hn : n < 0xD800) (acc rest : Bytes) :
    literalBytes acc (backslash :: letterU :: h₁ :: h₂ :: h₃ :: h₄ :: rest) =
      literalBytes (collect (Char.ofNat n) acc) rest := by
  have hleading : isLeading n = false := by simp [isLeading]; omega
  have htrailing : isTrailing n = false := by simp [isTrailing]; omega
  rw [literalBytes.eq_def]
  simp [h, hleading, htrailing, show backslash ≠ quotationMark by decide,
    show ¬ backslash < space by decide]

/-- The bytes of a character that is no quote, backslash or control character. -/
theorem isPlain_of_mem_encodeChar {c : Char} (hspace : ' ' ≤ c) (hquote : c ≠ '"')
    (hbackslash : c ≠ '\\') {b : UInt8} (hb : b ∈ String.utf8EncodeChar c) : IsPlain b := by
  have hascii : b.toNat < 0x80 → c.toNat = b.toNat := fun hlow =>
    Utf8.toNat_eq_of_mem_encodeChar hlow hb
  refine ⟨?_, ?_, ?_⟩
  · rintro rfl
    exact hquote (Char.toNat_inj.1 (hascii (by decide)))
  · rintro rfl
    exact hbackslash (Char.toNat_inj.1 (hascii (by decide)))
  · have hplain : Printable [c] := Printable.cons.2 ⟨hspace, .nil⟩
    exact hplain.space_le_of_mem_encodeChars (by simpa [Utf8.encodeChars] using hb)

theorem shortEscape?_of_mem : ∀ pair ∈ shortEscapes,
    UInt8.ofNat pair.2.toNat ≠ letterU ∧ pair.1.toNat < 0x80 ∧ pair.2.toNat < 0x80 ∧
      shortEscape? (UInt8.ofNat pair.2.toNat) = some (UInt8.ofNat pair.1.toNat) := by
  decide

theorem fourHex?_hexDigit : ∀ n < 0x20,
    fourHex? zero zero (UInt8.ofNat (hexDigit (n / 16)).toNat)
      (UInt8.ofNat (hexDigit (n % 16)).toNat) = some n := by
  decide

theorem toNat_hexDigit_lt : ∀ n < 16, (hexDigit n).toNat < 0x80 := by
  decide

/-- A character is read as itself, in front of whatever is left of the literal. -/
theorem literalBytes_escape (c : Char) (acc rest : Bytes) :
    literalBytes acc (Utf8.encodeChars (escape c) ++ rest) = literalBytes (collect c acc) rest := by
  rcases escape_cases c with ⟨hescape, hspace, hquote, hbackslash⟩ | ⟨e, hescape, he⟩ |
    ⟨hescape, hcontrol⟩
  · have hplain : ∀ b ∈ String.utf8EncodeChar c, IsPlain b := fun b hb =>
      isPlain_of_mem_encodeChar hspace hquote hbackslash hb
    rw [hescape, Utf8.encodeChars_cons, Utf8.encodeChars, List.flatMap_nil, List.append_nil,
      literalBytes_plain hplain, collect]
  · obtain ⟨hletter, hc, he', hshort⟩ := shortEscape?_of_mem _ he
    have hbytes : Utf8.encodeChars ['\\', e] = [backslash, UInt8.ofNat e.toNat] := by
      rw [Utf8.encodeChars_of_ascii (by simpa using he')]
      rfl
    rw [hescape, hbytes, collect, Utf8.encodeChar_of_ascii hc]
    exact literalBytes_short hletter hshort acc rest
  · have hhigh := toNat_hexDigit_lt (c.toNat / 16) (by omega)
    have hlow := toNat_hexDigit_lt (c.toNat % 16) (by omega)
    have hbytes : Utf8.encodeChars
        ['\\', 'u', '0', '0', hexDigit (c.toNat / 16), hexDigit (c.toNat % 16)] =
        [backslash, letterU, zero, zero, UInt8.ofNat (hexDigit (c.toNat / 16)).toNat,
          UInt8.ofNat (hexDigit (c.toNat % 16)).toNat] := by
      rw [Utf8.encodeChars_of_ascii (by simp [hhigh, hlow])]
      rfl
    have hcollect := literalBytes_hexadecimal (fourHex?_hexDigit c.toNat hcontrol) (by omega) acc rest
    rw [Char.ofNat_toNat] at hcollect
    rw [hescape, hbytes]
    exact hcollect

theorem literalBytes_escaped (chars : List Char) (acc rest : Bytes) :
    literalBytes acc (Utf8.encodeChars (chars.flatMap escape) ++ quotationMark :: rest) =
      .ok ((Utf8.encodeChars chars).reverse ++ acc, rest) := by
  induction chars generalizing acc with
  | nil =>
    rw [List.flatMap_nil, Utf8.encodeChars, List.flatMap_nil, List.nil_append,
      literalBytes.eq_def]
    simp
  | cons c chars ih =>
    rw [List.flatMap_cons, Utf8.encodeChars_append, List.append_assoc, literalBytes_escape, ih,
      Utf8.encodeChars_cons, collect, List.reverse_append, List.append_assoc]

/-- A literal is read as the text in it, and what comes behind its closing quote is left. -/
theorem stringLiteral_escaped (text : String) (rest : Bytes) :
    stringLiteral (Utf8.encodeChars (text.toList.flatMap escape) ++ quotationMark :: rest) =
      .ok (text, rest) := by
  have hdecode : Utf8.decode? (Utf8.encodeChars text.toList) = some text := by
    rw [Utf8.decode?_encodeChars, String.ofList_toList]
  rw [stringLiteral, literalBytes_escaped]
  simp [bind, Except.bind, hdecode, pure, Except.pure]

end Json.Reader

end DebugAdapter
