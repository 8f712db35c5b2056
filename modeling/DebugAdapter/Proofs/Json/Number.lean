import DebugAdapter.Json.Number
import DebugAdapter.Json.Printer
import DebugAdapter.Proofs.Text.Utf8
import DebugAdapter.Proofs.Text.WholeNumber

/-!
# Reading back integers

The digits of an integer that fits in 64 bits are read as the integer, in front of anything with
which no number goes on.
-/

namespace DebugAdapter

open Ascii

/-- Only zero is written with a zero in front. -/
theorem WholeNumber.head_toDigits {n : Nat} (h : 0 < n) (digits : List Char) :
    Nat.toDigits 10 n ≠ '0' :: digits := by
  induction n using Nat.strongRecOn generalizing digits with
  | ind n ih =>
    by_cases hsmall : n < 10
    · have hdigit : ∀ m < 10, 0 < m → m.digitChar ≠ '0' := by decide
      rw [Nat.toDigits_of_lt_base hsmall]
      intro heq
      exact hdigit n hsmall h (List.cons.inj heq).1
    · rw [Nat.toDigits_of_base_le (by decide) (by omega)]
      intro heq
      -- the digits of `n / 10` are those in front of the last
      cases hfront : Nat.toDigits 10 (n / 10) with
      | nil => exact absurd hfront Nat.toDigits_ne_nil
      | cons c front =>
        rw [hfront, List.cons_append] at heq
        obtain ⟨rfl, -⟩ := List.cons.inj heq
        exact ih (n / 10) (by omega) (by omega) front hfront

namespace Json

theorem asInt64?_eq_some {value : Json} {i : Int64} :
    value.asInt64? = some i ↔ value = .ofInt64 i := by
  constructor
  · intro h
    cases value with
    | int n =>
      rw [asInt64?] at h
      split at h
      next hrange =>
        obtain rfl : Int64.ofInt n = i := Option.some.inj h
        rw [ofInt64, Int64.toInt_ofInt_of_le (by omega) (by omega)]
      next => cases h
    | _ => cases h
  · rintro rfl
    have hlow := i.le_toInt
    have hhigh := i.toInt_lt
    rw [ofInt64, asInt64?, if_pos (by omega), Int64.ofInt_toInt]

namespace Reader

/-- Nothing, or a byte that goes on with the array or object around a value. -/
def Delimited (rest : Bytes) : Prop :=
  ∀ b ∈ rest.head?, b = comma ∨ b = closeBracket ∨ b = closeBrace

namespace Delimited

theorem cons {b : UInt8} (h : b = comma ∨ b = closeBracket ∨ b = closeBrace) (rest : Bytes) :
    Delimited (b :: rest) := by
  intro d hd
  obtain rfl : b = d := by simpa using hd
  exact h

variable {rest : Bytes} (h : Delimited rest)
include h

/-- With what stands behind a value, no number goes on. -/
theorem not_number {b : UInt8} {others : Bytes} (hrest : rest = b :: others) :
    isDigit b = false ∧ b ≠ point ∧ b ≠ letterE ∧ b ≠ capitalE := by
  have hb : b = comma ∨ b = closeBracket ∨ b = closeBrace := h b (by simp [hrest])
  rcases hb with rfl | rfl | rfl <;> decide

theorem beginsWithDigit_eq : beginsWithDigit rest = false := by
  cases hrest : rest with
  | nil => rfl
  | cons b others => exact (h.not_number hrest).1

theorem keepDigits_eq (n : Nat) : keepDigits n rest = (n, 0, rest) := by
  cases hrest : rest with
  | nil => rfl
  | cons b others => simp [keepDigits, (h.not_number hrest).1]

theorem takeWhile_eq : rest.takeWhile isDigit = [] := by
  cases hrest : rest with
  | nil => rfl
  | cons b others => simp [(h.not_number hrest).1]

theorem dropWhile_eq : rest.dropWhile isDigit = rest := by
  have hsplit := List.takeWhile_append_dropWhile (p := isDigit) (l := rest)
  rwa [h.takeWhile_eq, List.nil_append] at hsplit

theorem afterWhole_eq (negative : Bool) (n : Nat) :
    afterWhole negative n 0 rest = integer negative n rest := by
  cases hrest : rest with
  | nil => rfl
  | cons b others =>
    obtain ⟨-, hpoint, hsmall, hcapital⟩ := h.not_number hrest
    simp [afterWhole, hpoint, hsmall, hcapital]

end Delimited

theorem lt_of_isDigit {c : Char} (h : c.isDigit) : c.toNat < 0x80 := by
  have hhigh : c.toNat ≤ 0x39 := (toNat_of_isDigit h).2
  omega

theorem toNat_ofNat_of_isDigit {c : Char} (h : c.isDigit) :
    (UInt8.ofNat c.toNat).toNat = c.toNat := by
  have hascii := lt_of_isDigit h
  rw [UInt8.toNat_ofNat']
  omega

/-- The byte of a digit. -/
theorem isDigit_ofNat {c : Char} (h : c.isDigit) :
    isDigit (UInt8.ofNat c.toNat) ∧ digitValue (UInt8.ofNat c.toNat) = c.toNat - '0'.toNat := by
  obtain ⟨hlow, hhigh⟩ := toNat_of_isDigit h
  have hbyte := toNat_ofNat_of_isDigit h
  refine ⟨?_, by rw [digitValue, hbyte]; rfl⟩
  rw [isDigit, Bool.and_eq_true, decide_eq_true_eq, decide_eq_true_eq, UInt8.le_iff_toNat_le,
    UInt8.le_iff_toNat_le, hbyte]
  exact ⟨hlow, hhigh⟩

theorem encodeChars_digits_cons {c : Char} {digits : List Char} (h : c.isDigit) :
    Utf8.encodeChars (c :: digits) = UInt8.ofNat c.toNat :: Utf8.encodeChars digits := by
  rw [Utf8.encodeChars_cons, Utf8.encodeChar_of_ascii (lt_of_isDigit h), List.singleton_append]

/-- Digits of a number that fits in 64 bits are all kept. -/
theorem keepDigits_digits {digits : List Char} {n : Nat} {rest : Bytes}
    (hdigits : ∀ c ∈ digits, c.isDigit)
    (hfits : Nat.ofDigitChars 10 digits n < 0x10000000000000000) (hrest : Delimited rest) :
    keepDigits n (Utf8.encodeChars digits ++ rest) =
      (Nat.ofDigitChars 10 digits n, digits.length, rest) := by
  induction digits generalizing n with
  | nil => exact hrest.keepDigits_eq n
  | cons c digits ih =>
    have hc : c.isDigit := hdigits c (by simp)
    obtain ⟨hdigit, hvalue⟩ := isDigit_ofNat hc
    rw [Nat.ofDigitChars_cons, Nat.mul_comm 10 n] at hfits ⊢
    have hgrows := WholeNumber.le_ofDigitChars (n * 10 + (c.toNat - '0'.toNat)) digits
    have hrec := ih (fun d hd => hdigits d (by simp [hd])) hfits
    rw [encodeChars_digits_cons hc, List.cons_append, keepDigits, hvalue,
      if_pos ⟨hdigit, by omega⟩, hrec]
    rfl

theorem number_zero (negative : Bool) {rest : Bytes} (hrest : Delimited rest) :
    number negative (zero :: rest) = integer negative 0 rest := by
  rw [number, if_pos rfl, hrest.beginsWithDigit_eq, if_neg (by decide), hrest.afterWhole_eq]

theorem number_digits {c : Char} {digits : List Char} {rest : Bytes}
    (hdigits : ∀ d ∈ c :: digits, d.isDigit) (hc : c ≠ '0')
    (hfits : Nat.ofDigitChars 10 (c :: digits) 0 < 0x10000000000000000) (negative : Bool)
    (hrest : Delimited rest) :
    number negative (Utf8.encodeChars (c :: digits) ++ rest) =
      integer negative (Nat.ofDigitChars 10 (c :: digits) 0) rest := by
  have hfirst : c.isDigit := hdigits c (by simp)
  have hothers : ∀ d ∈ digits, d.isDigit := fun d hd => hdigits d (by simp [hd])
  obtain ⟨hdigit, hvalue⟩ := isDigit_ofNat hfirst
  have hzero : UInt8.ofNat c.toNat ≠ zero := by
    intro heq
    have hbyte := toNat_ofNat_of_isDigit hfirst
    rw [heq] at hbyte
    exact hc (Char.toNat_inj.1 hbyte.symm)
  rw [Nat.ofDigitChars_cons, Nat.mul_zero, Nat.zero_add] at hfits ⊢
  rw [encodeChars_digits_cons hfirst, List.cons_append, number, if_neg hzero, if_pos hdigit, hvalue,
    keepDigits_digits hothers hfits hrest]
  simp [hrest.takeWhile_eq, hrest.dropWhile_eq, hrest.afterWhole_eq]

/-- A number that fits in 64 bits is read behind its sign. -/
theorem number_toDigits {n : Nat} (h : n < 0x10000000000000000) (negative : Bool) {rest : Bytes}
    (hrest : Delimited rest) :
    number negative (Utf8.encodeChars (Nat.toDigits 10 n) ++ rest) = integer negative n rest := by
  have hvalue : Nat.ofDigitChars 10 (Nat.toDigits 10 n) 0 = n := Nat.ofDigitChars_ten_toDigits
  have hall : ∀ d ∈ Nat.toDigits 10 n, d.isDigit := fun d hd =>
    WholeNumber.isDigit_of_mem_toDigits hd
  -- behind a zero in front no digit is read, so zero is not a number of one digit like the others
  rcases Nat.eq_zero_or_pos n with rfl | hpos
  · rw [Nat.toDigits_zero]
    exact number_zero negative hrest
  · cases hdigits : Nat.toDigits 10 n with
    | nil => exact absurd hdigits Nat.toDigits_ne_nil
    | cons c digits =>
      have hc : c ≠ '0' := by
        rintro rfl
        exact WholeNumber.head_toDigits hpos digits hdigits
      rw [hdigits] at hall hvalue
      rw [number_digits hall hc (by omega) negative hrest, hvalue]

end Reader

end Json

end DebugAdapter
