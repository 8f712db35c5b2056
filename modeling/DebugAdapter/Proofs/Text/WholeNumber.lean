import DebugAdapter.Text.Blank
import DebugAdapter.Text.WholeNumber
import Mathlib.Data.List.Basic
import Mathlib.Data.List.TakeWhile

/-!
# Reading back decimal digits

The texts that are read as a number, also with a sign in front and white space around them.
-/

namespace DebugAdapter

namespace WholeNumber

theorem le_ofDigitChars (n : Nat) (digits : List Char) : n ≤ Nat.ofDigitChars 10 digits n := by
  induction digits generalizing n with
  | nil => simp
  | cons c digits ih =>
    have h := ih (10 * n + (c.toNat - '0'.toNat))
    rw [Nat.ofDigitChars_cons]
    omega

/-- Digits are read as the number they spell behind `n`. The number only grows from
left to right, so that the last value decides about the limit. -/
theorem magnitude_digits {limit n : Nat} {beyond : Fault} {digits : List Char}
    (hdigits : ∀ c ∈ digits, c.isDigit) (hlimit : Nat.ofDigitChars 10 digits n ≤ limit) :
    magnitude limit beyond n digits = .ok (Nat.ofDigitChars 10 digits n) := by
  induction digits generalizing n with
  | nil => simp [magnitude]
  | cons c digits ih =>
    have hc : digit? c = some (c.toNat - '0'.toNat) := by
      rw [digit?, if_pos (hdigits c (by simp))]
    rw [Nat.ofDigitChars_cons, Nat.mul_comm 10 n] at hlimit ⊢
    have hstep := Nat.le_trans (le_ofDigitChars _ digits) hlimit
    rw [magnitude, hc]
    simp only
    rw [if_pos hstep]
    exact ih (fun d hd => hdigits d (by simp [hd])) hlimit

theorem isDigit_of_magnitude {limit n m : Nat} {beyond : Fault} {digits : List Char}
    (h : magnitude limit beyond n digits = .ok m) {c : Char} (hc : c ∈ digits) : c.isDigit := by
  induction digits generalizing n with
  | nil => cases hc
  | cons d digits ih =>
    by_cases hd : d.isDigit
    · simp only [magnitude, digit?, hd, if_true] at h
      rcases List.mem_cons.1 hc with rfl | hc
      · exact hd
      · split at h
        · exact ih h hc
        · cases h
    · simp only [magnitude, digit?, hd] at h
      cases h

theorem ofDigitChars_of_magnitude {limit n m : Nat} {beyond : Fault} {digits : List Char}
    (hn : n ≤ limit) (h : magnitude limit beyond n digits = .ok m) :
    Nat.ofDigitChars 10 digits n = m ∧ m ≤ limit := by
  induction digits generalizing n with
  | nil =>
    obtain rfl : n = m := Except.ok.inj h
    exact ⟨Nat.ofDigitChars_nil, hn⟩
  | cons c digits ih =>
    have hdigit : c.isDigit := isDigit_of_magnitude h (.head digits)
    simp only [magnitude, digit?, hdigit, if_true] at h
    split at h
    next hstep =>
      rw [Nat.ofDigitChars_cons, Nat.mul_comm 10 n]
      exact ih hstep h
    next => cases h

/-- The digits of a number: at least one, and as many zeros in front as one likes. -/
structure Spells (n : Nat) (digits : List Char) : Prop where
  some : digits ≠ []
  isDigit : ∀ c ∈ digits, c.isDigit
  value : Nat.ofDigitChars 10 digits 0 = n

theorem magnitude_eq_ok {limit n : Nat} {beyond : Fault} {digits : List Char} (hsome : digits ≠ []) :
    magnitude limit beyond 0 digits = .ok n ↔ Spells n digits ∧ n ≤ limit := by
  constructor
  · intro h
    obtain ⟨hvalue, hlimit⟩ := ofDigitChars_of_magnitude (Nat.zero_le limit) h
    exact ⟨⟨hsome, fun c hc => isDigit_of_magnitude h hc, hvalue⟩, hlimit⟩
  · rintro ⟨⟨-, hdigits, rfl⟩, hlimit⟩
    exact magnitude_digits hdigits hlimit

theorem Spells.head_ne {n : Nat} {digits : List Char} (h : Spells n digits) {c : Char}
    (hc : c.isDigit = false) (others : List Char) : digits ≠ c :: others := by
  rintro rfl
  rw [h.isDigit c (.head others)] at hc
  cases hc

/-- The texts that are read as a number are its digits, with or without a plus in front. -/
theorem unsigned_eq_ok {limit n : Nat} {text : List Char} :
    unsigned limit text = .ok n ↔
      n ≤ limit ∧ ∃ digits, Spells n digits ∧ (text = digits ∨ text = '+' :: digits) := by
  constructor
  · intro h
    unfold unsigned at h
    split at h
    next => cases h
    next => cases h
    next digits hsome =>
      have hdigits : digits ≠ [] := by
        rintro rfl
        exact hsome rfl
      obtain ⟨hspells, hlimit⟩ := (magnitude_eq_ok hdigits).1 h
      exact ⟨hlimit, digits, hspells, .inr rfl⟩
    next hsome _ _ =>
      obtain ⟨hspells, hlimit⟩ := (magnitude_eq_ok hsome).1 h
      exact ⟨hlimit, text, hspells, .inl rfl⟩
  · rintro ⟨hlimit, digits, hspells, rfl | rfl⟩
    · -- the first character is a digit, so it is no sign
      have hmagnitude : magnitude limit .tooLarge 0 text = .ok n :=
        (magnitude_eq_ok hspells.some).2 ⟨hspells, hlimit⟩
      unfold unsigned
      split
      next => exact absurd rfl hspells.some
      next => exact absurd rfl (hspells.head_ne rfl [])
      next digits _ => exact absurd rfl (hspells.head_ne rfl digits)
      next => exact hmagnitude
    · have hmagnitude : magnitude limit .tooLarge 0 digits = .ok n :=
        (magnitude_eq_ok hspells.some).2 ⟨hspells, hlimit⟩
      cases digits with
      | nil => exact absurd rfl hspells.some
      | cons d digits => exact hmagnitude

/-- The notation of an integer: the digits of a number, perhaps with a sign in front. -/
inductive Numeral : List Char → Int → Prop where
  | plain {n : Nat} {digits : List Char} (spells : Spells n digits) : Numeral digits n
  | plus {n : Nat} {digits : List Char} (spells : Spells n digits) : Numeral ('+' :: digits) n
  | minus {n : Nat} {digits : List Char} (spells : Spells n digits) : Numeral ('-' :: digits) (-n)

theorem map_magnitude_eq_ok {limit : Nat} {beyond : Fault} {digits : List Char} {sign : Nat → Int}
    {i : Int} (hsome : digits ≠ []) :
    sign <$> magnitude limit beyond 0 digits = .ok i ↔
      ∃ n, Spells n digits ∧ n ≤ limit ∧ sign n = i := by
  constructor
  · intro h
    cases hread : magnitude limit beyond 0 digits with
    | error fault =>
      rw [hread] at h
      cases h
    | ok n =>
      rw [hread] at h
      obtain ⟨hspells, hlimit⟩ := (magnitude_eq_ok hsome).1 hread
      exact ⟨n, hspells, hlimit, Except.ok.inj h⟩
  · rintro ⟨n, hspells, hlimit, rfl⟩
    rw [(magnitude_eq_ok hsome).2 ⟨hspells, hlimit⟩]
    rfl

theorem numeral_of_signed {text : List Char} {i : Int} (h : signed text = .ok i) :
    Numeral text i ∧ -0x8000000000000000 ≤ i ∧ i < 0x8000000000000000 := by
  unfold signed at h
  split at h
  next => cases h
  next => cases h
  next => cases h
  next digits hsome =>
    have hdigits : digits ≠ [] := by
      rintro rfl
      exact hsome rfl
    obtain ⟨n, hspells, hlimit, rfl⟩ := (map_magnitude_eq_ok hdigits).1 h
    exact ⟨.plus hspells, by simp only [Int.ofNat_eq_natCast]; omega⟩
  next digits hsome =>
    have hdigits : digits ≠ [] := by
      rintro rfl
      exact hsome rfl
    obtain ⟨n, hspells, hlimit, rfl⟩ := (map_magnitude_eq_ok hdigits).1 h
    exact ⟨.minus hspells, by simp only [Int.ofNat_eq_natCast]; omega⟩
  next hsome _ _ _ _ =>
    obtain ⟨n, hspells, hlimit, rfl⟩ := (map_magnitude_eq_ok hsome).1 h
    exact ⟨.plain hspells, by simp only [Int.ofNat_eq_natCast]; omega⟩

theorem signed_of_numeral {text : List Char} {i : Int} (h : Numeral text i)
    (hlow : -0x8000000000000000 ≤ i) (hhigh : i < 0x8000000000000000) : signed text = .ok i := by
  cases h with
  | @plain n _ spells =>
    -- the first character is a digit, so it is no sign
    have hread : Int.ofNat <$> magnitude 0x7FFFFFFFFFFFFFFF .tooLarge 0 text = .ok (n : Int) :=
      (map_magnitude_eq_ok spells.some).2 ⟨n, spells, by omega, rfl⟩
    unfold signed
    split
    next => exact absurd rfl spells.some
    next => exact absurd rfl (spells.head_ne rfl [])
    next => exact absurd rfl (spells.head_ne rfl [])
    next digits _ => exact absurd rfl (spells.head_ne rfl digits)
    next digits _ => exact absurd rfl (spells.head_ne rfl digits)
    next => exact hread
  | @plus n digits spells =>
    have hread : Int.ofNat <$> magnitude 0x7FFFFFFFFFFFFFFF .tooLarge 0 digits = .ok (n : Int) :=
      (map_magnitude_eq_ok spells.some).2 ⟨n, spells, by omega, rfl⟩
    cases digits with
    | nil => exact absurd rfl spells.some
    | cons d digits => exact hread
  | @minus n digits spells =>
    have hread : (fun n => -Int.ofNat n) <$> magnitude 0x8000000000000000 .tooSmall 0 digits =
        .ok (-n : Int) :=
      (map_magnitude_eq_ok spells.some).2 ⟨n, spells, by omega, rfl⟩
    cases digits with
    | nil => exact absurd rfl spells.some
    | cons d digits => exact hread

/-- The texts that are read as an integer are its numerals, if it fits in 64 bits. -/
theorem signed_eq_ok {text : List Char} {i : Int} :
    signed text = .ok i ↔
      Numeral text i ∧ -0x8000000000000000 ≤ i ∧ i < 0x8000000000000000 :=
  ⟨numeral_of_signed, fun ⟨hnumeral, hlow, hhigh⟩ => signed_of_numeral hnumeral hlow hhigh⟩

/-- A number is written in digits, but for a sign. -/
theorem isDigit_or_of_unsigned {limit n : Nat} {text : List Char}
    (h : unsigned limit text = .ok n) {c : Char} (hc : c ∈ text) : c.isDigit ∨ c = '+' := by
  obtain ⟨-, digits, hspells, rfl | rfl⟩ := unsigned_eq_ok.1 h
  · exact .inl (hspells.isDigit c hc)
  · rcases List.mem_cons.1 hc with rfl | hdigit
    · exact .inr rfl
    · exact .inl (hspells.isDigit c hdigit)

theorem isDigit_of_mem_toDigits {n : Nat} {c : Char} (h : c ∈ Nat.toDigits 10 n) : c.isDigit :=
  Nat.isDigit_of_mem_toDigits (by decide) (by decide) h

theorem spells_toDigits (n : Nat) : Spells n (Nat.toDigits 10 n) where
  some := Nat.toDigits_ne_nil
  isDigit _ hc := isDigit_of_mem_toDigits hc
  value := Nat.ofDigitChars_ten_toDigits

theorem unsigned_toDigits {limit n : Nat} (h : n ≤ limit) :
    unsigned limit (Nat.toDigits 10 n) = .ok n :=
  unsigned_eq_ok.2 ⟨h, _, spells_toDigits n, .inl rfl⟩

end WholeNumber

theorem toNat_of_isDigit {c : Char} (h : c.isDigit) : '0'.toNat ≤ c.toNat ∧ c.toNat ≤ '9'.toNat := by
  simpa [Char.isDigit, UInt32.le_iff_toNat_le] using h

theorem isBlank_of_isDigit {c : Char} (h : c.isDigit) : isBlank c = false := by
  have hc := toNat_of_isDigit h
  have hle (d : Char) : d ≤ c ↔ d.toNat ≤ c.toNat := Char.le_def.trans UInt32.le_iff_toNat_le
  have hge (d : Char) : c ≤ d ↔ c.toNat ≤ d.toNat := Char.le_def.trans UInt32.le_iff_toNat_le
  have heq (d : Char) : c = d ↔ c.toNat = d.toNat := ⟨congrArg _, fun h => Char.toNat_inj.1 h⟩
  simp only [isBlank, hle, hge, heq, Char.reduceToNat] at hc ⊢
  simp
  omega

theorem WholeNumber.Numeral.isBlank {text : List Char} {i : Int} (h : Numeral text i) {c : Char}
    (hc : c ∈ text) : isBlank c = false := by
  cases h with
  | plain spells => exact isBlank_of_isDigit (spells.isDigit c hc)
  | plus spells | minus spells =>
    rcases List.mem_cons.1 hc with rfl | hdigit
    · decide
    · exact isBlank_of_isDigit (spells.isDigit c hdigit)

/-! ## The ends of a text -/

theorem dropTrailing_append_of_all {p : Char → Bool} {front back : List Char}
    (hback : ∀ c ∈ back, p c) : dropTrailing p (front ++ back) = dropTrailing p front := by
  rw [dropTrailing, List.reverse_append, List.dropWhile_append_of_pos]
  · rfl
  · simpa using hback

theorem dropTrailing_of_none {p : Char → Bool} {text : List Char}
    (h : ∀ c ∈ text, p c = false) : dropTrailing p text = text := by
  rw [dropTrailing, List.dropWhile_eq_self_iff.2, List.reverse_reverse]
  intro hlength
  simpa using h _ (List.mem_reverse.1 (List.getElem_mem hlength))

theorem dropTrailing_append_of_ne_nil {p : Char → Bool} (front : List Char) {back : List Char}
    (hback : dropTrailing p back ≠ []) :
    dropTrailing p (front ++ back) = front ++ dropTrailing p back := by
  have hempty : (back.reverse.dropWhile p).isEmpty = false := by
    simpa [dropTrailing] using hback
  rw [dropTrailing, List.reverse_append, List.dropWhile_append, hempty]
  simp [dropTrailing]

theorem mem_of_mem_dropTrailing {p : Char → Bool} {text : List Char} {c : Char}
    (h : c ∈ dropTrailing p text) : c ∈ text :=
  List.mem_reverse.1 ((List.dropWhile_sublist p).subset (List.mem_reverse.1 h))

theorem mem_dropWhile_of_not {p : Char → Bool} {text : List Char} {c : Char} (hc : c ∈ text)
    (h : p c = false) : c ∈ text.dropWhile p := by
  rw [← List.takeWhile_append_dropWhile (p := p) (l := text), List.mem_append] at hc
  rcases hc with hc | hc
  · rw [List.mem_takeWhile_imp hc] at h
    cases h
  · exact hc

/-- A text keeps every character that is no white space. -/
theorem mem_trimBlank_of_not {text : List Char} {c : Char} (hc : c ∈ text)
    (h : isBlank c = false) : c ∈ trimBlank text := by
  have hfront := mem_dropWhile_of_not hc h
  exact List.mem_reverse.2 (mem_dropWhile_of_not (List.mem_reverse.2 hfront) h)

theorem dropTrailing_eq_nil {p : Char → Bool} {text : List Char} :
    dropTrailing p text = [] ↔ ∀ c ∈ text, p c := by
  rw [dropTrailing, List.reverse_eq_nil_iff, List.dropWhile_eq_nil_iff]
  simp only [List.mem_reverse]

theorem exists_append_dropTrailing (p : Char → Bool) (text : List Char) :
    ∃ ends, text = dropTrailing p text ++ ends ∧ ∀ c ∈ ends, p c := by
  refine ⟨(text.reverse.takeWhile p).reverse, ?_, ?_⟩
  · rw [dropTrailing, ← List.reverse_append, List.takeWhile_append_dropWhile, List.reverse_reverse]
  · intro c hc
    exact List.mem_takeWhile_imp (List.mem_reverse.1 hc)

/-! ## White space at the ends -/

theorem trimBlank_append_of_blank {front : List Char} (h : ∀ c ∈ front, isBlank c)
    (text : List Char) : trimBlank (front ++ text) = trimBlank text := by
  rw [trimBlank, List.dropWhile_append_of_pos h, trimBlank]

theorem trimBlank_blank_append {back : List Char} (h : ∀ c ∈ back, isBlank c)
    (text : List Char) : trimBlank (text ++ back) = trimBlank text := by
  rw [trimBlank, List.dropWhile_append]
  split
  next hnone =>
    -- with nothing but white space in front, nothing is left of either text
    have hblank : back.dropWhile isBlank = [] := List.dropWhile_eq_nil_iff.2 h
    rw [hblank, trimBlank, List.isEmpty_iff.1 hnone]
  next => rw [dropTrailing_append_of_all h, trimBlank]

theorem trimBlank_of_none {text : List Char} (h : ∀ c ∈ text, isBlank c = false) :
    trimBlank text = text := by
  have hfront : text.dropWhile isBlank = text := by
    rw [List.dropWhile_eq_self_iff]
    intro hlength
    simpa using h _ (List.getElem_mem hlength)
  rw [trimBlank, hfront, dropTrailing_of_none h]

/-- A text without white space is found between white space. -/
theorem trimBlank_between {front text back : List Char} (hfront : ∀ c ∈ front, isBlank c)
    (htext : ∀ c ∈ text, isBlank c = false) (hback : ∀ c ∈ back, isBlank c) :
    trimBlank (front ++ (text ++ back)) = text := by
  rw [trimBlank_append_of_blank hfront, trimBlank_blank_append hback, trimBlank_of_none htext]

theorem exists_append_trimBlank (text : List Char) :
    ∃ front back, text = front ++ (trimBlank text ++ back) ∧ (∀ c ∈ front, isBlank c) ∧
      ∀ c ∈ back, isBlank c := by
  obtain ⟨back, hback, hblank⟩ := exists_append_dropTrailing isBlank (text.dropWhile isBlank)
  refine ⟨text.takeWhile isBlank, back, ?_, fun c hc => List.mem_takeWhile_imp hc, hblank⟩
  rw [trimBlank, ← hback, List.takeWhile_append_dropWhile]

/-- A written number loses the space in front of it and nothing else. -/
theorem trimBlank_space_toDigits (n : Nat) :
    trimBlank (' ' :: Nat.toDigits 10 n) = Nat.toDigits 10 n := by
  have hblank : ∀ c ∈ Nat.toDigits 10 n, isBlank c = false := fun c hc =>
    isBlank_of_isDigit (WholeNumber.isDigit_of_mem_toDigits hc)
  have hspace : ∀ c ∈ [' '], isBlank c := by
    intro c hc
    rw [List.mem_singleton.1 hc]
    decide
  rw [← List.singleton_append, trimBlank_append_of_blank hspace, trimBlank_of_none hblank]

end DebugAdapter
