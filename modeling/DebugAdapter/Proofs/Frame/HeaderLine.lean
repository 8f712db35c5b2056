import DebugAdapter.Proofs.Frame.Grammar
import DebugAdapter.Proofs.Text.Lines

/-!
# What header lines say

The rules for the lines of a header block, said of the text of a line and without a scan.
-/

namespace DebugAdapter.Frame

/-- The text of a line. Bytes that spell no character count as characters of no meaning. -/
def lineText (line : Bytes) : List Char :=
  (Utf8.decodeLossy line).toList

/-- A line with nothing in it but carriage returns and line feeds. -/
def IsBlankLine (line : Bytes) : Prop :=
  ∀ c ∈ lineText line, c = '\r' ∨ c = '\n'

/-- A line that gives a length: the name of the field, the digits of the length, perhaps with a
plus in front, and white space around them. -/
def GivesLength (line : Bytes) (n : Nat) : Prop :=
  n < UInt64.size ∧ ∃ front digits numeral back,
    WholeNumber.Spells n digits ∧ (numeral = digits ∨ numeral = '+' :: digits) ∧
    (∀ c ∈ front, isBlank c) ∧ (∀ c ∈ back, isBlank c) ∧
    lineText line = lengthField ++ (front ++ (numeral ++ back))

theorem lt_size_iff_le_maxLength {n : Nat} : n < UInt64.size ↔ n ≤ maxLength := by
  have hsize : UInt64.size = maxLength + 1 := rfl
  rw [hsize, Nat.lt_succ_iff]

theorem isLineEnd_iff {c : Char} : isLineEnd c ↔ c = '\r' ∨ c = '\n' := by
  simp [isLineEnd]

theorem isBlank_of_isLineEnd {c : Char} (h : isLineEnd c) : isBlank c := by
  rcases isLineEnd_iff.1 h with rfl | rfl <;> decide

theorem isBlank_of_mem_numeral {n : Nat} {digits numeral : List Char}
    (hspells : WholeNumber.Spells n digits) (hnumeral : numeral = digits ∨ numeral = '+' :: digits)
    {c : Char} (hc : c ∈ numeral) : isBlank c = false := by
  rcases hnumeral with rfl | rfl
  · exact (WholeNumber.Numeral.plain hspells).isBlank hc
  · exact (WholeNumber.Numeral.plus hspells).isBlank hc

namespace HeaderLine

theorem ofBytes_eq_blank {line : Bytes} : ofBytes line = .blank ↔ IsBlankLine line := by
  have htext : dropTrailing isLineEnd (lineText line) = [] ↔ IsBlankLine line := by
    simp only [dropTrailing_eq_nil, isLineEnd_iff, IsBlankLine]
  rw [← htext, ofBytes, ← lineText]
  constructor
  · intro h
    split at h
    next hempty => exact List.isEmpty_iff.1 hempty
    next =>
      split at h
      · cases h
      · split at h <;> cases h
  · intro h
    simp only [h, List.isEmpty_nil, if_true]

/-- The number behind the name of the field is found between the white space around it. -/
theorem trimBlank_numeral {n : Nat} {front digits numeral back : List Char}
    (hspells : WholeNumber.Spells n digits) (hnumeral : numeral = digits ∨ numeral = '+' :: digits)
    (hfront : ∀ c ∈ front, isBlank c) (hback : ∀ c ∈ back, isBlank c) :
    trimBlank (front ++ (numeral ++ back)) = numeral :=
  trimBlank_between hfront (fun _ hc => isBlank_of_mem_numeral hspells hnumeral hc) hback

/-- Line ends behind a text are white space behind it. -/
theorem trimBlank_dropTrailing (text : List Char) :
    trimBlank (dropTrailing isLineEnd text) = trimBlank text := by
  obtain ⟨ends, htext, hends⟩ := exists_append_dropTrailing isLineEnd text
  have hblank : ∀ c ∈ ends, isBlank c := fun c hc => isBlank_of_isLineEnd (hends c hc)
  have htrim := trimBlank_blank_append hblank (dropTrailing isLineEnd text)
  rw [← htrim, ← htext]

theorem ofBytes_of_givesLength {line : Bytes} {n : Nat} (h : GivesLength line n) :
    ofBytes line = .length n := by
  obtain ⟨hsize, front, digits, numeral, back, hspells, hnumeral, hfront, hback, htext⟩ := h
  -- the numeral has a digit, so what stands behind the name of the field is not all line ends
  have hrest : dropTrailing isLineEnd (front ++ (numeral ++ back)) ≠ [] := by
    intro hnil
    have hends := dropTrailing_eq_nil.1 hnil
    obtain ⟨d, hd⟩ := List.exists_mem_of_ne_nil digits hspells.some
    have hmem : d ∈ numeral := by
      rcases hnumeral with rfl | rfl
      · exact hd
      · exact .tail _ hd
    have hend : isLineEnd d := hends d (by simp [hmem])
    have hblank := isBlank_of_mem_numeral hspells hnumeral hmem
    rw [isBlank_of_isLineEnd hend] at hblank
    cases hblank
  have hdropped : dropTrailing isLineEnd (lineText line) =
      lengthField ++ dropTrailing isLineEnd (front ++ (numeral ++ back)) := by
    rw [htext, dropTrailing_append_of_ne_nil lengthField hrest]
  have hfield : lengthField.isPrefixOf? (lengthField ++
      dropTrailing isLineEnd (front ++ (numeral ++ back))) =
        some (dropTrailing isLineEnd (front ++ (numeral ++ back))) :=
    List.isPrefixOf?_eq_some_iff_append_eq.2 rfl
  have hempty : (lengthField ++
      dropTrailing isLineEnd (front ++ (numeral ++ back))).isEmpty = false := by
    simp [hrest]
  have hnumber : WholeNumber.unsigned maxLength
      (trimBlank (dropTrailing isLineEnd (front ++ (numeral ++ back)))) = .ok n := by
    rw [trimBlank_dropTrailing, trimBlank_numeral hspells hnumeral hfront hback]
    exact WholeNumber.unsigned_eq_ok.2 ⟨lt_size_iff_le_maxLength.1 hsize, digits, hspells, hnumeral⟩
  rw [lineText] at hdropped
  simp only [ofBytes, hdropped, hempty, hfield, hnumber, Bool.false_eq_true, if_false]

theorem givesLength_of_ofBytes {line : Bytes} {n : Nat} (h : ofBytes line = .length n) :
    GivesLength line n := by
  simp only [ofBytes] at h
  split at h
  · cases h
  split at h
  · cases h
  next value hvalue =>
  split at h
  next m hnumber =>
    cases h
    obtain ⟨hlimit, digits, hspells, hnumeral⟩ := WholeNumber.unsigned_eq_ok.1 hnumber
    obtain ⟨front, back, hparts, hfront, hback⟩ := exists_append_trimBlank value
    obtain ⟨ends, htext, hends⟩ := exists_append_dropTrailing isLineEnd (lineText line)
    have hfield : lengthField ++ value = dropTrailing isLineEnd (lineText line) :=
      List.append_eq_of_isPrefixOf?_eq_some hvalue
    refine ⟨lt_size_iff_le_maxLength.2 hlimit, front, digits, trimBlank value, back ++ ends, hspells,
      hnumeral, hfront, ?_, ?_⟩
    · intro c hc
      rcases List.mem_append.1 hc with hc | hc
      · exact hback c hc
      · exact isBlank_of_isLineEnd (hends c hc)
    · calc lineText line
          = (lengthField ++ value) ++ ends := by rw [hfield, ← htext]
        _ = (lengthField ++ (front ++ (trimBlank value ++ back))) ++ ends := by rw [← hparts]
        _ = lengthField ++ (front ++ (trimBlank value ++ (back ++ ends))) := by
          simp only [List.append_assoc]
  · cases h

theorem ofBytes_eq_length {line : Bytes} {n : Nat} :
    ofBytes line = .length n ↔ GivesLength line n :=
  ⟨givesLength_of_ofBytes, ofBytes_of_givesLength⟩

end HeaderLine

/-- A line that gives a length has the name of the field, a digit and a line feed at least. -/
theorem GivesLength.length_ge {line : Bytes} {n : Nat} (h : GivesLength line n)
    (isLine : IsLine line) : 17 ≤ line.length := by
  obtain ⟨-, front, digits, numeral, back, hspells, hnumeral, -, -, htext⟩ := h
  have hdecoded : (lineText line).length ≤ line.length := Utf8.length_decodeLossy_le line
  have hdigits : 0 < digits.length := List.length_pos_iff.2 hspells.some
  have hnumeral_length : digits.length ≤ numeral.length := by
    rcases hnumeral with rfl | rfl <;> simp
  have hfield : lengthField.length = 15 := rfl
  -- the line feed is read as a character, which is neither in the name nor in the number
  have hfeed : '\n' ∈ lineText line := by
    obtain ⟨bytes, -, rfl⟩ := isLine
    exact Utf8.lineFeed_mem_decodeLossy.2 (by simp)
  have hends : 0 < front.length + back.length := by
    by_contra hnone
    have hfront : front = [] := List.eq_nil_of_length_eq_zero (by omega)
    have hback : back = [] := List.eq_nil_of_length_eq_zero (by omega)
    rw [htext, hfront, hback, List.nil_append, List.append_nil] at hfeed
    rcases List.mem_append.1 hfeed with hmem | hmem
    · exact absurd hmem (by decide)
    · exact absurd (isBlank_of_mem_numeral hspells hnumeral hmem) (by decide)
  rw [htext] at hdecoded
  simp only [List.length_append] at hdecoded
  omega

end DebugAdapter.Frame
