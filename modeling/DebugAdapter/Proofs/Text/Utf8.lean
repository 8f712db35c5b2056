import DebugAdapter.Text.Utf8

/-!
# Reading back what UTF-8 writes

A decoder that is fed the bytes of a text reads the text, whatever it has read before. None of the
ASCII bytes occurs inside the bytes of another character.
-/

namespace DebugAdapter.Utf8

/-! ## First bytes -/

theorem Lead.ofByte_single {n : Nat} (h : n < 0x80) :
    Lead.ofByte (UInt8.ofNat n) = .single (Char.ofNat n) := by
  have hn : (UInt8.ofNat n).toNat = n := by simp; omega
  have hb : UInt8.ofNat n < 0x80 := by rw [UInt8.lt_iff_toNat_lt, hn]; exact h
  rw [Lead.ofByte, if_pos hb, hn]

theorem Lead.ofByte_two {n : Nat} (hlow : 2 ≤ n) (hhigh : n < 0x20) :
    Lead.ofByte (UInt8.ofNat (n + 0xC0)) = .begins ⟨0, 0x80, 0xBF, n⟩ := by
  have hn : (UInt8.ofNat (n + 0xC0)).toNat = n + 0xC0 := by simp; omega
  simp only [Lead.ofByte, UInt8.lt_iff_toNat_lt, hn, UInt8.reduceToNat]
  rw [if_neg (by omega), if_neg (by omega), if_pos (by omega), Nat.add_sub_cancel]

theorem Lead.ofByte_three {n : Nat} (h : n < 0x10) :
    Lead.ofByte (UInt8.ofNat (n + 0xE0)) =
      .begins ⟨1, if n = 0 then 0xA0 else 0x80, if n = 0xD then 0x9F else 0xBF, n⟩ := by
  have hn : (UInt8.ofNat (n + 0xE0)).toNat = n + 0xE0 := by simp; omega
  simp only [Lead.ofByte, UInt8.lt_iff_toNat_lt, ← UInt8.toNat_inj, hn, UInt8.reduceToNat]
  rw [if_neg (by omega), if_neg (by omega), if_neg (by omega), if_pos (by omega),
    Nat.add_sub_cancel]
  simp only [show n + 224 = 224 ↔ n = 0 by omega, show n + 224 = 237 ↔ n = 13 by omega]

theorem Lead.ofByte_four {n : Nat} (h : n < 5) :
    Lead.ofByte (UInt8.ofNat (n + 0xF0)) =
      .begins ⟨2, if n = 0 then 0x90 else 0x80, if n = 4 then 0x8F else 0xBF, n⟩ := by
  have hn : (UInt8.ofNat (n + 0xF0)).toNat = n + 0xF0 := by simp; omega
  simp only [Lead.ofByte, UInt8.lt_iff_toNat_lt, ← UInt8.toNat_inj, hn, UInt8.reduceToNat]
  rw [if_neg (by omega), if_neg (by omega), if_neg (by omega), if_neg (by omega),
    if_pos (by omega), Nat.add_sub_cancel]
  simp only [show n + 240 = 240 ↔ n = 0 by omega, show n + 240 = 244 ↔ n = 4 by omega]

/-! ## Whole characters -/

namespace Decoder

/-- The byte that completes a character. -/
theorem feed_last {read : List (Option Char)} {low high : UInt8} {bits n : Nat} (h : n < 64)
    (hlow : low.toNat ≤ n + 0x80) (hhigh : n + 0x80 ≤ high.toNat) :
    feed ⟨read, some ⟨0, low, high, bits⟩⟩ (UInt8.ofNat (n + 0x80)) =
      ⟨some (Char.ofNat (bits * 64 + n)) :: read, none⟩ := by
  have hn : (UInt8.ofNat (n + 0x80)).toNat = n + 0x80 := by simp; omega
  simp only [feed, UInt8.le_iff_toNat_le, hn]
  rw [if_pos ⟨hlow, hhigh⟩, Nat.add_sub_cancel]

/-- A byte in the middle of a character. -/
theorem feed_next {read : List (Option Char)} {low high : UInt8} {owed bits n : Nat} (h : n < 64)
    (hlow : low.toNat ≤ n + 0x80) (hhigh : n + 0x80 ≤ high.toNat) :
    feed ⟨read, some ⟨owed + 1, low, high, bits⟩⟩ (UInt8.ofNat (n + 0x80)) =
      ⟨read, some ⟨owed, 0x80, 0xBF, bits * 64 + n⟩⟩ := by
  have hn : (UInt8.ofNat (n + 0x80)).toNat = n + 0x80 := by simp; omega
  simp only [feed, UInt8.le_iff_toNat_le, hn]
  rw [if_pos ⟨hlow, hhigh⟩, Nat.add_sub_cancel]

/-- The bytes of a character are read as the character. One case for each number of
bytes; that no surrogate is a character keeps the second of three bytes in range. -/
theorem foldl_feed_encodeChar (read : List (Option Char)) (c : Char) :
    (String.utf8EncodeChar c).foldl feed ⟨read, none⟩ = ⟨some c :: read, none⟩ := by
  have hc : Char.ofNat c.toNat = c := Char.ofNat_toNat c
  have hvalid : c.toNat < 0xD800 ∨ 0xDFFF < c.toNat ∧ c.toNat < 0x110000 := c.valid
  generalize hv : c.toNat = v at hc hvalid
  have hval : c.val.toNat = v := hv
  rw [String.utf8EncodeChar, hval]
  split
  next h =>
    rw [List.foldl_cons, feed, start, Lead.ofByte_single (by omega), hc]
    rfl
  split
  next h1 h2 =>
    rw [List.foldl_cons, feed, start, Nat.mod_eq_of_lt (by omega : v / 64 < 32),
      Lead.ofByte_two (by omega) (by omega), List.foldl_cons,
      feed_last (by omega) (by simp) (by simp; omega), List.foldl_nil,
      show v / 64 * 64 + v % 64 = v by omega, hc]
  split
  next h1 h2 h3 =>
    rw [List.foldl_cons, feed, start, Nat.mod_eq_of_lt (by omega : v / 4096 < 16),
      Lead.ofByte_three (by omega), List.foldl_cons]
    simp only
    rw [feed_next (by omega) (by split <;> simp; omega) (by split <;> simp <;> omega),
      List.foldl_cons, feed_last (by omega) (by simp) (by simp; omega), List.foldl_nil,
      show (v / 4096 * 64 + v / 64 % 64) * 64 + v % 64 = v by omega, hc]
  next h1 h2 h3 =>
    rw [List.foldl_cons, feed, start, Nat.mod_eq_of_lt (by omega : v / 262144 < 8),
      Lead.ofByte_four (by omega), List.foldl_cons]
    simp only
    rw [feed_next (by omega) (by split <;> simp; omega) (by split <;> simp <;> omega),
      List.foldl_cons, feed_next (by omega) (by simp) (by simp; omega), List.foldl_cons,
      feed_last (by omega) (by simp) (by simp; omega), List.foldl_nil,
      show ((v / 262144 * 64 + v / 4096 % 64) * 64 + v / 64 % 64) * 64 + v % 64 = v by omega, hc]

/-- The bytes of a text are read as the text, newest character first. -/
theorem foldl_feed_encodeChars (read : List (Option Char)) (chars : List Char) :
    (encodeChars chars).foldl feed ⟨read, none⟩ = ⟨(chars.map some).reverse ++ read, none⟩ := by
  induction chars generalizing read with
  | nil => rfl
  | cons c chars ih =>
    rw [encodeChars, List.flatMap_cons, List.foldl_append, foldl_feed_encodeChar]
    rw [encodeChars] at ih
    rw [ih]
    simp

end Decoder

/-! ## Texts -/

theorem decode_encodeChars (chars : List Char) : decode (encodeChars chars) = chars.map some := by
  rw [decode, Decoder.foldl_feed_encodeChars]
  simp [Decoder.finish]

theorem decodeLossy_encodeChars (chars : List Char) :
    decodeLossy (encodeChars chars) = String.ofList chars := by
  rw [decodeLossy, decode_encodeChars, List.map_map]
  simp [Function.comp_def]

/-- A text is decoded from its own bytes. -/
theorem decode?_encodeChars (chars : List Char) :
    decode? (encodeChars chars) = some (String.ofList chars) := by
  rw [decode?, decode_encodeChars]
  simp

theorem encodeChars_append (front back : List Char) :
    encodeChars (front ++ back) = encodeChars front ++ encodeChars back :=
  List.flatMap_append

theorem encodeChars_cons (c : Char) (chars : List Char) :
    encodeChars (c :: chars) = String.utf8EncodeChar c ++ encodeChars chars :=
  List.flatMap_cons

theorem encodeChar_of_ascii {c : Char} (h : c.toNat < 0x80) :
    String.utf8EncodeChar c = [UInt8.ofNat c.toNat] := by
  have hc : c.val.toNat ≤ 0x7F := Nat.le_of_lt_succ h
  rw [String.utf8EncodeChar, if_pos hc]
  rfl

/-- A text of ASCII characters has a byte for each of them. -/
theorem encodeChars_of_ascii {chars : List Char} (h : ∀ c ∈ chars, c.toNat < 0x80) :
    encodeChars chars = chars.map fun c => UInt8.ofNat c.toNat := by
  induction chars with
  | nil => rfl
  | cons c chars ih =>
    have hc : c.toNat < 0x80 := h c (by simp)
    rw [encodeChars_cons, encodeChar_of_ascii hc, ih fun d hd => h d (by simp [hd])]
    rfl

/-- An ASCII byte inside the bytes of a character is the whole character. -/
theorem toNat_eq_of_mem_encodeChar {b : UInt8} {c : Char} (hb : b.toNat < 0x80)
    (h : b ∈ String.utf8EncodeChar c) : c.toNat = b.toNat := by
  have hvalid : c.val.toNat < 0x110000 := by
    rcases c.valid with h | ⟨_, h⟩ <;> simp at h ⊢ <;> omega
  rw [String.utf8EncodeChar] at h
  split at h
  next hc =>
    have hval : c.toNat = c.val.toNat := rfl
    rw [List.mem_singleton.1 h, UInt8.toNat_ofNat', hval]
    omega
  -- every byte of a longer character has its highest bit set
  all_goals
    exfalso
    revert hb
    rw [imp_false, Nat.not_lt]
  split at h
  next hc h1 =>
    simp only [List.mem_cons, List.not_mem_nil, or_false] at h
    rcases h with rfl | rfl <;> simp <;> omega
  split at h
  next hc h1 h2 =>
    simp only [List.mem_cons, List.not_mem_nil, or_false] at h
    rcases h with rfl | rfl | rfl <;> simp <;> omega
  next hc h1 h2 =>
    simp only [List.mem_cons, List.not_mem_nil, or_false] at h
    rcases h with rfl | rfl | rfl | rfl <;> simp <;> omega

/-! ## Lengths -/

namespace Decoder

/-- What has been read, with the character under way. -/
def size (d : Decoder) : Nat :=
  d.read.length + d.pending.toList.length

theorem size_start_le (read : List (Option Char)) (b : UInt8) :
    (start read b).size ≤ read.length + 1 := by
  rw [start]
  cases Lead.ofByte b <;> simp [size]

/-- A byte adds one at most: one that ends a stray stretch gives up the character under way. -/
theorem size_feed_le (d : Decoder) (b : UInt8) : (d.feed b).size ≤ d.size + 1 := by
  obtain ⟨read, pending⟩ := d
  cases pending with
  | none => exact size_start_le read b
  | some p =>
    rw [feed]
    by_cases hmem : p.low ≤ b ∧ b ≤ p.high
    · simp only [if_pos hmem]
      cases p.owed <;> simp [size]
    · simp only [if_neg hmem]
      exact size_start_le (none :: read) b

theorem size_foldl_le (d : Decoder) (bytes : Bytes) :
    (bytes.foldl feed d).size ≤ d.size + bytes.length := by
  induction bytes generalizing d with
  | nil => exact Nat.le_refl _
  | cons b bytes ih =>
    have hfeed := size_feed_le d b
    have hrest := ih (d.feed b)
    rw [List.foldl_cons, List.length_cons]
    omega

theorem length_finish (d : Decoder) : d.finish.length = d.size := by
  obtain ⟨read, pending⟩ := d
  cases pending <;> simp [finish, size]

end Decoder

/-- Bytes are decoded to no more characters than there are bytes. -/
theorem length_decodeLossy_le (bytes : Bytes) :
    (decodeLossy bytes).toList.length ≤ bytes.length := by
  have hsize := Decoder.size_foldl_le {} bytes
  have hnone : Decoder.size {} = 0 := rfl
  rw [decodeLossy, String.toList_ofList, List.length_map, decode, Decoder.length_finish]
  omega

/-! ## ASCII bytes -/

/-- An ASCII byte occurs in the bytes of a text only as a character of the text. -/
theorem mem_encodeChars_of_ascii {b : UInt8} {chars : List Char} (hb : b.toNat < 0x80)
    (h : b ∈ encodeChars chars) : ∃ c ∈ chars, c.toNat = b.toNat := by
  obtain ⟨c, hc, hbc⟩ := List.mem_flatMap.1 h
  exact ⟨c, hc, toNat_eq_of_mem_encodeChar hb hbc⟩

end DebugAdapter.Utf8
