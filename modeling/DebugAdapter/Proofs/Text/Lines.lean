import DebugAdapter.Proofs.Text.Utf8
import DebugAdapter.Text.Ascii
import Mathlib.Algebra.GroupWithZero.Nat

/-!
# Lines

A text is cut into lines behind its line feeds. Bytes that are decoded have as many line feeds as
their text, however ill-formed they are.
-/

namespace DebugAdapter

open Ascii

/-- The lines of a text without the line feeds that close them. The last line may be open. -/
def lines : Bytes → List Bytes
  | [] => []
  | b :: rest =>
    if b = lineFeed then [] :: lines rest
    else
      match lines rest with
      | [] => [[b]]
      | line :: others => (b :: line) :: others

/-! ## Closed lines -/

@[simp]
theorem lines_lineFeed (rest : Bytes) : lines (lineFeed :: rest) = [] :: lines rest := by
  rw [lines, if_pos rfl]

theorem lines_cons {b : UInt8} (h : b ≠ lineFeed) {rest line : Bytes} {others : List Bytes}
    (hrest : lines rest = line :: others) : lines (b :: rest) = (b :: line) :: others := by
  rw [lines, if_neg h, hrest]

theorem exists_lines_eq (front rest : Bytes) :
    ∃ line others, lines (front ++ lineFeed :: rest) = line :: others := by
  induction front with
  | nil => exact ⟨[], lines rest, lines_lineFeed rest⟩
  | cons b front ih =>
    obtain ⟨line, others, hlines⟩ := ih
    by_cases hb : b = lineFeed
    · exact ⟨[], _, by rw [hb, List.cons_append, lines_lineFeed]⟩
    · exact ⟨b :: line, others, lines_cons hb hlines⟩

theorem lines_append_lineFeed (front rest : Bytes) :
    lines (front ++ lineFeed :: rest) = lines (front ++ [lineFeed]) ++ lines rest := by
  induction front with
  | nil => rw [List.nil_append, List.nil_append, lines_lineFeed, lines_lineFeed]; rfl
  | cons b front ih =>
    by_cases hb : b = lineFeed
    · rw [hb, List.cons_append, List.cons_append, lines_lineFeed, lines_lineFeed, ih,
        List.cons_append]
    · obtain ⟨line, others, hlines⟩ := exists_lines_eq front []
      rw [hlines, List.cons_append] at ih
      rw [List.cons_append, List.cons_append, lines_cons hb hlines, lines_cons hb ih,
        List.cons_append]

theorem length_lines (front : Bytes) :
    (lines (front ++ [lineFeed])).length = front.count lineFeed + 1 := by
  induction front with
  | nil => simp [lines]
  | cons b front ih =>
    by_cases hb : b = lineFeed
    · rw [hb, List.cons_append, lines_lineFeed, List.length_cons, ih, List.count_cons_self]
    · obtain ⟨line, others, hlines⟩ := exists_lines_eq front []
      rw [hlines] at ih
      rw [List.cons_append, lines_cons hb hlines, List.count_cons_of_ne hb, ← ih]
      rfl

/-- What has no line feed stands in front of the first line. -/
theorem lines_append {front rest line : Bytes} {others : List Bytes} (h : lineFeed ∉ front)
    (hrest : lines rest = line :: others) :
    lines (front ++ rest) = (front ++ line) :: others := by
  induction front with
  | nil => exact hrest
  | cons b front ih =>
    rw [List.mem_cons, not_or] at h
    exact lines_cons (Ne.symm h.1) (ih h.2)

theorem lines_of_not_mem {front : Bytes} (h : lineFeed ∉ front) :
    lines (front ++ [lineFeed]) = [front] := by
  rw [lines_append h (lines_lineFeed []), List.append_nil]
  rfl

/-! ## Line feeds in what is decoded -/

namespace Utf8

/-- A character under way that will not be a line feed, and takes none up: its first bits are
not all zero, or those of the next byte are not, which then is not the last one. -/
def Pending.Long (p : Pending) : Prop :=
  0x80 ≤ p.low.toNat ∧ (1 ≤ p.bits ∨ 0x90 ≤ p.low.toNat ∧ 0 < p.owed)

theorem ofNat_ne_lineFeed {n : Nat} (h : n ≠ 0x0A) : Char.ofNat n ≠ '\n' := by
  intro heq
  by_cases hvalid : n.isValidChar
  · rw [Char.ofNat, dif_pos hvalid] at heq
    have hvalue : n = 0x0A := congrArg Char.toNat heq
    exact h hvalue
  · rw [Char.ofNat, dif_neg hvalid] at heq
    cases heq

/-- The lowest first byte of a length has no bits of its own, but keeps the next byte high. -/
theorem Pending.long_of_lead {b first low high : UInt8} (owed : Nat) (hfirst : first.toNat ≤ b.toNat)
    (hlow : 0x90 ≤ low.toNat) :
    Pending.Long ⟨owed + 1, if b = first then low else 0x80, high, b.toNat - first.toNat⟩ := by
  by_cases hb : b = first
  · rw [if_pos hb]
    exact ⟨by simp only; omega, .inr ⟨hlow, Nat.succ_pos owed⟩⟩
  · have hbits : b.toNat ≠ first.toNat := fun heq => hb (UInt8.toNat_inj.1 heq)
    rw [if_neg hb]
    exact ⟨Nat.le_refl _, .inl (by simp only; omega)⟩

theorem Lead.long_of_begins {b : UInt8} {p : Pending} (h : Lead.ofByte b = .begins p) : p.Long := by
  have hle (d : UInt8) : ¬ b < d → d.toNat ≤ b.toNat := fun hd =>
    Nat.not_lt.1 fun hlt => hd (UInt8.lt_iff_toNat_lt.2 hlt)
  rw [Lead.ofByte] at h
  split at h
  · cases h
  split at h
  · cases h
  next hstray =>
  have hlead : 0xC2 ≤ b.toNat := hle 0xC2 hstray
  split at h
  · cases h
    exact ⟨Nat.le_refl _, .inl (by simp only; omega)⟩
  next htwo =>
  have hlead : 0xE0 ≤ b.toNat := hle 0xE0 htwo
  split at h
  · cases h
    exact Pending.long_of_lead 0 hlead (by decide)
  next hthree =>
  have hlead : 0xF0 ≤ b.toNat := hle 0xF0 hthree
  split at h
  · cases h
    exact Pending.long_of_lead 1 hlead (by decide)
  · cases h

theorem Lead.ne_lineFeed_of_single {b : UInt8} {c : Char} (h : Lead.ofByte b = .single c)
    (hb : b ≠ lineFeed) : c ≠ '\n' := by
  rw [Lead.ofByte] at h
  split at h
  · obtain rfl := Lead.single.inj h
    exact ofNat_ne_lineFeed fun heq => hb (UInt8.toNat_inj.1 heq)
  · repeat' split at h
    all_goals cases h

namespace Decoder

/-- The line feeds read so far. -/
def lineFeeds (d : Decoder) : Nat :=
  d.read.count (some '\n')

/-- A byte between two characters, or behind a stray stretch. -/
theorem lineFeeds_start (read : List (Option Char)) (b : UInt8) :
    (start read b).lineFeeds = read.count (some '\n') + [b].count lineFeed ∧
      ∀ p ∈ (start read b).pending, p.Long := by
  by_cases hb : b = lineFeed
  · have hstart : start read lineFeed = ⟨some '\n' :: read, none⟩ := rfl
    rw [hb, hstart]
    exact ⟨List.count_cons_self, fun p hp => by cases hp⟩
  · rw [List.count_cons_of_ne hb, List.count_nil, Nat.add_zero, start]
    cases hlead : Lead.ofByte b with
    | single c =>
      have hc : some c ≠ some '\n' := by simpa using Lead.ne_lineFeed_of_single hlead hb
      exact ⟨List.count_cons_of_ne hc, fun p hp => by cases hp⟩
    | begins p =>
      refine ⟨rfl, fun q hq => ?_⟩
      obtain rfl := Option.some.inj hq
      exact Lead.long_of_begins hlead
    | stray => exact ⟨List.count_cons_of_ne (by decide), fun p hp => by cases hp⟩

/-- A byte that goes on with a character under way. -/
theorem lineFeeds_feed_of_mem {read : List (Option Char)} {p : Pending} (h : p.Long) {b : UInt8}
    (hlow : p.low ≤ b) (hhigh : b ≤ p.high) :
    (feed ⟨read, some p⟩ b).lineFeeds = read.count (some '\n') ∧
      ∀ q ∈ (feed ⟨read, some p⟩ b).pending, q.Long := by
  obtain ⟨owed, low, high, bits⟩ := p
  obtain ⟨hmin, hbits⟩ := h
  simp only at hmin hbits hlow hhigh
  rw [UInt8.le_iff_toNat_le] at hlow
  rw [feed]
  simp only [UInt8.le_iff_toNat_le.2 hlow, hhigh, and_self, if_true]
  cases owed with
  | zero =>
    have hvalue : bits * 64 + (b.toNat - 0x80) ≠ 0x0A := by omega
    have hc : some (Char.ofNat (bits * 64 + (b.toNat - 0x80))) ≠ some '\n' := by
      simpa using ofNat_ne_lineFeed hvalue
    exact ⟨List.count_cons_of_ne hc, fun q hq => by cases hq⟩
  | succ owed =>
    refine ⟨rfl, fun q hq => ?_⟩
    obtain rfl := Option.some.inj hq
    exact ⟨Nat.le_refl _, .inl (by simp only; omega)⟩

theorem lineFeeds_feed {d : Decoder} (h : ∀ p ∈ d.pending, p.Long) (b : UInt8) :
    (d.feed b).lineFeeds = d.lineFeeds + [b].count lineFeed ∧
      ∀ p ∈ (d.feed b).pending, p.Long := by
  obtain ⟨read, pending⟩ := d
  cases pending with
  | none => exact lineFeeds_start read b
  | some p =>
    have hp : p.Long := h p rfl
    by_cases hmem : p.low ≤ b ∧ b ≤ p.high
    · have hb : b ≠ lineFeed := by
        rintro rfl
        have hlow := UInt8.le_iff_toNat_le.1 hmem.1
        have hmin := hp.1
        have hvalue : lineFeed.toNat = 0x0A := rfl
        omega
      rw [List.count_cons_of_ne hb, List.count_nil]
      exact lineFeeds_feed_of_mem hp hmem.1 hmem.2
    · -- the character under way turns out to be a stray stretch
      obtain ⟨hcount, hlong⟩ := lineFeeds_start (none :: read) b
      rw [List.count_cons_of_ne (by decide)] at hcount
      rw [feed]
      simp only [if_neg hmem]
      exact ⟨hcount, hlong⟩

theorem lineFeeds_foldl {d : Decoder} (h : ∀ p ∈ d.pending, p.Long) (bytes : Bytes) :
    (bytes.foldl feed d).lineFeeds = d.lineFeeds + bytes.count lineFeed := by
  induction bytes generalizing d with
  | nil => rfl
  | cons b bytes ih =>
    obtain ⟨hcount, hlong⟩ := lineFeeds_feed h b
    have hcons : (b :: bytes).count lineFeed = [b].count lineFeed + bytes.count lineFeed := by
      rw [← List.count_append]
      rfl
    rw [List.foldl_cons, ih hlong, hcount, hcons, Nat.add_assoc]

theorem count_finish (d : Decoder) : d.finish.count (some '\n') = d.lineFeeds := by
  rw [finish]
  split
  · rw [List.count_reverse, lineFeeds]
  · rw [List.count_reverse, List.count_cons_of_ne (by decide), lineFeeds]

end Decoder

theorem count_lineFeed_decode (bytes : Bytes) :
    (decode bytes).count (some '\n') = bytes.count lineFeed := by
  rw [decode, Decoder.count_finish, Decoder.lineFeeds_foldl (fun p hp => by cases hp)]
  exact Nat.zero_add _

/-- What is decoded has the line feeds of the bytes, and no others. -/
theorem count_lineFeed_decodeLossy (bytes : Bytes) :
    (decodeLossy bytes).toList.count '\n' = bytes.count lineFeed := by
  rw [decodeLossy, String.toList_ofList, ← count_lineFeed_decode]
  induction decode bytes with
  | nil => rfl
  | cons read others ih =>
    cases read with
    | none =>
      rw [List.map_cons, List.count_cons_of_ne (by decide), List.count_cons_of_ne (by decide), ih]
    | some c =>
      by_cases hc : c = '\n'
      · rw [hc, List.map_cons, Option.getD_some, List.count_cons_self, List.count_cons_self, ih]
      · rw [List.map_cons, Option.getD_some, List.count_cons_of_ne hc,
          List.count_cons_of_ne (by simpa using hc), ih]

theorem lineFeed_mem_decodeLossy {bytes : Bytes} :
    '\n' ∈ (decodeLossy bytes).toList ↔ lineFeed ∈ bytes := by
  rw [← List.count_pos_iff, count_lineFeed_decodeLossy, List.count_pos_iff]

/-- The bytes of a text have its line feeds. -/
theorem count_lineFeed_encode (text : String) :
    (encode text).count lineFeed = text.toList.count '\n' := by
  rw [← count_lineFeed_decodeLossy, encode, decodeLossy_encodeChars, String.toList_ofList]

theorem lineFeed_mem_encode {text : String} : lineFeed ∈ encode text ↔ '\n' ∈ text.toList := by
  rw [← List.count_pos_iff, count_lineFeed_encode, List.count_pos_iff]

end Utf8

end DebugAdapter
