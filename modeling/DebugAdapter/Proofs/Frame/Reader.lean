import DebugAdapter.Frame

/-!
# Readers along a stream

A reader does with a stream what it does with a first part and then with the rest. Inside a line and
inside a body it only collects bytes.
-/

namespace DebugAdapter.Frame.Reader

@[simp]
theorem feedAll_nil (reader : Reader) : reader.feedAll [] = (reader, []) :=
  rfl

private theorem foldl_feed (reader : Reader) (completed : List Bytes) (bytes : Bytes) :
    bytes.foldl (fun (state : Reader × List Bytes) b =>
      ((state.1.feed b).1, (state.1.feed b).2.toList ++ state.2)) (reader, completed) =
      ((reader.feedAll bytes).1, (reader.feedAll bytes).2.reverse ++ completed) := by
  induction bytes generalizing reader completed with
  | nil => rfl
  | cons b bytes ih =>
    -- the step adds a body to those collected, and `feedAll` begins with none: the hypothesis
    -- is used for both lists
    have hstart := ih (reader.feed b).1 ((reader.feed b).2.toList ++ [])
    rw [List.foldl_cons, ih]
    simp only [feedAll, List.foldl_cons] at hstart ⊢
    rw [hstart]
    cases (reader.feed b).2 <;> simp

theorem feedAll_cons (reader : Reader) (b : UInt8) (bytes : Bytes) :
    reader.feedAll (b :: bytes) =
      (((reader.feed b).1.feedAll bytes).1,
        (reader.feed b).2.toList ++ ((reader.feed b).1.feedAll bytes).2) := by
  have hrest := foldl_feed (reader.feed b).1 ((reader.feed b).2.toList ++ []) bytes
  simp only [feedAll, List.foldl_cons] at hrest ⊢
  rw [hrest]
  cases (reader.feed b).2 <;> simp

/-- A stream in two parts: the second is read where the first has left the reader. -/
theorem feedAll_append (reader : Reader) (front back : Bytes) :
    reader.feedAll (front ++ back) =
      (((reader.feedAll front).1.feedAll back).1,
        (reader.feedAll front).2 ++ ((reader.feedAll front).1.feedAll back).2) := by
  induction front generalizing reader with
  | nil => rfl
  | cons b front ih => simp [feedAll_cons, ih]

theorem feedAll_line {bytes : Bytes} (h : Ascii.lineFeed ∉ bytes) (line : Bytes)
    (length : Option Nat) :
    feedAll (.header line length) bytes = (.header (bytes.reverse ++ line) length, []) := by
  induction bytes generalizing line with
  | nil => rfl
  | cons b bytes ih =>
    have hb : b ≠ Ascii.lineFeed := fun hb => h (by simp [hb])
    have hrest : Ascii.lineFeed ∉ bytes := fun hbytes => h (by simp [hbytes])
    rw [feedAll_cons, feed, if_pos hb]
    simp [ih hrest]

/-- As many bytes as a body is owed, or fewer, do not complete it. -/
theorem feedAll_body_short {bytes : Bytes} {owed : Nat} (h : bytes.length ≤ owed)
    (received : Bytes) :
    feedAll (.body owed received) bytes =
      (.body (owed - bytes.length) (bytes.reverse ++ received), []) := by
  induction bytes generalizing owed received with
  | nil => rfl
  | cons b bytes ih =>
    obtain ⟨owed, rfl⟩ : ∃ n, owed = n + 1 := ⟨owed - 1, by simp at h; omega⟩
    simp only [List.length_cons, Nat.add_le_add_iff_right] at h
    rw [feedAll_cons, feed, ih h]
    simp [Nat.add_sub_add_right]

/-- The last byte of a body completes it. -/
theorem feedAll_body {bytes : Bytes} {owed : Nat} (h : bytes.length = owed + 1) :
    feedAll (.body owed []) bytes = (start, [bytes]) := by
  obtain ⟨front, last, rfl⟩ : ∃ front last, bytes = front ++ [last] :=
    ⟨_, _, (List.dropLast_concat_getLast (List.ne_nil_of_length_eq_add_one h)).symm⟩
  have hfront : front.length = owed := by simpa using h
  rw [feedAll_append, feedAll_body_short (by omega), hfront, Nat.sub_self, feedAll_cons, feed]
  simp

end DebugAdapter.Frame.Reader
