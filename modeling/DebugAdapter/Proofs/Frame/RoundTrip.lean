import DebugAdapter.Proofs.Frame.Reader
import DebugAdapter.Proofs.Text.Utf8
import DebugAdapter.Proofs.Text.WholeNumber

/-!
# Frames read back

A reader delivers the bodies of a stream of frames as they were framed, whatever bytes they hold. Of
a stream that is cut off it delivers the bodies that arrived to the last byte.
-/

namespace DebugAdapter.Frame

/-! ## The header block -/

/-- The line of a header block that gives the length, without its line feed. -/
def lengthLine (length : Nat) : Bytes :=
  Utf8.encodeChars (lengthField ++ ' ' :: (Nat.toDigits 10 length ++ ['\r']))

theorem header_eq (length : Nat) :
    header length =
      lengthLine length ++ [Ascii.lineFeed, Ascii.carriageReturn, Ascii.lineFeed] := by
  have hends : Utf8.encodeChars ['\n', '\r', '\n'] =
      [Ascii.lineFeed, Ascii.carriageReturn, Ascii.lineFeed] := by decide
  rw [header, lengthLine, ← hends, ← Utf8.encodeChars_append]
  simp

theorem lineFeed_not_mem_lengthLine (length : Nat) : Ascii.lineFeed ∉ lengthLine length := by
  intro h
  obtain ⟨c, hc, hfeed⟩ := Utf8.mem_encodeChars_of_ascii (by decide) h
  have hnewline : c = '\n' := Char.toNat_inj.1 (hfeed.trans (by decide))
  subst hnewline
  have hfield : '\n' ∉ lengthField := by decide
  have hdigits : '\n' ∉ Nat.toDigits 10 length := fun hdigit =>
    absurd (WholeNumber.isDigit_of_mem_toDigits hdigit) (by decide)
  simp [hfield, hdigits] at hc

theorem text_lengthLine (length : Nat) :
    dropTrailing isLineEnd
      (Utf8.decodeLossy (lengthLine length ++ [Ascii.lineFeed])).toList =
      lengthField ++ ' ' :: Nat.toDigits 10 length := by
  have hfeed : [Ascii.lineFeed] = Utf8.encodeChars ['\n'] := by decide
  have hdigits : ∀ c ∈ Nat.toDigits 10 length, isLineEnd c = false := by
    intro c hc
    have hblank := isBlank_of_isDigit (WholeNumber.isDigit_of_mem_toDigits hc)
    have hreturn : c ≠ '\r' := by rintro rfl; exact absurd hblank (by decide)
    have hfeed : c ≠ '\n' := by rintro rfl; exact absurd hblank (by decide)
    simp [isLineEnd, hreturn, hfeed]
  have hfield : ∀ c ∈ lengthField ++ [' '], isLineEnd c = false := by
    have hall : (lengthField ++ [' ']).all (fun c => !isLineEnd c) = true := by decide
    intro c hc
    simpa using List.all_eq_true.1 hall c hc
  have hends : ∀ c ∈ ['\r', '\n'], isLineEnd c := by simp [isLineEnd]
  rw [lengthLine, hfeed, ← Utf8.encodeChars_append, Utf8.decodeLossy_encodeChars,
    String.toList_ofList, show lengthField ++ ' ' :: (Nat.toDigits 10 length ++ ['\r']) ++ ['\n'] =
      (lengthField ++ ' ' :: Nat.toDigits 10 length) ++ ['\r', '\n'] by simp,
    dropTrailing_append_of_all hends, dropTrailing_of_none]
  intro c hc
  rw [← List.singleton_append, ← List.append_assoc] at hc
  rcases List.mem_append.1 hc with hc | hc
  · exact hfield c hc
  · exact hdigits c hc

/-- The length line says the length, as long as a header can say it. -/
theorem HeaderLine.ofBytes_lengthLine {length : Nat} (h : length ≤ maxLength) :
    HeaderLine.ofBytes (lengthLine length ++ [Ascii.lineFeed]) = .length length := by
  have hempty : (lengthField ++ ' ' :: Nat.toDigits 10 length).isEmpty = false := by
    simp
  have hfield : lengthField.isPrefixOf? (lengthField ++ ' ' :: Nat.toDigits 10 length) =
      some (' ' :: Nat.toDigits 10 length) := List.isPrefixOf?_eq_some_iff_append_eq.2 rfl
  simp only [HeaderLine.ofBytes, text_lengthLine, hempty, hfield, trimBlank_space_toDigits,
    WholeNumber.unsigned_toDigits h, Bool.false_eq_true, if_false]

theorem HeaderLine.ofBytes_lineEnd :
    HeaderLine.ofBytes [Ascii.carriageReturn, Ascii.lineFeed] = .blank := by
  decide

/-! ## One frame -/

namespace Reader

theorem feedAll_lengthLine (length : Nat) :
    start.feedAll (lengthLine length) = (.header (lengthLine length).reverse none, []) := by
  rw [start, feedAll_line (lineFeed_not_mem_lengthLine length), List.append_nil]

theorem feed_lengthLine {length : Nat} (h : length ≤ maxLength) :
    feed (.header (lengthLine length).reverse none) Ascii.lineFeed =
      (.header [] (some length), none) := by
  simp [feed, HeaderLine.ofBytes_lengthLine h]

theorem feed_lineEnd (length : Option Nat) :
    feed (.header [Ascii.carriageReturn] length) Ascii.lineFeed = afterHeader length := by
  simp [feed, HeaderLine.ofBytes_lineEnd]

/-- Behind the header block of a body, a reader owes the body. -/
theorem feedAll_header {length : Nat} (h : length ≤ maxLength) :
    start.feedAll (Frame.header length) =
      ((afterHeader (some length)).1, (afterHeader (some length)).2.toList) := by
  have hreturn : feed (.header [] (some length)) Ascii.carriageReturn =
      (.header [Ascii.carriageReturn] (some length), none) := rfl
  rw [header_eq, feedAll_append, feedAll_lengthLine]
  simp [feedAll_cons, feed_lengthLine h, hreturn, feed_lineEnd]

/-- A frame is read as its body, and the reader is at the start of the next one. -/
theorem feedAll_encode {body : Bytes} (h : body.length ≤ maxLength) :
    start.feedAll (encode body) = (start, [body]) := by
  rw [encode, feedAll_append, feedAll_header h]
  cases body with
  | nil => rfl
  | cons b body =>
    have hlast : (b :: body).length = body.length + 1 := rfl
    simp only [hlast, afterHeader, Option.toList_none, List.nil_append]
    exact feedAll_body hlast

end Reader

theorem bodies_encode_append {body : Bytes} (h : body.length ≤ maxLength) (stream : Bytes)
    (ending : Ending) : bodies (encode body ++ stream) ending = body :: bodies stream ending := by
  simp [bodies, Reader.feedAll_append, Reader.feedAll_encode h]

/-! ## A frame that is cut off -/

/-- A reader in the middle of a frame: the end of the stream completes nothing. -/
def Reader.Unfinished (reader : Reader) : Prop :=
  ∀ ending, reader.finish ending = none

namespace Reader

theorem unfinished_header_none (line : Bytes) : Unfinished (.header line none) := by
  intro ending
  cases ending <;> cases line <;> rfl

theorem unfinished_header_some {length : Nat} (h : length ≠ 0) (line : Bytes) :
    Unfinished (.header line (some length)) := by
  obtain ⟨n, rfl⟩ := Nat.exists_eq_succ_of_ne_zero h
  intro ending
  cases ending <;> cases line <;> rfl

theorem unfinished_body (owed : Nat) (received : Bytes) : Unfinished (.body owed received) := by
  intro ending
  cases ending <;> rfl

/-- A part of the header block of a body that is not empty completes nothing. The cut is
inside the length line or at one of the places around the bytes of the two line ends. -/
theorem feedAll_of_header_cut {length : Nat} (hlength : length ≤ maxLength) (hpos : length ≠ 0)
    {front back : Bytes} (hcut : Frame.header length = front ++ back) :
    ∃ reader, start.feedAll front = (reader, []) ∧ reader.Unfinished := by
  obtain ⟨n, hn⟩ := Nat.exists_eq_succ_of_ne_zero hpos
  have hwhole := feedAll_header hlength
  rw [header_eq, List.append_eq_append_iff] at hcut
  rcases hcut with ⟨ends, rfl, hends⟩ | ⟨rest, hline, -⟩
  · rw [feedAll_append, feedAll_lengthLine]
    simp only [List.nil_append]
    -- `ends` is what has arrived of the two line ends: each byte leaves another reader
    match ends, hends with
    | [], _ => exact ⟨_, feedAll_nil _, unfinished_header_none _⟩
    | [_], hends =>
      obtain ⟨rfl, -⟩ := List.cons.inj hends
      rw [feedAll_cons, feed_lengthLine hlength]
      exact ⟨_, rfl, unfinished_header_some hpos _⟩
    | [_, _], hends =>
      obtain ⟨rfl, rfl, -⟩ : _ ∧ _ ∧ _ := by simpa using hends
      rw [feedAll_cons, feed_lengthLine hlength]
      exact ⟨_, rfl, unfinished_header_some hpos _⟩
    | [_, _, _], hends =>
      obtain ⟨rfl, rfl, rfl, -⟩ : _ ∧ _ ∧ _ ∧ _ := by simpa using hends
      rw [header_eq, feedAll_append, feedAll_lengthLine, hn, afterHeader] at hwhole
      simp only [Option.toList_none, List.nil_append, ← hn] at hwhole
      exact ⟨_, hwhole, unfinished_body _ _⟩
    | _ :: _ :: _ :: _ :: _, hends => simp at hends
  · -- the cut is inside the length line, which has no line feed of its own
    have hfront : Ascii.lineFeed ∉ front := fun hmem =>
      lineFeed_not_mem_lengthLine length (by rw [hline]; exact List.mem_append_left _ hmem)
    exact ⟨_, by rw [start, feedAll_line hfront], unfinished_header_none _⟩

/-- A frame that lacks some of its last bytes completes nothing, unless its body is empty. -/
theorem feedAll_of_cut {body front back : Bytes} (hlength : body.length ≤ maxLength)
    (hbody : body ≠ []) (hback : back ≠ []) (hcut : encode body = front ++ back) :
    ∃ reader, start.feedAll front = (reader, []) ∧ reader.Unfinished := by
  have hpos : body.length ≠ 0 := by simpa using hbody
  rw [encode, List.append_eq_append_iff] at hcut
  rcases hcut with ⟨received, rfl, rfl⟩ | ⟨rest, hheader, -⟩
  · -- the cut is inside the body, so at least one byte is owed
    obtain ⟨n, hn⟩ := Nat.exists_eq_succ_of_ne_zero hpos
    have hshort : received.length ≤ n := by
      have := List.length_pos_iff.2 hback
      simp only [List.length_append] at hn
      omega
    rw [feedAll_append, feedAll_header hlength, hn, afterHeader]
    simp only [Option.toList_none, List.nil_append]
    exact ⟨_, feedAll_body_short hshort [], unfinished_body _ _⟩
  · exact feedAll_of_header_cut hlength hpos hheader

end Reader

theorem bodies_of_cut {body front back : Bytes} (hlength : body.length ≤ maxLength)
    (hbody : body ≠ []) (hback : back ≠ []) (hcut : encode body = front ++ back)
    (ending : Ending) : bodies front ending = [] := by
  obtain ⟨reader, hfeed, hfinish⟩ := Reader.feedAll_of_cut hlength hbody hback hcut
  simp [bodies, hfeed, hfinish ending]

/-! ## Streams of frames -/

@[simp]
theorem bodies_nil (ending : Ending) : bodies [] ending = [] := by
  cases ending <;> rfl

theorem bodies_flatMap_encode {payloads : List Bytes}
    (h : ∀ body ∈ payloads, body.length ≤ maxLength) (ending : Ending) :
    bodies (payloads.flatMap encode) ending = payloads := by
  induction payloads with
  | nil => exact bodies_nil ending
  | cons body payloads ih =>
    rw [List.flatMap_cons, bodies_encode_append (h body (by simp)),
      ih fun other hother => h other (by simp [hother])]

theorem bodies_take_flatMap_encode {payloads : List Bytes}
    (hlength : ∀ body ∈ payloads, body.length ≤ maxLength) (hbody : ∀ body ∈ payloads, body ≠ [])
    (k : Nat) (ending : Ending) :
    ∃ n ≤ payloads.length,
      bodies ((payloads.flatMap encode).take k) ending = payloads.take n ∧
      ∀ i < payloads.length, i < n ↔ ((payloads.take (i + 1)).flatMap encode).length ≤ k := by
  induction payloads generalizing k with
  | nil => exact ⟨0, Nat.le_refl 0, by simp, by simp⟩
  | cons body payloads ih =>
    by_cases hk : (encode body).length ≤ k
    · -- the first frame has arrived, and the rest of the bytes go to the others
      obtain ⟨n, hn, hbodies, hwhole⟩ := ih (fun other hother => hlength other (by simp [hother]))
        (fun other hother => hbody other (by simp [hother])) (k - (encode body).length)
      refine ⟨n + 1, Nat.succ_le_succ hn, ?_, ?_⟩
      · rw [List.flatMap_cons, List.take_append, List.take_of_length_le hk,
          bodies_encode_append (hlength body (by simp)), hbodies, List.take_succ_cons]
      · intro i hi
        cases i with
        | zero => simpa using hk
        | succ i =>
          have hi' : i < payloads.length := by simpa using hi
          rw [Nat.add_lt_add_iff_right, hwhole i hi', List.take_succ_cons, List.flatMap_cons,
            List.length_append]
          omega
    · -- the cut is inside the first frame
      have hcut : encode body = (encode body).take k ++ (encode body).drop k :=
        (List.take_append_drop k _).symm
      have hback : (encode body).drop k ≠ [] := by
        rw [Ne, List.drop_eq_nil_iff]
        exact hk
      refine ⟨0, Nat.zero_le _, ?_, ?_⟩
      · rw [List.flatMap_cons, List.take_append_of_le_length (by omega), List.take_zero]
        exact bodies_of_cut (hlength body (by simp)) (hbody body (by simp)) hback hcut ending
      · intro i _
        rw [List.take_succ_cons, List.flatMap_cons, List.length_append]
        omega

/-- Frames are read back as what they were made of, in order and nothing else, whatever the
bytes of the payloads. Of a stream of payloads that are not empty, cut off behind its first
`k` bytes, those payloads are read whose last byte is among the `k`. -/
theorem bodies_of_encoded_stream (payloads : List Bytes)
    (hlength : ∀ payload ∈ payloads, payload.length < UInt64.size) (ending : Ending) :
    bodies (payloads.flatMap encode) ending = payloads ∧
    ((∀ payload ∈ payloads, payload ≠ []) → ∀ k, ∃ n ≤ payloads.length,
      bodies ((payloads.flatMap encode).take k) ending = payloads.take n ∧
      ∀ i < payloads.length, i < n ↔ ((payloads.take (i + 1)).flatMap encode).length ≤ k) := by
  have hmax : ∀ payload ∈ payloads, payload.length ≤ maxLength := fun payload hpayload =>
    Nat.le_of_lt_succ (hlength payload hpayload)
  exact ⟨bodies_flatMap_encode hmax ending, fun hbody k =>
    bodies_take_flatMap_encode hmax hbody k ending⟩

/-- A payload that looks like the header of another one, and a cut behind the first byte of
the second payload. -/
theorem bodies_of_encoded_stream_header_in_body :
    let payloads : List Bytes := [Frame.header 1, [Ascii.lineFeed, Ascii.lineFeed]]
    (∀ payload ∈ payloads, payload.length < UInt64.size) ∧ (∀ payload ∈ payloads, payload ≠ []) ∧
    bodies (payloads.flatMap encode) .closed = payloads ∧
    bodies ((payloads.flatMap encode).take 65) .closed = [Frame.header 1] := by
  intro payloads
  have hlength : ∀ payload ∈ payloads, payload.length < UInt64.size := by decide
  have hbody : ∀ payload ∈ payloads, payload ≠ [] := by decide
  obtain ⟨hwhole, hcut⟩ := bodies_of_encoded_stream payloads hlength .closed
  obtain ⟨n, -, hbodies, hwithin⟩ := hcut hbody 65
  have hfirst : 0 < n ↔ 43 ≤ 65 := hwithin 0 (by decide)
  have hsecond : 1 < n ↔ 66 ≤ 65 := hwithin 1 (by decide)
  obtain rfl : n = 1 := by omega
  exact ⟨hlength, hbody, hwhole, hbodies⟩

end DebugAdapter.Frame
