import DebugAdapter.Proofs.Frame.Grammar

/-!
# Messages without a length

A header block without a length is passed over, and the body behind it is taken for the beginning of
another header line. If it is not a line of its own, it takes the length line of the next frame with
it.
-/

namespace DebugAdapter.Frame

/-! ## Lines that give no length -/

/-- A line that gives a length has the name of the field in front, and no capital C behind it. -/
theorem HeaderLine.exists_value_of_ofBytes {line : Bytes} {n : Nat}
    (h : HeaderLine.ofBytes line = .length n) :
    ∃ value, dropTrailing isLineEnd (Utf8.decodeLossy line).toList = lengthField ++ value ∧
      'C' ∉ value := by
  simp only [ofBytes] at h
  split at h
  · cases h
  split at h
  · cases h
  next value hvalue =>
    refine ⟨value, (List.append_eq_of_isPrefixOf?_eq_some hvalue).symm, fun hmem => ?_⟩
    split at h
    · next m hnumber =>
      have htrimmed : 'C' ∈ trimBlank value := mem_trimBlank_of_not hmem (by decide)
      rcases WholeNumber.isDigit_or_of_unsigned hnumber htrimmed with hdigit | hplus
      · exact absurd hdigit (by decide)
      · exact absurd hplus (by decide)
    · cases h

/-- A text without a capital C gives no length. -/
theorem HeaderLine.ofBytes_ne_length_of_not_mem {text : List Char} (h : 'C' ∉ text) (n : Nat) :
    HeaderLine.ofBytes (Utf8.encodeChars text ++ [Ascii.lineFeed]) ≠ .length n := by
  have hfeed : [Ascii.lineFeed] = Utf8.encodeChars ['\n'] := by decide
  intro hlength
  obtain ⟨value, htext, -⟩ := HeaderLine.exists_value_of_ofBytes hlength
  rw [hfeed, ← Utf8.encodeChars_append, Utf8.decodeLossy_encodeChars, String.toList_ofList] at htext
  have hmem : 'C' ∈ lengthField ++ value := List.mem_append_left _ (by decide)
  rw [← htext] at hmem
  have hline : 'C' ∈ text ++ ['\n'] := mem_of_mem_dropTrailing hmem
  simp [h] at hline

theorem lineFeed_not_mem_encodeChars {text : List Char} (h : '\n' ∉ text) :
    Ascii.lineFeed ∉ Utf8.encodeChars text := by
  intro hmem
  obtain ⟨c, hc, hfeed⟩ := Utf8.mem_encodeChars_of_ascii (by decide) hmem
  have hnewline : c = '\n' := Char.toNat_inj.1 (hfeed.trans (by decide))
  exact h (hnewline ▸ hc)

theorem text_append_lengthLine (front : List Char) (length : Nat) :
    dropTrailing isLineEnd (Utf8.decodeLossy
      (Utf8.encodeChars front ++ (lengthLine length ++ [Ascii.lineFeed]))).toList =
      front ++ (lengthField ++ ' ' :: Nat.toDigits 10 length) := by
  have hfeed : [Ascii.lineFeed] = Utf8.encodeChars ['\n'] := by decide
  have htext := text_lengthLine length
  rw [lengthLine, hfeed, ← Utf8.encodeChars_append, Utf8.decodeLossy_encodeChars,
    String.toList_ofList] at htext
  rw [lengthLine, hfeed, ← Utf8.encodeChars_append, ← Utf8.encodeChars_append,
    Utf8.decodeLossy_encodeChars, String.toList_ofList,
    dropTrailing_append_of_ne_nil front (by rw [htext]; simp), htext]

/-- The length line gives no length with a text in front of it: the name of the field begins
with the only capital C in it, so it cannot begin in the middle of the text. -/
theorem HeaderLine.ofBytes_text_lengthLine {text : List Char} (h : text ≠ []) (length n : Nat) :
    HeaderLine.ofBytes (Utf8.encodeChars text ++ (lengthLine length ++ [Ascii.lineFeed])) ≠
      .length n := by
  intro hlength
  obtain ⟨value, htext, hvalue⟩ := HeaderLine.exists_value_of_ofBytes hlength
  rw [text_append_lengthLine] at htext
  have hfield : 'C' ∈ lengthField := by decide
  rcases List.append_eq_append_iff.1 htext with ⟨middle, hfront, hback⟩ | ⟨back, -, rfl⟩
  · -- the text is a part of the name, and the name goes on with `middle`
    obtain ⟨c, text, rfl⟩ := List.exists_cons_of_ne_nil h
    have hname : lengthField = 'C' :: lengthField.tail := by decide
    have htail : 'C' ∉ lengthField.tail := by decide
    cases middle with
    | nil =>
      rw [List.nil_append] at hback
      exact hvalue (hback ▸ List.mem_append_left _ hfield)
    | cons d middle =>
      have hd : d = 'C' := by
        rw [hname, List.cons_append, List.cons_append, List.cons.injEq] at hback
        exact hback.1.symm
      have hmem : 'C' ∈ lengthField.tail := by
        rw [hfront, List.cons_append, List.tail_cons, hd]
        simp
      exact htail hmem
  · exact hvalue (List.mem_append_right _ (List.mem_append_left _ hfield))

/-! ## What is left of a header -/

namespace Reader

/-- At the start of a block, a line that gives no length changes nothing. -/
theorem feedAll_start_of_ne_length {line : Bytes} (h : IsLine line)
    (hline : ∀ n, HeaderLine.ofBytes line ≠ .length n) : start.feedAll line = (start, []) := by
  rw [start, feedAll_isLine h]
  cases hkind : HeaderLine.ofBytes line with
  | blank => rfl
  | length n => exact absurd hkind (hline n)
  | other => rfl

theorem feedAll_start_lineEnd :
    start.feedAll [Ascii.carriageReturn, Ascii.lineFeed] = (start, []) :=
  feedAll_start_of_ne_length isLine_lineEnd fun n => by
    rw [HeaderLine.ofBytes_lineEnd]
    exact HeaderLine.noConfusion

/-- A text in front of a header takes the length from it. -/
theorem feedAll_text_header {text : List Char} (htext : text ≠ []) (hline : '\n' ∉ text)
    (length : Nat) :
    start.feedAll (Utf8.encodeChars text ++ Frame.header length) = (start, []) := by
  have hfront : Ascii.lineFeed ∉ Utf8.encodeChars text ++ lengthLine length := fun hmem =>
    (List.mem_append.1 hmem).elim (lineFeed_not_mem_encodeChars hline)
      (lineFeed_not_mem_lengthLine length)
  have isLine : IsLine (Utf8.encodeChars text ++ (lengthLine length ++ [Ascii.lineFeed])) :=
    ⟨_, hfront, (List.append_assoc _ _ _).symm⟩
  have hjoin : Utf8.encodeChars text ++ Frame.header length =
      (Utf8.encodeChars text ++ (lengthLine length ++ [Ascii.lineFeed])) ++
        [Ascii.carriageReturn, Ascii.lineFeed] := by
    simp [header_eq]
  rw [hjoin, feedAll_append,
    feedAll_start_of_ne_length isLine (HeaderLine.ofBytes_text_lengthLine htext length),
    feedAll_start_lineEnd]
  rfl

/-- The length line without its first bytes is a text without a capital C. -/
theorem exists_drop_lengthLine_eq {k : Nat} (hpos : k ≠ 0) (length : Nat) :
    ∃ text, 'C' ∉ text ∧ (lengthLine length).drop k = Utf8.encodeChars text := by
  obtain ⟨k, rfl⟩ := Nat.exists_eq_succ_of_ne_zero hpos
  let chars := lengthField ++ ' ' :: (Nat.toDigits 10 length ++ ['\r'])
  have hascii : ∀ c ∈ chars, c.toNat < 0x80 := by
    have hfield : lengthField.all (·.toNat < 0x80) = true := by decide
    intro c hc
    simp only [chars, List.mem_append, List.mem_cons, List.not_mem_nil, or_false] at hc
    rcases hc with hc | rfl | hc | rfl
    · exact of_decide_eq_true (List.all_eq_true.1 hfield c hc)
    · decide
    · have hdigit := WholeNumber.isDigit_of_mem_toDigits hc
      simp only [Char.isDigit, Bool.and_eq_true, decide_eq_true_eq,
        UInt32.le_iff_toNat_le] at hdigit
      exact Nat.lt_of_le_of_lt hdigit.2 (by decide)
    · decide
  refine ⟨chars.drop (k + 1), fun hmem => ?_, ?_⟩
  · -- the only capital C is the first character
    have htail : 'C' ∉ lengthField.tail := by decide
    have hdigits : 'C' ∉ Nat.toDigits 10 length := fun hdigit =>
      absurd (WholeNumber.isDigit_of_mem_toDigits hdigit) (by decide)
    have hchars : chars = 'C' :: (lengthField.tail ++ ' ' :: (Nat.toDigits 10 length ++ ['\r'])) :=
      rfl
    rw [hchars, List.drop_succ_cons] at hmem
    have hrest := List.mem_of_mem_drop hmem
    simp [htail, hdigits] at hrest
  · have hdrop : ∀ c ∈ chars.drop (k + 1), c.toNat < 0x80 := fun c hc =>
      hascii c (List.mem_of_mem_drop hc)
    rw [lengthLine, Utf8.encodeChars_of_ascii hascii, Utf8.encodeChars_of_ascii hdrop,
      List.map_drop]

/-- Of a header without its first bytes nothing is left. -/
theorem feedAll_drop_header {k : Nat} (hpos : k ≠ 0) (length : Nat) :
    start.feedAll ((Frame.header length).drop k) = (start, []) := by
  rw [header_eq, List.drop_append]
  by_cases hk : k ≤ (lengthLine length).length
  · obtain ⟨text, htext, hdrop⟩ := exists_drop_lengthLine_eq hpos length
    have hfront : Ascii.lineFeed ∉ (lengthLine length).drop k := fun hmem =>
      lineFeed_not_mem_lengthLine length (List.mem_of_mem_drop hmem)
    have hline : ∀ n, HeaderLine.ofBytes ((lengthLine length).drop k ++ [Ascii.lineFeed]) ≠
        .length n := by
      rw [hdrop]
      exact HeaderLine.ofBytes_ne_length_of_not_mem htext
    have hjoin : (lengthLine length).drop k ++
        [Ascii.lineFeed, Ascii.carriageReturn, Ascii.lineFeed] =
          ((lengthLine length).drop k ++ [Ascii.lineFeed]) ++
            [Ascii.carriageReturn, Ascii.lineFeed] := by simp
    rw [Nat.sub_eq_zero_of_le hk, List.drop_zero, hjoin, feedAll_append,
      feedAll_start_of_ne_length ⟨_, hfront, rfl⟩ hline, feedAll_start_lineEnd]
    rfl
  · -- at most the line end behind the length line is left
    obtain ⟨j, hj⟩ : ∃ j, k - (lengthLine length).length = j + 1 :=
      ⟨k - (lengthLine length).length - 1, by omega⟩
    rw [List.drop_of_length_le (by omega), hj, List.nil_append, List.drop_succ_cons]
    match j with
    | 0 => exact feedAll_start_lineEnd
    | 1 => decide
    | j + 2 => simp

/-- A block that gives no length is passed over. -/
theorem feedAll_of_unmeasured {block : Bytes} (h : Block none block none) :
    start.feedAll block = (start, []) :=
  feedAll_block h

theorem eq_nil_of_finish {reader : Reader} {ending : Ending} {body : Bytes}
    (h : reader.finish ending = some body) : body = [] := by
  unfold finish at h
  split at h
  · split at h
    · exact (Option.some.inj h).symm
    · cases h
  · cases h

end Reader

/-! ## Streams that go on behind a part of them -/

theorem bodies_append_of_feedAll {front : Bytes} (h : Reader.start.feedAll front = (.start, []))
    (stream : Bytes) (ending : Ending) :
    bodies (front ++ stream) ending = bodies stream ending := by
  simp [bodies, Reader.feedAll_append, h]

theorem bodies_flatMap_encode_append {payloads : List Bytes}
    (h : ∀ payload ∈ payloads, payload.length ≤ maxLength) (stream : Bytes) (ending : Ending) :
    bodies (payloads.flatMap encode ++ stream) ending = payloads ++ bodies stream ending := by
  induction payloads with
  | nil => rfl
  | cons payload payloads ih =>
    rw [List.flatMap_cons, List.append_assoc, bodies_encode_append (h payload (by simp)),
      ih fun other hother => h other (by simp [hother]), List.cons_append]

theorem bodies_text {text : List Char} (hline : '\n' ∉ text) (ending : Ending) :
    bodies (Utf8.encodeChars text) ending = [] := by
  rw [bodies, Reader.start, Reader.feedAll_line (lineFeed_not_mem_encodeChars hline)]
  simp only [Reader.unfinished_header_none _ ending, Option.toList_none, List.append_nil]

/-- A frame with a text in front of it is read from its payload on, as if it began there. -/
theorem bodies_text_append {text : List Char} (htext : text ≠ []) (hline : '\n' ∉ text)
    (payload stream : Bytes) (ending : Ending) :
    bodies (Utf8.encodeChars text ++ (encode payload ++ stream)) ending =
      bodies (payload ++ stream) ending := by
  rw [encode, List.append_assoc, ← List.append_assoc,
    bodies_append_of_feedAll (Reader.feedAll_text_header htext hline _)]

/-- Each payload that is a text of one line is lost and takes the next header with it. -/
theorem bodies_text_append_texts {text : List Char} (htext : text ≠ []) (hline : '\n' ∉ text)
    {texts : List String} (h : ∀ t ∈ texts, t ≠ "" ∧ '\n' ∉ t.toList) (ending : Ending) :
    bodies (Utf8.encodeChars text ++ (texts.map Utf8.encode).flatMap encode) ending = [] := by
  induction texts generalizing text with
  | nil => simpa using bodies_text hline ending
  | cons t texts ih =>
    obtain ⟨hne, hfeed⟩ := h t (by simp)
    have hlost : t.toList ≠ [] := by simpa using hne
    rw [List.map_cons, List.flatMap_cons, bodies_text_append htext hline]
    exact ih hlost hfeed fun other hother => h other (by simp [hother])

/-- The first body of a stream stands in it behind something else, and the other bodies are
those of what follows. -/
theorem exists_rest_of_bodies {stream body : Bytes} {others : List Bytes} {ending : Ending}
    (h : bodies stream ending = body :: others) :
    ∃ header rest, header ≠ [] ∧ stream = header ++ (body ++ rest) ∧
      bodies rest ending = others := by
  cases hfeed : Reader.start.feedAll stream with
  | mk reader completed =>
    simp only [bodies, hfeed] at h
    cases completed with
    | cons first completed =>
      rw [List.cons_append, List.cons.injEq] at h
      obtain ⟨rfl, hothers⟩ := h
      obtain ⟨frame, rest, rfl, hframe, hrest⟩ := Reader.exists_isFrame_of_feedAll hfeed
      obtain ⟨header, hheader, rfl⟩ := hframe.exists_eq_append
      exact ⟨header, rest, hheader, List.append_assoc _ _ _, by simp only [bodies, hrest, hothers]⟩
    | nil =>
      -- the end of the stream delivers an empty body, and only behind some bytes
      obtain ⟨hfinish, rfl⟩ : reader.finish ending = some body ∧ others = [] := by
        cases hlast : reader.finish ending with
        | none => simp [hlast] at h
        | some last => simpa [hlast] using h
      refine ⟨stream, [], ?_, ?_, bodies_nil ending⟩
      · rintro rfl
        obtain rfl : Reader.start = reader := congrArg Prod.fst hfeed
        cases ending <;> cases hfinish
      · rw [Reader.eq_nil_of_finish hfinish, List.append_nil, List.append_nil]

/-- A reader that has missed the start of a frame does not deliver all payloads from there on:
whatever it delivers ends too far behind in the stream, by the length of one header at least. -/
theorem bodies_drop_ne (payload : Bytes) (others : List Bytes) (k : Nat) (ending : Ending) :
    bodies ((payload ++ others.flatMap encode).drop k) ending ≠ payload :: others := by
  induction others generalizing payload k with
  | nil =>
    intro h
    obtain ⟨header, rest, hheader, hstream, -⟩ := exists_rest_of_bodies h
    have hlength := congrArg List.length hstream
    have hpos := List.length_pos_iff.2 hheader
    simp at hlength
    omega
  | cons other others ih =>
    intro h
    obtain ⟨header, rest, hheader, hstream, hrest⟩ := exists_rest_of_bodies h
    have hpos := List.length_pos_iff.2 hheader
    -- behind the first body, the reader is some bytes behind the start of the next frame
    have hbehind : rest = (encode other ++ others.flatMap encode).drop (k + header.length) :=
      calc
        rest = (header ++ (payload ++ rest)).drop (header.length + payload.length) := by
          rw [← List.append_assoc, List.drop_left' (by simp)]
        _ = ((payload ++ (other :: others).flatMap encode).drop k).drop
              (header.length + payload.length) := by rw [hstream]
        _ = (encode other ++ others.flatMap encode).drop (k + header.length) := by
          rw [List.drop_drop, List.drop_append, List.drop_of_length_le (by omega), List.nil_append,
            List.flatMap_cons]
          congr 1
          omega
    rw [hbehind, encode, List.append_assoc, List.drop_append] at hrest
    by_cases hk : k + header.length ≤ (Frame.header other.length).length
    · rw [Nat.sub_eq_zero_of_le hk,
        bodies_append_of_feedAll (Reader.feedAll_drop_header (by omega) _)] at hrest
      exact ih other 0 hrest
    · rw [List.drop_of_length_le (by omega), List.nil_append] at hrest
      exact ih other _ hrest

/-- A header block that gives no length is passed over between frames, and nothing else is lost.
With a text of one line behind the block, as the body of the message, the frame that follows is
read from its payload on. So all payloads are delivered only if no frame follows, and
if the payloads that follow are texts of one line, none of them is. -/
theorem bodies_around_unmeasured (ahead behind : List Bytes)
    (hahead : ∀ payload ∈ ahead, payload.length < UInt64.size)
    (hbehind : ∀ payload ∈ behind, payload.length < UInt64.size)
    {block : Bytes} (hblock : Block none block none) (ending : Ending) :
    bodies (ahead.flatMap encode ++ block ++ behind.flatMap encode) ending = ahead ++ behind ∧
    ∀ text : String, text ≠ "" → '\n' ∉ text.toList →
      let stream := ahead.flatMap encode ++ (block ++ Utf8.encode text) ++ behind.flatMap encode
      (∀ payload others, behind = payload :: others →
        bodies stream ending = ahead ++ bodies (payload ++ others.flatMap encode) ending) ∧
      (bodies stream ending = ahead ++ behind ↔ behind = []) ∧
      ∀ texts : List String, behind = texts.map Utf8.encode →
        (∀ t ∈ texts, t ≠ "" ∧ '\n' ∉ t.toList) → bodies stream ending = ahead := by
  have hmax : ∀ payload ∈ ahead, payload.length ≤ maxLength := fun payload hpayload =>
    Nat.le_of_lt_succ (hahead payload hpayload)
  have hskip := Reader.feedAll_of_unmeasured hblock
  refine ⟨?_, fun text hne hline => ?_⟩
  · rw [List.append_assoc, bodies_flatMap_encode_append hmax, bodies_append_of_feedAll hskip,
      bodies_flatMap_encode fun payload hpayload => Nat.le_of_lt_succ (hbehind payload hpayload)]
  · have htext : text.toList ≠ [] := by simpa using hne
    intro stream
    have hstream : bodies stream ending =
        ahead ++ bodies (Utf8.encode text ++ behind.flatMap encode) ending := by
      simp only [stream]
      rw [List.append_assoc, List.append_assoc, bodies_flatMap_encode_append hmax,
        bodies_append_of_feedAll hskip]
    have hnext : ∀ payload others, behind = payload :: others →
        bodies stream ending = ahead ++ bodies (payload ++ others.flatMap encode) ending := by
      rintro payload others rfl
      rw [hstream, List.flatMap_cons, Utf8.encode, bodies_text_append htext hline]
    refine ⟨hnext, ⟨fun hall => ?_, ?_⟩, ?_⟩
    · cases behind with
      | nil => rfl
      | cons payload others =>
        rw [hnext payload others rfl, List.append_right_inj] at hall
        exact absurd hall (bodies_drop_ne payload others 0 ending)
    · rintro rfl
      rw [hstream, List.flatMap_nil, List.append_nil, Utf8.encode, bodies_text hline]
    · rintro texts rfl htexts
      rw [hstream, Utf8.encode, bodies_text_append_texts htext hline htexts, List.append_nil]

/-- The header block of a message whose length field is misspelled. -/
def misspelledBlock : Bytes :=
  Utf8.encode "Content-Lenght: 2\r\n" ++ [Ascii.carriageReturn, Ascii.lineFeed]

theorem block_misspelledBlock : Block none misspelledBlock none := by
  have isLine : IsLine (Utf8.encode "Content-Lenght: 2\r\n") :=
    ⟨Utf8.encode "Content-Lenght: 2\r", by decide, by decide⟩
  exact .other isLine (by decide) (.blank isLine_lineEnd HeaderLine.ofBytes_lineEnd)

example : HeaderLine.ofBytes (Utf8.encode "Content-Length: abc\r\n") = .other := by decide

/-- A misspelled length with no body behind it, and with one. -/
theorem bodies_around_unmeasured_misspelled :
    let ahead : List Bytes := [Utf8.encode "1"]
    let behind : List Bytes := [Utf8.encode "[]", Utf8.encode "2"]
    (∀ payload ∈ ahead, payload.length < UInt64.size) ∧
    (∀ payload ∈ behind, payload.length < UInt64.size) ∧
    Block none misspelledBlock none ∧
    bodies (ahead.flatMap encode ++ misspelledBlock ++ behind.flatMap encode) .closed =
      ahead ++ behind ∧
    bodies (ahead.flatMap encode ++ (misspelledBlock ++ Utf8.encode "{}") ++
      behind.flatMap encode) .closed = ahead := by
  intro ahead behind
  have hahead : ∀ payload ∈ ahead, payload.length < UInt64.size := by decide
  have hbehind : ∀ payload ∈ behind, payload.length < UInt64.size := by decide
  obtain ⟨hwithout, hwith⟩ :=
    bodies_around_unmeasured ahead behind hahead hbehind block_misspelledBlock .closed
  obtain ⟨-, -, htexts⟩ := hwith "{}" (by decide) (by decide)
  exact ⟨hahead, hbehind, block_misspelledBlock, hwithout,
    htexts ["[]", "2"] rfl (by decide)⟩

/-- It is not so that a message without a length is all that is lost: with the length misspelled
and a body of two braces, the frame that follows is lost as well. -/
theorem not_only_unmeasured_lost :
    ¬ ∀ (ahead behind : List Bytes) (block : Bytes) (text : String),
      (∀ payload ∈ ahead ++ behind, payload.length < UInt64.size) →
      Block none block none → text ≠ "" → '\n' ∉ text.toList → '\r' ∉ text.toList →
      bodies (ahead.flatMap encode ++ (block ++ Utf8.encode text) ++ behind.flatMap encode)
        .closed = ahead ++ behind := by
  intro honly
  have hbodies := honly [Utf8.encode "{}"] [Utf8.encode "[]"] misspelledBlock "{}" (by decide)
    block_misspelledBlock (by decide) (by decide) (by decide)
  exact absurd hbodies (by decide)

end DebugAdapter.Frame
