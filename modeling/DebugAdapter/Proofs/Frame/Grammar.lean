import DebugAdapter.Proofs.Frame.RoundTrip

/-!
# The grammar of frames

Frames in a row, said line by line and without a reader, and what a reader makes of them.
-/

namespace DebugAdapter.Frame

/-! ## Lines, blocks and frames -/

/-- Bytes up to a line feed. -/
def IsLine (line : Bytes) : Prop :=
  ∃ front, Ascii.lineFeed ∉ front ∧ line = front ++ [Ascii.lineFeed]

/-- The lines of a header block up to the empty one that closes it, behind lines that have
given the length `given`. The block as a whole gives `length`: the last length counts, and a
line that says nothing of interest neither gives nor takes one. -/
inductive Block : (given : Option Nat) → Bytes → (length : Option Nat) → Prop where
  | blank {given : Option Nat} {line : Bytes} (isLine : IsLine line)
      (h : HeaderLine.ofBytes line = .blank) : Block given line given
  | length {given length : Option Nat} {n : Nat} {line rest : Bytes} (isLine : IsLine line)
      (h : HeaderLine.ofBytes line = .length n) (others : Block (some n) rest length) :
      Block given (line ++ rest) length
  | other {given length : Option Nat} {line rest : Bytes} (isLine : IsLine line)
      (h : HeaderLine.ofBytes line = .other) (others : Block given rest length) :
      Block given (line ++ rest) length

/-- A frame: a block that gives the length of the body, and the body. Blocks that give no
length may come first. -/
inductive IsFrame : (frame body : Bytes) → Prop where
  | body {block body : Bytes} (h : Block none block (some body.length)) :
      IsFrame (block ++ body) body
  | skip {block frame body : Bytes} (h : Block none block none) (rest : IsFrame frame body) :
      IsFrame (block ++ frame) body

/-- Frames in a row. -/
inductive IsStream : (stream : Bytes) → (bodies : List Bytes) → Prop where
  | nil : IsStream [] []
  | cons {frame body stream : Bytes} {bodies : List Bytes} (first : IsFrame frame body)
      (rest : IsStream stream bodies) : IsStream (frame ++ stream) (body :: bodies)

theorem Block.ne_nil {given length : Option Nat} {block : Bytes} (h : Block given block length) :
    block ≠ [] := by
  have hline {line : Bytes} : IsLine line → line ≠ [] := by
    rintro ⟨front, -, rfl⟩
    simp
  cases h with
  | blank isLine => exact hline isLine
  | length isLine => exact List.append_ne_nil_of_left_ne_nil (hline isLine) _
  | other isLine => exact List.append_ne_nil_of_left_ne_nil (hline isLine) _

/-- The body stands at the end of its frame, behind at least one line. -/
theorem IsFrame.exists_eq_append {frame body : Bytes} (h : IsFrame frame body) :
    ∃ header, header ≠ [] ∧ frame = header ++ body := by
  induction h with
  | body h => exact ⟨_, h.ne_nil, rfl⟩
  | @skip block frame body h _ ih =>
    obtain ⟨header, -, rfl⟩ := ih
    exact ⟨block ++ header, by simp [h.ne_nil], (List.append_assoc _ _ _).symm⟩

theorem isLine_lengthLine (length : Nat) : IsLine (lengthLine length ++ [Ascii.lineFeed]) :=
  ⟨_, lineFeed_not_mem_lengthLine length, rfl⟩

theorem isLine_lineEnd : IsLine [Ascii.carriageReturn, Ascii.lineFeed] :=
  ⟨[Ascii.carriageReturn], by decide, rfl⟩

/-- What is written as a frame is one. -/
theorem isFrame_encode {body : Bytes} (h : body.length ≤ maxLength) :
    IsFrame (encode body) body := by
  have hlast : Block (some body.length) [Ascii.carriageReturn, Ascii.lineFeed]
      (some body.length) := .blank isLine_lineEnd HeaderLine.ofBytes_lineEnd
  have hblock : Block none (Frame.header body.length) (some body.length) := by
    rw [header_eq, ← List.singleton_append, ← List.append_assoc]
    exact .length (isLine_lengthLine _) (HeaderLine.ofBytes_lengthLine h) hlast
  exact .body hblock

/-! ## Frames are read as their bodies -/

namespace Reader

theorem feedAll_isLine {line : Bytes} (h : IsLine line) (given : Option Nat) :
    feedAll (.header [] given) line =
      match HeaderLine.ofBytes line with
      | .blank => ((afterHeader given).1, (afterHeader given).2.toList)
      | .length n => (.header [] (some n), [])
      | .other => (.header [] given, []) := by
  obtain ⟨front, hfront, rfl⟩ := h
  have hbytes : (Ascii.lineFeed :: (front.reverse ++ [])).reverse = front ++ [Ascii.lineFeed] := by
    simp
  rw [feedAll_append, feedAll_line hfront, feedAll_cons, feed, if_neg (not_not_intro rfl), hbytes]
  cases HeaderLine.ofBytes (front ++ [Ascii.lineFeed]) <;> simp

theorem feedAll_block {given length : Option Nat} {block : Bytes} (h : Block given block length) :
    feedAll (.header [] given) block =
      ((afterHeader length).1, (afterHeader length).2.toList) := by
  induction h with
  | blank isLine h => rw [feedAll_isLine isLine, h]
  | length isLine h _ ih =>
    rw [feedAll_append, feedAll_isLine isLine, h]
    simp only [ih, List.nil_append]
  | other isLine h _ ih =>
    rw [feedAll_append, feedAll_isLine isLine, h]
    simp only [ih, List.nil_append]

/-- A body behind a block that gives its length. -/
theorem feedAll_afterHeader (body : Bytes) :
    ((afterHeader (some body.length)).1.feedAll body).1 = start ∧
      (afterHeader (some body.length)).2.toList ++
        ((afterHeader (some body.length)).1.feedAll body).2 = [body] := by
  cases body with
  | nil => exact ⟨rfl, rfl⟩
  | cons b body =>
    have hwhole : feedAll (.body body.length []) (b :: body) = (start, [b :: body]) :=
      feedAll_body rfl
    simp only [List.length_cons, afterHeader, hwhole, Option.toList_none, List.nil_append,
      and_self]

/-- The last byte of a frame completes its body. -/
theorem feedAll_isFrame {frame body : Bytes} (h : IsFrame frame body) :
    start.feedAll frame = (start, [body]) := by
  induction h with
  | @body block body h =>
    obtain ⟨hreader, hbody⟩ := feedAll_afterHeader body
    rw [start, feedAll_append, feedAll_block h, hreader, hbody]
    rfl
  | skip h _ ih =>
    have hblock : start.feedAll _ = (start, []) := feedAll_block h
    rw [feedAll_append, hblock, ih, List.nil_append]

theorem feedAll_isStream {stream : Bytes} {bodies : List Bytes} (h : IsStream stream bodies) :
    start.feedAll stream = (start, bodies) := by
  induction h with
  | nil => rfl
  | cons first _ ih =>
    rw [feedAll_append, feedAll_isFrame first, ih]
    rfl

end Reader

theorem bodies_append_of_isStream {front : Bytes} {completed : List Bytes}
    (h : IsStream front completed) (stream : Bytes) (ending : Ending) :
    bodies (front ++ stream) ending = completed ++ bodies stream ending := by
  simp [bodies, Reader.feedAll_append, Reader.feedAll_isStream h]

/-! ## What is delivered has a frame -/

/-- The rest of a frame behind lines that have given the length `given`. -/
def IsFrameRest (given : Option Nat) (rest body : Bytes) : Prop :=
  (∃ block, Block given block (some body.length) ∧ rest = block ++ body) ∨
    ∃ block frame, Block given block none ∧ IsFrame frame body ∧ rest = block ++ frame

namespace IsFrameRest

variable {given : Option Nat} {line rest body : Bytes}

theorem isFrame (h : IsFrameRest none rest body) : IsFrame rest body := by
  rcases h with ⟨block, hblock, rfl⟩ | ⟨block, frame, hblock, hframe, rfl⟩
  · exact .body hblock
  · exact .skip hblock hframe

theorem length {n : Nat} (isLine : IsLine line) (hline : HeaderLine.ofBytes line = .length n)
    (h : IsFrameRest (some n) rest body) : IsFrameRest given (line ++ rest) body := by
  rcases h with ⟨block, hblock, rfl⟩ | ⟨block, frame, hblock, hframe, rfl⟩
  · exact .inl ⟨line ++ block, .length isLine hline hblock, (List.append_assoc _ _ _).symm⟩
  · exact .inr ⟨line ++ block, frame, .length isLine hline hblock, hframe,
      (List.append_assoc _ _ _).symm⟩

theorem other (isLine : IsLine line) (hline : HeaderLine.ofBytes line = .other)
    (h : IsFrameRest given rest body) : IsFrameRest given (line ++ rest) body := by
  rcases h with ⟨block, hblock, rfl⟩ | ⟨block, frame, hblock, hframe, rfl⟩
  · exact .inl ⟨line ++ block, .other isLine hline hblock, (List.append_assoc _ _ _).symm⟩
  · exact .inr ⟨line ++ block, frame, .other isLine hline hblock, hframe,
      (List.append_assoc _ _ _).symm⟩

end IsFrameRest

namespace Reader

/-- The first body that is delivered in the middle of a body is the one that is owed. -/
theorem exists_rest_of_feedAll_body {owed : Nat} {received stream body : Bytes} {reader : Reader}
    {bodies : List Bytes} (h : feedAll (.body owed received) stream = (reader, body :: bodies)) :
    ∃ back rest, stream = back ++ rest ∧ back.length = owed + 1 ∧
      body = received.reverse ++ back ∧ start.feedAll rest = (reader, bodies) := by
  by_cases hlength : stream.length ≤ owed
  · -- the stream ends before the body does, so nothing is delivered
    rw [feedAll_body_short hlength] at h
    cases h
  · obtain ⟨back, rest, rfl, hback⟩ :
        ∃ back rest, stream = back ++ rest ∧ back.length = owed + 1 :=
      ⟨stream.take (owed + 1), stream.drop (owed + 1), (List.take_append_drop _ _).symm,
        by rw [List.length_take]; omega⟩
    obtain ⟨front, last, rfl⟩ : ∃ front last, back = front ++ [last] :=
      ⟨_, _, (List.dropLast_concat_getLast (List.ne_nil_of_length_eq_add_one hback)).symm⟩
    have hfront : front.length = owed := by simpa using hback
    have hwhole : feedAll (.body owed received) (front ++ [last]) =
        (start, [received.reverse ++ (front ++ [last])]) := by
      rw [feedAll_append, feedAll_body_short (by omega), hfront, Nat.sub_self, feedAll_cons, feed]
      simp
    rw [feedAll_append, hwhole] at h
    simp only [List.cons_append, List.nil_append, Prod.mk.injEq, List.cons.injEq] at h
    obtain ⟨hreader, hbody, hbodies⟩ := h
    exact ⟨front ++ [last], rest, rfl, hback, hbody.symm, by rw [← hreader, ← hbodies]⟩

/-- The first body that is delivered in the middle of a block has the rest of its frame at the
front of the stream. -/
theorem exists_isFrameRest_of_feedAll {given : Option Nat} {line stream body : Bytes}
    {reader : Reader} {bodies : List Bytes} (hline : Ascii.lineFeed ∉ line)
    (h : feedAll (.header line given) stream = (reader, body :: bodies)) :
    ∃ frame rest, stream = frame ++ rest ∧ IsFrameRest given (line.reverse ++ frame) body ∧
      start.feedAll rest = (reader, bodies) := by
  induction stream generalizing line given with
  | nil => cases h
  | cons b stream ih =>
    by_cases hb : b = Ascii.lineFeed
    · -- the line is complete, and what it says decides what comes behind it
      subst hb
      have isLine : IsLine (line.reverse ++ [Ascii.lineFeed]) := ⟨_, by simpa using hline, rfl⟩
      have hbytes : (Ascii.lineFeed :: line).reverse = line.reverse ++ [Ascii.lineFeed] :=
        List.reverse_cons
      have hjoin (bytes : Bytes) : line.reverse ++ Ascii.lineFeed :: bytes =
          line.reverse ++ [Ascii.lineFeed] ++ bytes := List.append_cons _ _ _
      rw [feedAll_cons, feed, if_neg (not_not_intro rfl), hbytes] at h
      cases hkind : HeaderLine.ofBytes (line.reverse ++ [Ascii.lineFeed]) with
      | blank =>
        simp only [hkind] at h
        cases given with
        | none =>
          have hnone : Ascii.lineFeed ∉ ([] : Bytes) := List.not_mem_nil
          obtain ⟨frame, rest, rfl, hframe, hrest⟩ := ih hnone h
          exact ⟨Ascii.lineFeed :: frame, rest, rfl,
            .inr ⟨_, frame, .blank isLine hkind, hframe.isFrame, hjoin frame⟩, hrest⟩
        | some n =>
          cases n with
          | zero =>
            simp only [afterHeader, Option.toList_some, List.cons_append, List.nil_append,
              Prod.mk.injEq, List.cons.injEq] at h
            obtain ⟨hreader, rfl, hbodies⟩ := h
            exact ⟨[Ascii.lineFeed], stream, rfl, .inl ⟨_, .blank isLine hkind, hjoin []⟩,
              by rw [← hreader, ← hbodies]⟩
          | succ n =>
            obtain ⟨back, rest, rfl, hback, hbody, hrest⟩ := exists_rest_of_feedAll_body h
            have hbody : body = back := by simpa using hbody
            subst hbody
            refine ⟨Ascii.lineFeed :: body, rest, rfl, .inl ⟨_, ?_, hjoin body⟩, hrest⟩
            rw [hback]
            exact .blank isLine hkind
      | length n =>
        simp only [hkind] at h
        obtain ⟨frame, rest, rfl, hframe, hrest⟩ := ih List.not_mem_nil h
        refine ⟨Ascii.lineFeed :: frame, rest, rfl, ?_, hrest⟩
        rw [hjoin]
        exact .length isLine hkind hframe
      | other =>
        simp only [hkind] at h
        obtain ⟨frame, rest, rfl, hframe, hrest⟩ := ih List.not_mem_nil h
        refine ⟨Ascii.lineFeed :: frame, rest, rfl, ?_, hrest⟩
        rw [hjoin]
        exact .other isLine hkind hframe
    · rw [feedAll_cons, feed, if_pos hb] at h
      have hlonger : Ascii.lineFeed ∉ b :: line := by
        simp only [List.mem_cons, not_or]
        exact ⟨fun hfeed => hb hfeed.symm, hline⟩
      obtain ⟨frame, rest, rfl, hframe, hrest⟩ := ih hlonger h
      exact ⟨b :: frame, rest, rfl, by simpa using hframe, hrest⟩

/-- A stream of which a body is delivered begins with the frame of the body. -/
theorem exists_isFrame_of_feedAll {stream body : Bytes} {reader : Reader} {bodies : List Bytes}
    (h : start.feedAll stream = (reader, body :: bodies)) :
    ∃ frame rest, stream = frame ++ rest ∧ IsFrame frame body ∧
      start.feedAll rest = (reader, bodies) := by
  obtain ⟨frame, rest, hstream, hframe, hrest⟩ :=
    exists_isFrameRest_of_feedAll List.not_mem_nil h
  exact ⟨frame, rest, hstream, IsFrameRest.isFrame hframe, hrest⟩

end Reader

end DebugAdapter.Frame
