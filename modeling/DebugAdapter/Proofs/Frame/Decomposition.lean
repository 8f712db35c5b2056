import DebugAdapter.Proofs.Frame.HeaderLine
import DebugAdapter.Proofs.Text.Cut

/-!
# Streams taken apart

Rules about the bytes of a stream, said without a reader. That a reader delivers the bodies is shown
by going through the stream line by line.
-/

namespace DebugAdapter.Frame

/-! ## The grammar -/

/-- A line in front of what is behind it: bytes up to a line feed, or some bytes without one if
the stream closes behind them. -/
def IsLineBefore (ending : Ending) (behind line : Bytes) : Prop :=
  IsLine line ∨ (ending = .closed ∧ behind = [] ∧ line ≠ [] ∧ Ascii.lineFeed ∉ line)

/-- The length that lines give, if any: that of the last line that gives one. -/
def LastLength (lines : List Bytes) : Option Nat → Prop
  | some n => ∃ front line back, lines = front ++ line :: back ∧ GivesLength line n ∧
      ∀ later ∈ back, ∀ m, ¬ GivesLength later m
  | none => ∀ line ∈ lines, ∀ m, ¬ GivesLength line m

/-- A header block in front of what is behind it: lines that are not blank, and a blank one that
closes it. -/
def IsBlock (ending : Ending) (behind block : Bytes) (length : Option Nat) : Prop :=
  ∃ lines closing, block = lines.flatten ++ closing ∧
    (∀ line ∈ lines, IsLine line ∧ ¬ IsBlankLine line) ∧ LastLength lines length ∧
    IsLineBefore ending behind closing ∧ IsBlankLine closing

/-- A header in front of what is behind it: header blocks of which only the last gives a length. -/
inductive IsHeader (ending : Ending) : (behind header : Bytes) → (length : Nat) → Prop where
  | last {behind block : Bytes} {n : Nat} (isBlock : IsBlock ending behind block (some n)) :
      IsHeader ending behind block n
  | skip {behind block header : Bytes} {n : Nat}
      (isBlock : IsBlock ending (header ++ behind) block none)
      (others : IsHeader ending behind header n) : IsHeader ending behind (block ++ header) n

/-- In the rest of a stream no frame is complete: there is no header in front of it, or there are
fewer bytes behind the header than it says. -/
def Exhausted (ending : Ending) (rest : Bytes) : Prop :=
  ∀ header behind n, rest = header ++ behind → IsHeader ending behind header n → behind.length < n

/-- A stream taken apart: headers with the bodies behind them, and the rest. -/
inductive Decomposes (ending : Ending) :
    (stream : Bytes) → (frames : List (Bytes × Bytes)) → (rest : Bytes) → Prop where
  | rest {rest : Bytes} (exhausted : Exhausted ending rest) : Decomposes ending rest [] rest
  | frame {header body behind rest : Bytes} {frames : List (Bytes × Bytes)}
      (isHeader : IsHeader ending (body ++ behind) header body.length)
      (others : Decomposes ending behind frames rest) :
      Decomposes ending (header ++ (body ++ behind)) ((header, body) :: frames) rest

/-! ## Headers line by line -/

/-- The length that a line gives, if any. -/
def HeaderLine.length? : HeaderLine → Option Nat
  | .length n => some n
  | _ => none

/-- The length given so far, behind a line that is not the end of the header; `none` for the line
that is the end. -/
def HeaderLine.after (given : Option Nat) : HeaderLine → Option (Option Nat)
  | .blank => if given.isSome then none else some none
  | .length n => some (some n)
  | .other => some given

/-- A header from one of its lines on, in front of what is behind it. The lines before have given
the length `given` since the last blank line. -/
inductive Scan (ending : Ending) :
    (given : Option Nat) → (behind header : Bytes) → (length : Nat) → Prop where
  | last {behind line : Bytes} {n : Nat} (isLine : IsLineBefore ending behind line)
      (blank : HeaderLine.ofBytes line = .blank) : Scan ending (some n) behind line n
  | next {given given' : Option Nat} {behind line header : Bytes} {n : Nat} (isLine : IsLine line)
      (after : (HeaderLine.ofBytes line).after given = some given')
      (others : Scan ending given' behind header n) : Scan ending given behind (line ++ header) n

/-- The length that lines give behind others that have given the length `given`. -/
def givenBy (given : Option Nat) (lines : List Bytes) : Option Nat :=
  (lines.reverse.findSome? fun line => (HeaderLine.ofBytes line).length?).or given

theorem length?_eq_some {line : Bytes} {n : Nat} :
    (HeaderLine.ofBytes line).length? = some n ↔ GivesLength line n := by
  rw [← HeaderLine.ofBytes_eq_length]
  cases HeaderLine.ofBytes line <;> simp [HeaderLine.length?]

theorem length?_eq_none {line : Bytes} :
    (HeaderLine.ofBytes line).length? = none ↔ ∀ n, ¬ GivesLength line n := by
  simp only [Option.eq_none_iff_forall_ne_some, ne_eq, length?_eq_some]

theorem lastLength_iff {lines : List Bytes} {length : Option Nat} :
    LastLength lines length ↔ givenBy none lines = length := by
  rw [givenBy, Option.or_none]
  cases length with
  | none =>
    simp only [LastLength, List.findSome?_eq_none_iff, List.mem_reverse, length?_eq_none]
  | some n =>
    rw [List.findSome?_eq_some_iff]
    simp only [LastLength, length?_eq_some, length?_eq_none]
    constructor
    · rintro ⟨front, line, back, rfl, hline, hback⟩
      exact ⟨back.reverse, line, front.reverse, by simp, hline, by simpa using hback⟩
    · rintro ⟨back, line, front, hlines, hline, hback⟩
      refine ⟨front.reverse, line, back.reverse, ?_, hline, by simpa using hback⟩
      rw [← List.reverse_reverse lines, hlines]
      simp

theorem givenBy_concat (lines : List Bytes) (line : Bytes) :
    givenBy none (lines ++ [line]) =
      (HeaderLine.ofBytes line).length?.or (givenBy none lines) := by
  simp only [givenBy, List.reverse_append, List.reverse_singleton, List.singleton_append,
    List.findSome?_cons, Option.or_none]
  cases (HeaderLine.ofBytes line).length? <;> rfl

theorem givenBy_cons (given : Option Nat) (line : Bytes) (lines : List Bytes) :
    givenBy given (line :: lines) =
      givenBy ((HeaderLine.ofBytes line).length?.or given) lines := by
  simp only [givenBy, List.reverse_cons, List.findSome?_append, List.findSome?_singleton,
    Option.or_assoc]

/-- A line that is not blank does not end the header. -/
theorem HeaderLine.after_of_not_blank {line : HeaderLine} (h : line ≠ .blank)
    (given : Option Nat) : line.after given = some (line.length?.or given) := by
  cases line with
  | blank => exact absurd rfl h
  | length n => rfl
  | other => rfl

/-- Behind a length a blank line is the end of the header, and nothing else is. -/
theorem HeaderLine.after_eq_none {line : HeaderLine} {given : Option Nat} :
    line.after given = none ↔ line = .blank ∧ ∃ n, given = some n := by
  cases line with
  | blank => cases given <;> simp [HeaderLine.after]
  | length n => simp [HeaderLine.after]
  | other => simp [HeaderLine.after]

/-- A blank line before any length is passed over. -/
theorem HeaderLine.eq_none_of_blank {given given' : Option Nat}
    (h : HeaderLine.blank.after given = some given') : given = none ∧ given' = none := by
  cases given with
  | none => exact ⟨rfl, (Option.some.inj h).symm⟩
  | some n => cases h

theorem Scan.of_lines {ending : Ending} {given : Option Nat} {lines : List Bytes}
    {behind header : Bytes} {n : Nat} (hlines : ∀ line ∈ lines, IsLine line ∧ ¬ IsBlankLine line)
    (h : Scan ending (givenBy given lines) behind header n) :
    Scan ending given behind (lines.flatten ++ header) n := by
  induction lines generalizing given with
  | nil =>
    have hgiven : givenBy given [] = given := rfl
    rwa [hgiven] at h
  | cons line lines ih =>
    obtain ⟨isLine, hsome⟩ := hlines line (.head lines)
    rw [← HeaderLine.ofBytes_eq_blank] at hsome
    rw [givenBy_cons] at h
    rw [List.flatten_cons, List.append_assoc]
    exact .next isLine (HeaderLine.after_of_not_blank hsome given)
      (ih (fun other hother => hlines other (.tail line hother)) h)

theorem IsLineBefore.ne_nil {ending : Ending} {behind line : Bytes}
    (h : IsLineBefore ending behind line) : line ≠ [] := by
  rcases h with ⟨front, -, rfl⟩ | ⟨-, -, hsome, -⟩
  · simp
  · exact hsome

theorem Scan.ne_nil {ending : Ending} {given : Option Nat} {behind header : Bytes} {n : Nat}
    (h : Scan ending given behind header n) : header ≠ [] := by
  induction h with
  | last isLine _ => exact isLine.ne_nil
  | next _ _ _ ih => exact List.append_ne_nil_of_right_ne_nil _ ih

theorem IsHeader.scan {ending : Ending} {behind header : Bytes} {n : Nat}
    (h : IsHeader ending behind header n) : Scan ending none behind header n := by
  induction h with
  | last hblock =>
    obtain ⟨lines, closing, rfl, hlines, hlength, isLine, hblank⟩ := hblock
    apply Scan.of_lines hlines
    rw [lastLength_iff.1 hlength]
    exact .last isLine (HeaderLine.ofBytes_eq_blank.2 hblank)
  | @skip block header n hblock _ ih =>
    obtain ⟨lines, closing, rfl, hlines, hlength, isLine, hblank⟩ := hblock
    rw [List.append_assoc]
    apply Scan.of_lines hlines
    rw [lastLength_iff.1 hlength]
    -- a block that is followed by another one is closed by a line with its line feed
    rcases isLine with isLine | ⟨-, hnone, -⟩
    · exact .next isLine (by rw [HeaderLine.ofBytes_eq_blank.2 hblank]; rfl) ih
    · exact absurd (List.append_eq_nil_iff.1 hnone).1 ih.ne_nil

/-- The lines that the scan has passed since the last blank line belong to the block that goes on
with what is left of the header. -/
theorem Scan.isHeader {ending : Ending} {given : Option Nat} {behind header : Bytes} {n : Nat}
    (h : Scan ending given behind header n) (lines : List Bytes)
    (hlines : ∀ line ∈ lines, IsLine line ∧ ¬ IsBlankLine line) (hgiven : givenBy none lines = given) :
    IsHeader ending behind (lines.flatten ++ header) n := by
  induction h generalizing lines with
  | @last behind line n isLine hblank =>
    exact .last ⟨lines, line, rfl, hlines, lastLength_iff.2 hgiven, isLine,
      HeaderLine.ofBytes_eq_blank.1 hblank⟩
  | @next given given' behind line header n isLine hafter others ih =>
    rw [← List.append_assoc]
    by_cases hblank : HeaderLine.ofBytes line = .blank
    · -- the block ends without a length, and the header goes on with another one
      obtain ⟨hnone, rfl⟩ := HeaderLine.eq_none_of_blank (hblank ▸ hafter)
      rw [hnone] at hgiven
      have hothers : IsHeader ending behind header n := ih [] (by simp) rfl
      exact .skip ⟨lines, line, rfl, hlines, lastLength_iff.2 hgiven, .inl isLine,
        HeaderLine.ofBytes_eq_blank.1 hblank⟩ hothers
    · rw [HeaderLine.after_of_not_blank hblank, ← hgiven, ← givenBy_concat] at hafter
      have hlonger : ∀ other ∈ lines ++ [line], IsLine other ∧ ¬ IsBlankLine other := by
        intro other hother
        rcases List.mem_append.1 hother with hother | hother
        · exact hlines other hother
        · rw [List.mem_singleton.1 hother]
          exact ⟨isLine, fun h => hblank (HeaderLine.ofBytes_eq_blank.2 h)⟩
      have hheader := ih _ hlonger (Option.some.inj hafter)
      rwa [List.flatten_append, List.flatten_singleton] at hheader

theorem isHeader_iff_scan {ending : Ending} {behind header : Bytes} {n : Nat} :
    IsHeader ending behind header n ↔ Scan ending none behind header n := by
  constructor
  · exact IsHeader.scan
  · intro h
    exact h.isHeader [] (by simp) rfl

/-! ## How short a header can be -/

theorem Scan.length_ge {ending : Ending} {given : Option Nat} {behind header : Bytes} {n : Nat}
    (h : Scan ending given behind header n) :
    1 ≤ header.length ∧ (given = none → 18 ≤ header.length) := by
  induction h with
  | last isLine _ => exact ⟨List.length_pos_iff.2 isLine.ne_nil, nofun⟩
  | @next given given' behind line header n isLine hafter _ ih =>
    obtain ⟨hsome, hwhole⟩ := ih
    rw [List.length_append]
    refine ⟨by omega, ?_⟩
    rintro rfl
    cases hline : HeaderLine.ofBytes line with
    | blank =>
      rw [hline] at hafter
      have hlong := hwhole (Option.some.inj hafter).symm
      omega
    | length m =>
      have hlong := (HeaderLine.ofBytes_eq_length.1 hline).length_ge isLine
      omega
    | other =>
      rw [hline] at hafter
      have hlong := hwhole (Option.some.inj hafter).symm
      omega

/-! ## There is one way to take a stream apart -/

/-- A stream begins with one line. -/
theorem IsLineBefore.unique {ending : Ending} {line line' behind behind' : Bytes}
    (h : IsLineBefore ending behind line) (h' : IsLineBefore ending behind' line')
    (heq : line ++ behind = line' ++ behind') : line = line' := by
  have hfeed {bytes : Bytes} : IsLine bytes → Ascii.lineFeed ∈ bytes := by
    rintro ⟨front, -, rfl⟩
    simp
  rcases h with isLine | ⟨-, rfl, -, hopen⟩
  · rcases h' with isLine' | ⟨-, rfl, -, hopen'⟩
    · obtain ⟨front, hfront, rfl⟩ := isLine
      obtain ⟨front', hfront', rfl⟩ := isLine'
      rw [List.append_assoc, List.append_assoc] at heq
      rw [(eq_of_append_cons_eq hfront hfront' heq).1]
    · rw [List.append_nil] at heq
      rw [← heq] at hopen'
      exact absurd (List.mem_append_left behind (hfeed isLine)) hopen'
  · rw [List.append_nil] at heq
    rcases h' with isLine' | ⟨-, rfl, -, -⟩
    · rw [heq] at hopen
      exact absurd (List.mem_append_left behind' (hfeed isLine')) hopen
    · rw [heq, List.append_nil]

theorem Scan.unique {ending : Ending} {given : Option Nat} {header header' behind behind' : Bytes}
    {n n' : Nat} (h : Scan ending given behind header n) (h' : Scan ending given behind' header' n')
    (heq : header ++ behind = header' ++ behind') : header = header' ∧ n = n' := by
  induction h generalizing header' with
  | @last behind line n isLine hblank =>
    generalize hgiven : some n = given at h'
    cases h' with
    | last isLine' _ => exact ⟨isLine.unique isLine' heq, Option.some.inj hgiven⟩
    | next isLine' hafter _ =>
      -- a blank line ends the header, so it does not go on
      rw [List.append_assoc] at heq
      obtain rfl := isLine.unique (.inl isLine') heq
      rw [HeaderLine.after_eq_none.2 ⟨hblank, n, hgiven.symm⟩] at hafter
      cases hafter
  | @next given given' behind line header n isLine hafter _ ih =>
    generalize hgiven : given = other at h'
    cases h' with
    | @last _ _ n' isLine' hblank =>
      rw [List.append_assoc] at heq
      obtain rfl := IsLineBefore.unique (.inl isLine) isLine' heq
      rw [HeaderLine.after_eq_none.2 ⟨hblank, n', hgiven⟩] at hafter
      cases hafter
    | next isLine' hafter' others' =>
      subst hgiven
      rw [List.append_assoc, List.append_assoc] at heq
      have hline : IsLineBefore ending (header ++ behind) line := .inl isLine
      obtain rfl := hline.unique (.inl isLine') heq
      rw [hafter] at hafter'
      obtain rfl := Option.some.inj hafter'
      obtain ⟨rfl, rfl⟩ := ih others' (List.append_cancel_left heq)
      exact ⟨rfl, rfl⟩

theorem Decomposes.unique {ending : Ending} {stream rest rest' : Bytes}
    {frames frames' : List (Bytes × Bytes)} (h : Decomposes ending stream frames rest)
    (h' : Decomposes ending stream frames' rest') : frames = frames' ∧ rest = rest' := by
  induction h generalizing frames' rest' with
  | @rest rest hexhausted =>
    cases h' with
    | rest _ => exact ⟨rfl, rfl⟩
    | @frame header body behind _ _ hheader _ =>
      have hshort := hexhausted header (body ++ behind) body.length rfl hheader
      rw [List.length_append] at hshort
      omega
  | @frame header body behind rest frames hheader _ ih =>
    generalize hstream : header ++ (body ++ behind) = stream at h'
    cases h' with
    | rest hexhausted =>
      have hshort := hexhausted header (body ++ behind) body.length hstream.symm hheader
      rw [List.length_append] at hshort
      omega
    | @frame header' body' behind' _ _ hheader' hothers' =>
      obtain ⟨rfl, hlength⟩ := hheader.scan.unique hheader'.scan hstream
      obtain ⟨rfl, rfl⟩ := List.append_inj (List.append_cancel_left hstream) hlength
      obtain ⟨rfl, rfl⟩ := ih hothers'
      exact ⟨rfl, rfl⟩

/-! ## What is delivered of a stream -/

/-- The bodies that a reader delivers of the rest of a stream. -/
def Reader.deliver (reader : Reader) (ending : Ending) (stream : Bytes) : List Bytes :=
  (reader.feedAll stream).2 ++ ((reader.feedAll stream).1.finish ending).toList

namespace Reader

theorem bodies_eq_deliver (stream : Bytes) (ending : Ending) :
    bodies stream ending = start.deliver ending stream :=
  rfl

theorem deliver_append {reader : Reader} {front : Bytes} {ending : Ending} (behind : Bytes) :
    reader.deliver ending (front ++ behind) =
      (reader.feedAll front).2 ++ (reader.feedAll front).1.deliver ending behind := by
  simp only [deliver, feedAll_append, List.append_assoc]

/-- A line that does not end the header. -/
theorem deliver_line {given given' : Option Nat} {line : Bytes} (isLine : IsLine line)
    (hafter : (HeaderLine.ofBytes line).after given = some given') (ending : Ending)
    (behind : Bytes) :
    deliver (.header [] given) ending (line ++ behind) =
      deliver (.header [] given') ending behind := by
  rw [deliver_append, feedAll_isLine isLine]
  cases hline : HeaderLine.ofBytes line with
  | blank =>
    rw [hline] at hafter
    obtain ⟨rfl, rfl⟩ := HeaderLine.eq_none_of_blank hafter
    rfl
  | length n =>
    rw [hline] at hafter
    obtain rfl := Option.some.inj hafter
    rfl
  | other =>
    rw [hline] at hafter
    obtain rfl := Option.some.inj hafter
    rfl

/-- A line that is not closed delivers something only if it is blank and the body is empty. -/
theorem deliver_open {line : Bytes} (hopen : Ascii.lineFeed ∉ line) (given : Option Nat)
    (ending : Ending) :
    deliver (.header [] given) ending line =
      if given = some 0 ∧ ending = .closed ∧ line ≠ [] ∧ HeaderLine.ofBytes line = .blank
      then [[]] else [] := by
  rw [deliver, feedAll_line hopen, List.nil_append, List.append_nil]
  cases hreverse : line.reverse with
  | nil =>
    obtain rfl := List.reverse_eq_nil_iff.1 hreverse
    simp [finish]
  | cons b others =>
    have hline : line = (b :: others).reverse := by rw [← hreverse, List.reverse_reverse]
    have hsome : line ≠ [] := by simp [hline]
    match given, ending with
    | none, _ => rw [(unfinished_header_none (b :: others)) _]; simp
    | some (n + 1), _ =>
      rw [(unfinished_header_some (Nat.succ_ne_zero n) (b :: others)) _]
      simp
    | some 0, .failed => simp [finish]
    | some 0, .closed =>
      rw [finish, ← hline]
      by_cases hblank : HeaderLine.ofBytes line = .blank
      · simp [hblank, hsome]
      · simp [hblank]

/-- Behind a block that gives a length, the body is owed and then the next frame begins. -/
theorem deliver_body (body behind : Bytes) (ending : Ending) :
    (afterHeader (some body.length)).2.toList ++
      (afterHeader (some body.length)).1.deliver ending (body ++ behind) =
        body :: bodies behind ending := by
  obtain ⟨hreader, hbody⟩ := feedAll_afterHeader body
  rw [deliver_append, hreader, ← List.append_assoc, hbody, bodies_eq_deliver,
    List.singleton_append]

/-- Fewer bytes than the body has do not complete it. -/
theorem deliver_body_short {n : Nat} {behind : Bytes} (h : behind.length < n) (ending : Ending) :
    (afterHeader (some n)).2.toList ++ (afterHeader (some n)).1.deliver ending behind = [] := by
  obtain ⟨n, rfl⟩ := Nat.exists_eq_succ_of_ne_zero (by omega : n ≠ 0)
  rw [afterHeader, deliver, feedAll_body_short (by omega), unfinished_body]
  rfl

/-- Behind the line that ends the header the body is all there, or nothing is delivered. -/
theorem deliver_end {line : Bytes} (isLine : IsLine line)
    (hblank : HeaderLine.ofBytes line = .blank) (n : Nat) (ending : Ending) (rest : Bytes) :
    deliver (.header [] (some n)) ending (line ++ rest) = [] ∨
      ∃ body behind, rest = body ++ behind ∧ body.length = n := by
  by_cases hbody : n ≤ rest.length
  · refine .inr ⟨rest.take n, rest.drop n, (List.take_append_drop n rest).symm, ?_⟩
    rw [List.length_take]
    omega
  · rw [deliver_append, feedAll_isLine isLine, hblank]
    exact .inl (deliver_body_short (by omega) ending)

end Reader

/-- The body behind a header is delivered, and then those of what follows. -/
theorem Scan.deliver {ending : Ending} {given : Option Nat} {header body behind : Bytes}
    (h : Scan ending given (body ++ behind) header body.length) :
    Reader.deliver (.header [] given) ending (header ++ (body ++ behind)) =
      body :: bodies behind ending := by
  generalize hfollows : body ++ behind = follows at h ⊢
  generalize hlength : body.length = n at h
  induction h with
  | @last follows line n isLine hblank =>
    subst hlength
    rcases isLine with isLine | ⟨rfl, rfl, hsome, hopen⟩
    · rw [Reader.deliver_append, Reader.feedAll_isLine isLine, hblank, ← hfollows]
      exact Reader.deliver_body body behind ending
    · obtain ⟨rfl, rfl⟩ := List.append_eq_nil_iff.1 hfollows
      rw [List.append_nil, Reader.deliver_open hopen, if_pos ⟨rfl, rfl, hsome, hblank⟩, bodies_nil]
  | next isLine hafter _ ih =>
    rw [List.append_assoc, Reader.deliver_line isLine hafter]
    exact ih hfollows hlength

/-- A stream from one of its lines on: something is delivered only if the rest of a header and the
body behind it stand in front. -/
theorem deliver_cases (ending : Ending) (given : Option Nat) (stream : Bytes) :
    Reader.deliver (.header [] given) ending stream = [] ∨
      ∃ header body behind, stream = header ++ (body ++ behind) ∧
        Scan ending given (body ++ behind) header body.length := by
  induction hlength : stream.length using Nat.strongRecOn generalizing given stream with
  | ind length ih =>
  subst hlength
  by_cases hfeed : Ascii.lineFeed ∈ stream
  · obtain ⟨front, rest, rfl, hfront⟩ := List.eq_append_cons_of_mem hfeed
    have isLine : IsLine (front ++ [Ascii.lineFeed]) := ⟨front, hfront, rfl⟩
    rw [List.append_cons] at ih ⊢
    generalize front ++ [Ascii.lineFeed] = line at isLine ih ⊢
    have hshorter : rest.length < (line ++ rest).length := by
      have hline : IsLineBefore ending rest line := .inl isLine
      have hpos := List.length_pos_iff.2 hline.ne_nil
      rw [List.length_append]
      omega
    cases hafter : (HeaderLine.ofBytes line).after given with
    | some given' =>
      rw [Reader.deliver_line isLine hafter]
      rcases ih rest.length hshorter given' rest rfl with hnone | ⟨header, body, behind, rfl, hscan⟩
      · exact .inl hnone
      · exact .inr ⟨line ++ header, body, behind, (List.append_assoc _ _ _).symm,
          .next isLine hafter hscan⟩
    | none =>
      -- the line ends the header, and the body is all there or not
      obtain ⟨hblank, n, rfl⟩ := HeaderLine.after_eq_none.1 hafter
      rcases Reader.deliver_end isLine hblank n ending rest with hnone | ⟨body, behind, rfl, rfl⟩
      · exact .inl hnone
      · exact .inr ⟨line, body, behind, rfl, .last (.inl isLine) hblank⟩
  · rw [Reader.deliver_open hfeed]
    split
    next h =>
      obtain ⟨rfl, rfl, hsome, hblank⟩ := h
      exact .inr ⟨stream, [], [], by simp, .last (.inr ⟨rfl, rfl, hsome, hfeed⟩) hblank⟩
    next => exact .inl rfl

/-- Nothing is delivered of a stream if no frame is complete in it, and not otherwise. -/
theorem exhausted_iff {ending : Ending} {rest : Bytes} :
    Exhausted ending rest ↔ bodies rest ending = [] := by
  constructor
  · intro h
    rcases deliver_cases ending none rest with hnone | ⟨header, body, behind, hstream, hscan⟩
    · exact hnone
    · have hshort := h header (body ++ behind) body.length hstream (isHeader_iff_scan.2 hscan)
      rw [List.length_append] at hshort
      omega
  · rintro hnone header behind n rfl hheader
    by_contra hlong
    have htake : (behind.take n).length = n := by rw [List.length_take]; omega
    have hscan : Scan ending none (behind.take n ++ behind.drop n) header (behind.take n).length := by
      rw [List.take_append_drop, htake]
      exact hheader.scan
    have hsome := hscan.deliver
    rw [List.take_append_drop] at hsome
    rw [Reader.bodies_eq_deliver, Reader.start, hsome] at hnone
    cases hnone

theorem Decomposes.bodies_eq {ending : Ending} {stream rest : Bytes} {frames : List (Bytes × Bytes)}
    (h : Decomposes ending stream frames rest) : bodies stream ending = frames.map Prod.snd := by
  induction h with
  | rest hexhausted => exact exhausted_iff.1 hexhausted
  | @frame header body behind rest frames hheader _ ih =>
    rw [Reader.bodies_eq_deliver, Reader.start, hheader.scan.deliver, ih, List.map_cons]

theorem exists_decomposes (ending : Ending) (stream : Bytes) :
    ∃ frames rest, Decomposes ending stream frames rest := by
  induction hlength : stream.length using Nat.strongRecOn generalizing stream with
  | ind length ih =>
  subst hlength
  rcases deliver_cases ending none stream with hnone | ⟨header, body, behind, rfl, hscan⟩
  · exact ⟨[], stream, .rest (exhausted_iff.2 hnone)⟩
  · have hshorter : behind.length < (header ++ (body ++ behind)).length := by
      have hheader := hscan.length_ge.1
      simp only [List.length_append]
      omega
    obtain ⟨frames, rest, hothers⟩ := ih behind.length hshorter behind rfl
    exact ⟨_, rest, .frame (isHeader_iff_scan.2 hscan) hothers⟩

theorem Decomposes.stream_eq {ending : Ending} {stream rest : Bytes}
    {frames : List (Bytes × Bytes)} (h : Decomposes ending stream frames rest) :
    stream = frames.flatMap (fun frame => frame.1 ++ frame.2) ++ rest := by
  induction h with
  | rest _ => rfl
  | frame _ _ ih =>
    rw [List.flatMap_cons, List.append_assoc, List.append_assoc, ← ih]

theorem Decomposes.length_ge {ending : Ending} {stream rest : Bytes}
    {frames : List (Bytes × Bytes)} (h : Decomposes ending stream frames rest) :
    18 * frames.length + (frames.map fun frame => frame.2.length).sum + rest.length ≤
      stream.length := by
  induction h with
  | rest _ => simp
  | frame hheader _ ih =>
    have hlong := hheader.scan.length_ge.2 rfl
    simp only [List.length_cons, List.map_cons, List.sum_cons, List.length_append] at ih ⊢
    omega

/-- The bodies of a stream are those that stand behind the headers in it, when it is taken apart
by the rules for lines, blocks and headers until nothing more is complete. There is one way to do
so: the stream is the headers with their bodies in a row, and the rest. Every header has 18 bytes
at least, so a stream is read to its end in as many bodies as it has room for. -/
theorem bodies_eq_iff_decomposes (stream : Bytes) (ending : Ending) :
    (∀ delivered, bodies stream ending = delivered ↔
      ∃ frames rest, Decomposes ending stream frames rest ∧ frames.map Prod.snd = delivered) ∧
    ∃ frames rest, Decomposes ending stream frames rest ∧
      (∀ frames' rest', Decomposes ending stream frames' rest' → frames' = frames ∧ rest' = rest) ∧
      stream = frames.flatMap (fun frame => frame.1 ++ frame.2) ++ rest ∧
      18 * frames.length + (frames.map fun frame => frame.2.length).sum + rest.length ≤
        stream.length := by
  obtain ⟨frames, rest, hdecomposes⟩ := exists_decomposes ending stream
  refine ⟨?_, frames, rest, hdecomposes, ?_, hdecomposes.stream_eq, hdecomposes.length_ge⟩
  · intro delivered
    constructor
    · rintro rfl
      exact ⟨frames, rest, hdecomposes, hdecomposes.bodies_eq.symm⟩
    · rintro ⟨frames', rest', hother, rfl⟩
      exact hother.bodies_eq
  · intro frames' rest' hother
    exact hother.unique hdecomposes

end DebugAdapter.Frame
