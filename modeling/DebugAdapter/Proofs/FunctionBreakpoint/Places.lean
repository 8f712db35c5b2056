import DebugAdapter.Proofs.FunctionBreakpoint.Parts

/-!
# Places in a function's name

A name can be taken apart by places that are counted in bytes, with a count of the parentheses that
are open. No count falls below zero, and no cut is outside of the name or inside a character.
-/

namespace DebugAdapter.FunctionBreakpoint

/-- What must not happen while a name is taken apart. -/
inductive Misstep where
  /-- A parenthesis is closed while none is open. -/
  | uncounted
  /-- A text is cut outside of it, inside a character, or at its second place before the first. -/
  | miscut
  deriving DecidableEq, Repr

/-- The number of bytes of a text. -/
def size (text : List Char) : Nat :=
  (String.ofList text).utf8ByteSize

/-- The place of the first character of a kind. -/
def place? (c : Char) : List Char → Option Nat
  | [] => none
  | d :: rest => if d = c then some 0 else (place? c rest).map (d.utf8Size + ·)

/-- The part of a text between two places. -/
def between (text : String) (start stop : Nat) : Except Misstep String :=
  if h : start ≤ stop ∧ String.Pos.Raw.IsValid text ⟨start⟩ ∧ String.Pos.Raw.IsValid text ⟨stop⟩ then
    .ok (String.extract (⟨⟨start⟩, h.2.1⟩ : text.Pos) ⟨⟨stop⟩, h.2.2⟩)
  else .error .miscut

/-- The search for the end of a group: how many bytes it has passed, and how many parentheses are
open. -/
structure Scan where
  passed : Nat := 0
  depth : Nat := 0
  deriving DecidableEq, Repr

namespace Scan

/-- The search behind one more character. -/
def pass (scan : Scan) (c : Char) : Except Misstep Scan :=
  if c = '(' then .ok { passed := scan.passed + c.utf8Size, depth := scan.depth + 1 }
  else if c = ')' then
    if scan.depth = 0 then .error .uncounted
    else .ok { passed := scan.passed + c.utf8Size, depth := scan.depth - 1 }
  else .ok { scan with passed := scan.passed + c.utf8Size }

/-- Whether the search is over behind a character. -/
def Over (scan : Scan) (c : Char) : Prop :=
  c = ')' ∧ scan.depth = 0

instance (scan : Scan) (c : Char) : Decidable (scan.Over c) :=
  inferInstanceAs (Decidable (_ ∧ _))

/-- The place behind the parenthesis that ends the search, if there is one. -/
def close? (scan : Scan) : List Char → Except Misstep (Option Nat)
  | [] => .ok none
  | c :: rest => do
    let next ← scan.pass c
    if next.Over c then pure (some (scan.passed + 1)) else next.close? rest

end Scan

/-- The place behind the group that begins at a place, or the end of the text. -/
def groupEnd (text : String) (start : Nat) : Except Misstep Nat := do
  let scanned ← between text start text.utf8ByteSize
  let closed ← Scan.close? {} scanned.toList
  pure (closed.elim text.utf8ByteSize (start + ·))

/-- The parts of a qualified name, by places. -/
def byPlaces (qualified : String) : Except Misstep FunctionBreakpoint := do
  let (module, rest) := splitModule qualified.toList
  let text := String.ofList rest
  match place? '(' rest with
  | none => pure { module := String.ofList module, name := text }
  | some start =>
    let stop ← groupEnd text start
    let name ← between text 0 start
    let params ← between text start stop
    pure { module := String.ofList module, name, params }

/-- Where the search in a text comes to, with what is left of the text there. -/
inductive Reaches (text : List Char) : Scan → (rest : List Char) → Prop where
  | start : Reaches text {} text
  | pass {scan next : Scan} {c : Char} {rest : List Char} (before : Reaches text scan (c :: rest))
      (passed : scan.pass c = .ok next) (goes_on : ¬ next.Over c) : Reaches text next rest

/-- Two places between which a text can be cut: they are in order, within the text, and between two
of its characters or at its ends. -/
structure Cuts (text : String) (start stop : Nat) : Prop where
  ordered : start ≤ stop
  bounded : stop ≤ text.utf8ByteSize
  start_valid : String.Pos.Raw.IsValid text ⟨start⟩
  stop_valid : String.Pos.Raw.IsValid text ⟨stop⟩

/-! ## Bytes of a text -/

theorem size_nil : size [] = 0 :=
  rfl

theorem size_append (front back : List Char) : size (front ++ back) = size front + size back := by
  rw [size, String.ofList_append, String.utf8ByteSize_append, size, size]

theorem size_singleton (c : Char) : size [c] = c.utf8Size := by
  rw [size, ← String.singleton_eq_ofList, String.utf8ByteSize_singleton]

theorem size_cons (c : Char) (text : List Char) : size (c :: text) = c.utf8Size + size text := by
  rw [← List.singleton_append, size_append, size_singleton]

theorem place?_append {c : Char} {front : List Char} (h : c ∉ front) (rest : List Char) :
    place? c (front ++ c :: rest) = some (size front) := by
  induction front with
  | nil => rw [List.nil_append, place?, if_pos rfl, size_nil]
  | cons d front ih =>
    rw [List.mem_cons, not_or] at h
    rw [List.cons_append, place?, if_neg (Ne.symm h.1), ih h.2, Option.map_some, size_cons]

theorem place?_of_not_mem {c : Char} {text : List Char} (h : c ∉ text) : place? c text = none := by
  induction text with
  | nil => rfl
  | cons d text ih =>
    rw [List.mem_cons, not_or] at h
    rw [place?, if_neg (Ne.symm h.1), ih h.2, Option.map_none]

/-- The places between the characters of a text are those behind its beginnings. -/
theorem isValid_size (front back : List Char) :
    String.Pos.Raw.IsValid (String.ofList (front ++ back)) ⟨size front⟩ :=
  String.Pos.Raw.isValid_iff_exists_append.2
    ⟨String.ofList front, String.ofList back, String.ofList_append, rfl⟩

theorem size_le_append (front back : List Char) : size front ≤ size (front ++ back) := by
  rw [size_append]
  exact Nat.le_add_right _ _

theorem cuts_append (front middle back : List Char) :
    Cuts (String.ofList (front ++ (middle ++ back))) (size front) (size (front ++ middle)) where
  ordered := size_le_append front middle
  bounded := by
    rw [← List.append_assoc]
    exact size_le_append (front ++ middle) back
  start_valid := isValid_size front (middle ++ back)
  stop_valid := by
    rw [← List.append_assoc]
    exact isValid_size (front ++ middle) back

/-- Between two beginnings of a text is what the longer one has more. -/
theorem between_append (front middle back : List Char) :
    between (String.ofList (front ++ (middle ++ back))) (size front) (size (front ++ middle)) =
      .ok (String.ofList middle) := by
  have hcuts := cuts_append front middle back
  have hsize (text : List Char) : size text = (String.ofList text).toByteArray.size :=
    String.size_toByteArray.symm
  have hcut := ByteArray.extract_append_size_add (i := 0) (j := size middle)
    (a := (String.ofList front).toByteArray)
    (b := (String.ofList middle).toByteArray ++ (String.ofList back).toByteArray)
  rw [Nat.add_zero, ByteArray.extract_append_eq_left (hsize middle), ← hsize front] at hcut
  rw [between, dif_pos ⟨hcuts.ordered, hcuts.start_valid, hcuts.stop_valid⟩,
    Except.ok.injEq, ← String.toByteArray_inj, String.toByteArray_extract]
  simpa only [String.ofList_append, String.toByteArray_append, size_append] using hcut

/-! ## The search -/

namespace Scan

variable {scan next : Scan} {c : Char} {seen rest : List Char}

/-- What a character does to the search. -/
theorem pass_cases (h : scan.pass c = .ok next) :
    next.passed = scan.passed + c.utf8Size ∧
      ((c = '(' ∧ next.depth = scan.depth + 1) ∨
        (c = ')' ∧ 0 < scan.depth ∧ next.depth = scan.depth - 1) ∨
        (c ≠ '(' ∧ c ≠ ')' ∧ next.depth = scan.depth)) := by
  rw [pass] at h
  split at h
  next hopen =>
    cases h
    exact ⟨rfl, .inl ⟨hopen, rfl⟩⟩
  next hopen =>
    split at h
    next hclose =>
      split at h
      next => cases h
      next hdepth =>
        cases h
        exact ⟨rfl, .inr (.inl ⟨hclose, Nat.pos_of_ne_zero hdepth, rfl⟩)⟩
    next hclose =>
      cases h
      exact ⟨rfl, .inr (.inr ⟨hopen, hclose, rfl⟩)⟩

theorem close?_cons (hpass : scan.pass c = .ok next) (hgoes : ¬ next.Over c) :
    scan.close? (c :: rest) = next.close? rest := by
  rw [close?, hpass]
  exact if_neg hgoes

/-- A search that has passed some characters: it knows how many bytes these have, it has not counted
more parentheses than bytes, and something is open unless it is at the beginning. -/
structure Follows (scan : Scan) (seen : List Char) : Prop where
  passed : scan.passed = size seen
  depth_le : scan.depth ≤ scan.passed
  isOpen : seen ≠ [] → 0 < scan.depth

theorem follows_nil : Follows {} [] :=
  ⟨rfl, Nat.le_refl _, fun h => absurd rfl h⟩

/-- The search goes on behind a character, which is an opening parenthesis if it is the first. -/
theorem Follows.pass (h : scan.Follows seen) (hfirst : seen = [] → c = '(')
    (hpass : scan.pass c = .ok next) (hgoes : ¬ next.Over c) : next.Follows (seen ++ [c]) := by
  obtain ⟨hpassed, hcases⟩ := pass_cases hpass
  have hbyte : 0 < c.utf8Size := c.utf8Size_pos
  have hle := h.depth_le
  refine ⟨?_, ?_, fun _ => ?_⟩
  · rw [hpassed, h.passed, size_append, size_singleton]
  · omega
  · rcases hcases with ⟨-, hdepth⟩ | ⟨hclose, -, -⟩ | ⟨hopen, -, hdepth⟩
    · omega
    · exact Nat.pos_of_ne_zero fun hzero => hgoes ⟨hclose, hzero⟩
    · have hseen : seen ≠ [] := fun hnil => hopen (hfirst hnil)
      have hpos := h.isOpen hseen
      omega

/-- The search with something open finds the place behind the group, if the group ends before the
text does. -/
def Finds (scan : Scan) (text : List Char) : Prop :=
  (scan.close? text = .ok none ∧ group scan.depth text = text) ∨
    scan.close? text = .ok (some (scan.passed + size (group scan.depth text)))

theorem Finds.cons (h : next.Finds rest) (hpass : scan.pass c = .ok next) (hgoes : ¬ next.Over c)
    (hgroup : group scan.depth (c :: rest) = c :: group next.depth rest) :
    scan.Finds (c :: rest) := by
  rw [Finds, close?_cons hpass hgoes, hgroup]
  rcases h with ⟨hnone, hall⟩ | hsome
  · exact .inl ⟨hnone, by rw [hall]⟩
  · right
    rw [hsome, size_cons, (pass_cases hpass).1, Nat.add_assoc]

theorem finds (hopen : 0 < scan.depth) (text : List Char) : scan.Finds text := by
  induction text generalizing scan with
  | nil => exact .inl ⟨rfl, rfl⟩
  | cons c rest ih =>
    -- one case for each kind of character, as in the definition of a group
    by_cases hc : c = '('
    · have hpass : scan.pass c = .ok ⟨scan.passed + c.utf8Size, scan.depth + 1⟩ := if_pos hc
      apply (ih (Nat.succ_pos scan.depth)).cons hpass
      · rintro ⟨-, hzero⟩
        cases hzero
      · rw [group, if_pos hc]
    by_cases hc' : c = ')'
    · have hpass : scan.pass c = .ok ⟨scan.passed + c.utf8Size, scan.depth - 1⟩ := by
        rw [pass, if_neg hc, if_pos hc', if_neg (Nat.ne_of_gt hopen)]
      by_cases hlast : scan.depth ≤ 1
      · -- the last parenthesis that is open has one byte, like all parentheses
        right
        have hover : Over ⟨scan.passed + c.utf8Size, scan.depth - 1⟩ c :=
          ⟨hc', Nat.sub_eq_zero_of_le hlast⟩
        rw [close?, hpass, group, if_neg hc, if_pos hc', if_pos hlast, size_singleton, hc']
        exact if_pos (hc' ▸ hover)
      · have hpos : 0 < scan.depth - 1 := by omega
        apply (ih hpos).cons hpass
        · rintro ⟨-, hzero⟩
          exact absurd hzero (Nat.ne_of_gt hpos)
        · rw [group, if_neg hc, if_pos hc', if_neg hlast]
    · have hpass : scan.pass c = .ok { scan with passed := scan.passed + c.utf8Size } := by
        rw [pass, if_neg hc, if_neg hc']
      have hnext : Finds { scan with passed := scan.passed + c.utf8Size } rest := ih hopen
      apply hnext.cons hpass
      · rintro ⟨hclose, -⟩
        exact hc' hclose
      · rw [group, if_neg hc, if_neg hc']

end Scan

/-- Wherever the search in a group comes to, it follows what it has seen of it. -/
theorem Reaches.follows {text rest : List Char} {scan : Scan}
    (h : Reaches ('(' :: text) scan rest) :
    ∃ seen, '(' :: text = seen ++ rest ∧ scan.Follows seen := by
  induction h with
  | start => exact ⟨[], rfl, Scan.follows_nil⟩
  | @pass scan next c rest _ passed goes_on ih =>
    obtain ⟨seen, hseen, hfollows⟩ := ih
    have hfirst : seen = [] → c = '(' := by
      rintro rfl
      exact (List.cons.inj hseen).1.symm
    refine ⟨seen ++ [c], ?_, hfollows.pass hfirst passed goes_on⟩
    rw [hseen, List.append_assoc, List.singleton_append]

/-- Where the search comes to, it has as much left to find as it had at the beginning. -/
theorem Reaches.close?_eq {text rest : List Char} {scan : Scan} (h : Reaches text scan rest) :
    scan.close? rest = Scan.close? {} text := by
  induction h with
  | start => rfl
  | pass _ passed goes_on ih =>
    rw [← ih, Scan.close?_cons passed goes_on]

/-- Where the search comes upon a closing parenthesis, one is open: the search has passed the one at
the beginning. -/
theorem Reaches.depth_pos {text behind : List Char} {scan : Scan}
    (h : Reaches ('(' :: text) scan (')' :: behind)) : 0 < scan.depth := by
  obtain ⟨seen, hseen, hfollows⟩ := h.follows
  apply hfollows.isOpen
  rintro rfl
  exact absurd (List.cons.inj hseen).1 (by decide)

/-! ## A name taken apart -/

theorem between_group (front rest : List Char) :
    between (String.ofList (front ++ '(' :: rest)) (size front)
      (String.ofList (front ++ '(' :: rest)).utf8ByteSize = .ok (String.ofList ('(' :: rest)) := by
  have hbetween := between_append front ('(' :: rest) []
  rwa [List.append_nil] at hbetween

/-- The search ends where the group does, whether it is closed or runs to the end of the text. -/
theorem groupEnd_append (front rest : List Char) :
    groupEnd (String.ofList (front ++ '(' :: rest)) (size front) =
      .ok (size (front ++ group 0 ('(' :: rest))) := by
  have hscan : Scan.close? {} (String.ofList ('(' :: rest)).toList = Scan.close? ⟨1, 1⟩ rest := by
    rw [String.toList_ofList]
    rfl
  have hgroup : group 0 ('(' :: rest) = '(' :: group 1 rest := by rw [group, if_pos rfl]
  have hone : Scan.Finds ⟨1, 1⟩ rest := Scan.finds Nat.one_pos rest
  simp only [groupEnd, between_group, hgroup, bind, Except.bind, hscan]
  rcases hone with ⟨hnone, hall⟩ | hsome
  · rw [hnone, hall]
    rfl
  · rw [hsome, size_append, size_cons]
    rfl

theorem byPlaces_eq (qualified : String) : byPlaces qualified = .ok (ofName qualified) := by
  have hname : ofName qualified =
      { module := String.ofList (splitModule qualified.toList).1
        name := String.ofList ((splitModule qualified.toList).2.takeWhile (· ≠ '('))
        params := String.ofList
          (group 0 ((splitModule qualified.toList).2.dropWhile (· ≠ '('))) } := rfl
  rw [byPlaces, hname]
  generalize splitModule qualified.toList = parts
  obtain ⟨module, text⟩ := parts
  by_cases hopen : '(' ∈ text
  · obtain ⟨front, rest, rfl, hfront⟩ := List.eq_append_cons_of_mem hopen
    obtain ⟨back, hback⟩ := (isFirst_group_open rest).isPrefix
    have hparams := between_append front (group 0 ('(' :: rest)) back
    have hfront' := between_append [] front ('(' :: rest)
    rw [hback] at hparams
    rw [List.nil_append, List.nil_append, size_nil] at hfront'
    rw [takeWhile_ne_append hfront, dropWhile_ne_append hfront]
    simp only [place?_append hfront, groupEnd_append, bind, Except.bind, hfront', hparams]
    rfl
  · rw [takeWhile_ne_of_not_mem hopen, dropWhile_ne_of_not_mem hopen]
    simp only [place?_of_not_mem hopen]
    rfl

/-- A name is taken apart by places into its parts, and nothing goes wrong. The parameters begin and
end between two characters, or at the end of the text, and do not end before they begin. Wherever
the search for their end comes to on its way, it is between two characters as well and has not
counted more parentheses than bytes; and if a closing parenthesis follows, one is open. -/
theorem places_are_safe (qualified : String) :
    byPlaces qualified = .ok (ofName qualified) ∧
    ∀ start, place? '(' (splitModule qualified.toList).2 = some start →
      let text := String.ofList (splitModule qualified.toList).2
      ∃ scanned stop, between text start text.utf8ByteSize = .ok scanned ∧
        groupEnd text start = .ok stop ∧ Cuts text start stop ∧
        ∀ scan rest, Reaches scanned.toList scan rest →
          scan.close? rest = Scan.close? {} scanned.toList ∧
            Cuts text start (start + scan.passed) ∧ scan.depth ≤ scan.passed ∧
            (rest.head? = some ')' → 1 ≤ scan.depth) := by
  refine ⟨byPlaces_eq qualified, ?_⟩
  generalize (splitModule qualified.toList).2 = text
  intro start hstart
  by_cases hopen : '(' ∈ text
  · obtain ⟨front, others, rfl, hfront⟩ := List.eq_append_cons_of_mem hopen
    rw [place?_append hfront] at hstart
    obtain rfl : size front = start := Option.some.inj hstart
    refine ⟨_, _, between_group front others, groupEnd_append front others, ?_, ?_⟩
    · obtain ⟨back, hback⟩ := (isFirst_group_open others).isPrefix
      have hcuts := cuts_append front (group 0 ('(' :: others)) back
      rwa [hback] at hcuts
    · intro scan rest hreaches
      refine ⟨hreaches.close?_eq, ?_⟩
      rw [String.toList_ofList] at hreaches
      obtain ⟨seen, hseen, hfollows⟩ := hreaches.follows
      refine ⟨?_, hfollows.depth_le, fun hclose => ?_⟩
      · rw [hseen, hfollows.passed, ← size_append]
        exact cuts_append front seen rest
      · obtain ⟨behind, rfl⟩ := List.head?_eq_some_iff.1 hclose
        exact hreaches.depth_pos
  · rw [place?_of_not_mem hopen] at hstart
    cases hstart

/-- A group with characters of one to four bytes, which is closed in the middle of the name, and the
search before the first parenthesis that closes something in it. -/
theorem places_are_safe_long_characters :
    place? '(' (splitModule "é!ß(€(😀)é)ß)".toList).2 = some 2 ∧
      groupEnd "ß(€(😀)é)ß)" 2 = .ok 15 ∧ Cuts "ß(€(😀)é)ß)" 2 15 ∧
      Reaches "(€(😀)é)ß)".toList ⟨9, 2⟩ ")é)ß)".toList ∧ Cuts "ß(€(😀)é)ß)" 2 11 ∧
      1 ≤ Scan.depth ⟨9, 2⟩ ∧
      byPlaces "é!ß(€(😀)é)ß)" = .ok { module := "é", name := "ß", params := "(€(😀)é)" } := by
  have hstart : place? '(' (splitModule "é!ß(€(😀)é)ß)".toList).2 = some 2 := by decide
  have hstop : groupEnd "ß(€(😀)é)ß)" 2 = .ok 15 := by decide
  have hgroup : between "ß(€(😀)é)ß)" 2 "ß(€(😀)é)ß)".utf8ByteSize = .ok "(€(😀)é)ß)" := by decide
  have hname : ofName "é!ß(€(😀)é)ß)" = { module := "é", name := "ß", params := "(€(😀)é)" } := by
    decide
  have hreaches : Reaches "(€(😀)é)ß)".toList ⟨9, 2⟩ ")é)ß)".toList := by
    have hfirst : Reaches "(€(😀)é)ß)".toList ⟨1, 1⟩ "€(😀)é)ß)".toList :=
      .pass .start (c := '(') rfl (by decide)
    have hsecond : Reaches "(€(😀)é)ß)".toList ⟨4, 1⟩ "(😀)é)ß)".toList :=
      hfirst.pass (c := '€') rfl (by decide)
    have hthird : Reaches "(€(😀)é)ß)".toList ⟨5, 2⟩ "😀)é)ß)".toList :=
      hsecond.pass (c := '(') rfl (by decide)
    exact hthird.pass (c := '😀') rfl (by decide)
  obtain ⟨hparts, hsafe⟩ := places_are_safe "é!ß(€(😀)é)ß)"
  obtain ⟨scanned, stop, hscanned, hend, hcuts, hway⟩ := hsafe 2 hstart
  obtain rfl : 15 = stop := Except.ok.inj (hstop.symm.trans hend)
  obtain rfl : "(€(😀)é)ß)" = scanned := Except.ok.inj (hgroup.symm.trans hscanned)
  obtain ⟨-, hplace, -, hdepth⟩ := hway _ _ hreaches
  exact ⟨hstart, hstop, hcuts, hreaches, hplace, hdepth (by decide),
    hparts.trans (congrArg Except.ok hname)⟩

end DebugAdapter.FunctionBreakpoint
