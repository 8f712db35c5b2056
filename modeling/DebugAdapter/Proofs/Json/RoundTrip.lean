import DebugAdapter.Json.Parser
import DebugAdapter.Proofs.Json.Number
import DebugAdapter.Proofs.Json.StringLiteral

/-!
# Reading back JSON text

The text of a value is read as the value, if the numbers in it are integers of 64 bits, the fields
of its objects stand in the order of their names, and it is nested no deeper than a reader follows.
-/

namespace DebugAdapter.Json

open Ascii

/-! ## Fields in order -/

theorem insertField_of_lt {fields : List (String × Json)} {name : String}
    (h : ∀ field ∈ fields, field.1 < name) (value : Json) :
    insertField name value fields = fields ++ [(name, value)] := by
  induction fields with
  | nil => rfl
  | cons field fields ih =>
    obtain ⟨other, old⟩ := field
    have hother : other < name := h (other, old) (by simp)
    have hne : name ≠ other := by
      rintro rfl
      exact String.lt_irrefl name hother
    rw [insertField, if_neg (String.lt_asymm hother), if_neg hne,
      ih fun field hfield => h field (by simp [hfield]), List.cons_append]

/-- The order of fields. -/
def Sorted (fields : List (String × Json)) : Prop :=
  fields.Pairwise fun field other => field.1 < other.1

theorem foldl_insertField_of_sorted {front fields : List (String × Json)}
    (h : Sorted (front ++ fields)) :
    fields.foldl (fun sorted (name, value) => insertField name value sorted) front =
      front ++ fields := by
  -- what is in place already stays in front, and the next field goes behind all of it
  induction fields generalizing front with
  | nil => rw [List.foldl_nil, List.append_nil]
  | cons field fields ih =>
    have hfront : ∀ earlier ∈ front, earlier.1 < field.1 := by
      intro earlier hearlier
      exact (List.pairwise_append.1 h).2.2 earlier hearlier field (by simp)
    have hstep : insertField field.1 field.2 front = front ++ [field] :=
      insertField_of_lt hfront field.2
    rw [List.append_cons] at h ⊢
    rw [List.foldl_cons, ← ih h, ← hstep]

theorem sortFields_of_sorted {fields : List (String × Json)} (h : Sorted fields) :
    sortFields fields = fields :=
  foldl_insertField_of_sorted h

/-! ## Values of which nothing is lost -/

/-- Values, with at most so many arrays and objects inside one another, whose numbers are integers
of 64 bits and whose fields are in order. -/
inductive Exact : Nat → Json → Prop where
  | null (depth : Nat) : Exact depth .null
  | bool (depth : Nat) (b : Bool) : Exact depth (.bool b)
  | int (depth : Nat) {i : Int} (low : -0x8000000000000000 ≤ i) (high : i < 0x10000000000000000) :
      Exact depth (.int i)
  | string (depth : Nat) (s : String) : Exact depth (.string s)
  | array {depth : Nat} {items : List Json} (nested : ∀ item ∈ items, Exact depth item) :
      Exact (depth + 1) (.array items)
  | object {depth : Nat} {fields : List (String × Json)} (sorted : Sorted fields)
      (nested : ∀ field ∈ fields, Exact depth field.2) : Exact (depth + 1) (.object fields)

namespace Reader

/-! ## Single steps -/

theorem skipSpace_cons {b : UInt8} (h : isSpace b = false) (rest : Bytes) :
    skipSpace (b :: rest) = b :: rest := by
  rw [skipSpace, List.dropWhile_cons_of_neg (by simp [h])]

theorem word_append (letters rest : Bytes) : word letters (letters ++ rest) = .ok rest := by
  induction letters with
  | nil => cases rest <;> rfl
  | cons c letters ih => rw [List.cons_append, word, if_pos rfl, ih]

theorem ne_of_isDigit {b d : UInt8} (h : isDigit b) (hd : isDigit d = false) : b ≠ d := by
  rintro rfl
  rw [h] at hd
  cases hd

theorem isSpace_of_isDigit {b : UInt8} (h : isDigit b) : isSpace b = false := by
  have hspace : b ≠ space := ne_of_isDigit h rfl
  have htab : b ≠ tab := ne_of_isDigit h rfl
  have hreturn : b ≠ carriageReturn := ne_of_isDigit h rfl
  have hfeed : b ≠ lineFeed := ne_of_isDigit h rfl
  simp [isSpace, hspace, htab, hreturn, hfeed]

section Value

variable (depth : Nat) (rest : Bytes)

theorem value_null : value depth (letterN :: (nullTail ++ rest)) = .ok (.null, rest) := by
  have hword : word nullTail (nullTail ++ rest) = .ok rest := word_append _ _
  rw [value.eq_def, skipSpace_cons (by decide)]
  exact congrArg ((Json.null, ·) <$> ·) hword

theorem value_true : value depth (letterT :: (trueTail ++ rest)) = .ok (.bool true, rest) := by
  have hword : word trueTail (trueTail ++ rest) = .ok rest := word_append _ _
  rw [value.eq_def, skipSpace_cons (by decide)]
  exact congrArg ((Json.bool true, ·) <$> ·) hword

theorem value_false : value depth (letterF :: (falseTail ++ rest)) = .ok (.bool false, rest) := by
  have hword : word falseTail (falseTail ++ rest) = .ok rest := word_append _ _
  rw [value.eq_def, skipSpace_cons (by decide)]
  exact congrArg ((Json.bool false, ·) <$> ·) hword

theorem value_minus : value depth (minus :: rest) = number true rest := by
  rw [value.eq_def, skipSpace_cons (by decide)]
  rfl

theorem value_digit {b : UInt8} (h : isDigit b) :
    value depth (b :: rest) = number false (b :: rest) := by
  have hnull : b ≠ letterN := ne_of_isDigit h rfl
  have htrue : b ≠ letterT := ne_of_isDigit h rfl
  have hfalse : b ≠ letterF := ne_of_isDigit h rfl
  have hminus : b ≠ minus := ne_of_isDigit h rfl
  rw [value.eq_def, skipSpace_cons (isSpace_of_isDigit h)]
  simp only [if_neg hnull, if_neg htrue, if_neg hfalse, if_neg hminus, if_pos h]

theorem value_quote :
    value depth (quotationMark :: rest) =
      (fun (s, rest) => (Json.string s, rest)) <$> stringLiteral rest := by
  rw [value.eq_def, skipSpace_cons (by decide)]
  rfl

theorem value_openBracket :
    value (depth + 1) (openBracket :: rest) =
      (fun (items, rest) => (Json.array items, rest)) <$> array (value depth) rest := by
  rw [value.eq_def, skipSpace_cons (by decide)]
  rfl

theorem value_openBrace :
    value (depth + 1) (openBrace :: rest) =
      (fun (fields, rest) => (Json.object fields, rest)) <$> object (value depth) rest := by
  rw [value.eq_def, skipSpace_cons (by decide)]
  rfl

end Value

/-! ## Integers -/

theorem exists_toDigits_eq (n : Nat) :
    ∃ b others, Utf8.encodeChars (Nat.toDigits 10 n) = b :: others ∧ isDigit b := by
  cases hdigits : Nat.toDigits 10 n with
  | nil => exact absurd hdigits Nat.toDigits_ne_nil
  | cons c digits =>
    have hc : c.isDigit := WholeNumber.isDigit_of_mem_toDigits (n := n) (by simp [hdigits])
    exact ⟨_, _, encodeChars_digits_cons hc, (isDigit_ofNat hc).1⟩

theorem encodeChars_minus (digits : List Char) :
    Utf8.encodeChars ('-' :: digits) = minus :: Utf8.encodeChars digits :=
  rfl

theorem value_renderInt (depth : Nat) {i : Int} (hlow : -0x8000000000000000 ≤ i)
    (hhigh : i < 0x10000000000000000) {rest : Bytes} (hrest : Delimited rest) :
    value depth (Utf8.encodeChars (renderInt i) ++ rest) = .ok (.int i, rest) := by
  cases i with
  | ofNat n =>
    have hn : n < 0x10000000000000000 := Int.ofNat_lt.1 hhigh
    have hnumber := number_toDigits hn false hrest
    obtain ⟨b, others, hdigits, hb⟩ := exists_toDigits_eq n
    rw [renderInt]
    rw [hdigits, List.cons_append] at hnumber ⊢
    rw [value_digit depth _ hb, hnumber]
    rfl
  | negSucc n =>
    have hn : n + 1 ≤ 0x8000000000000000 := by omega
    have hnumber := number_toDigits (n := n + 1) (by omega) true hrest
    rw [renderInt, encodeChars_minus, List.cons_append, value_minus, hnumber, integer,
      if_neg (by decide), if_neg (by omega)]
    rfl

/-! ## Arrays -/

/-- A value whose text is not taken for white space or the end of an array, and is read as the
value in front of what may stand behind it. -/
structure ReadsBack (read : Bytes → Except Fault (Json × Bytes)) (v : Json) : Prop where
  begins : ∃ b others, Utf8.encodeChars v.chars = b :: others ∧ isSpace b = false ∧
    b ≠ closeBracket
  reads : ∀ rest, Delimited rest → read (Utf8.encodeChars v.chars ++ rest) = .ok (v, rest)

section Containers

variable {read : Bytes → Except Fault (Json × Bytes)} {text rest : Bytes} {v : Json}

theorem items_of_close (h : read text = .ok (v, closeBracket :: rest)) (room : Nat)
    (acc : List Json) : items read (room + 1) acc text = .ok ((v :: acc).reverse, rest) := by
  rw [items, h]
  rfl

theorem items_of_comma {b : UInt8} (h : read text = .ok (v, comma :: b :: rest))
    (hspace : isSpace b = false) (hclose : b ≠ closeBracket) (room : Nat) (acc : List Json) :
    items read (room + 1) acc text = items read room (v :: acc) (b :: rest) := by
  have hcomma : skipSpace (comma :: b :: rest) = comma :: b :: rest := skipSpace_cons rfl _
  rw [items, h]
  simp only [bind, Except.bind, hcomma, skipSpace_cons hspace, if_neg hclose]
  rfl

theorem encodeChars_comma (chars : List Char) :
    Utf8.encodeChars (',' :: chars) = comma :: Utf8.encodeChars chars :=
  rfl

theorem exists_itemChars_eq (v : Json) (others : List Json) :
    ∃ more, itemChars (v :: others) = v.chars ++ more := by
  cases others with
  | nil => exact ⟨[], by rw [itemChars, List.append_nil]⟩
  | cons next others => exact ⟨',' :: itemChars (next :: others), by rw [itemChars]⟩

/-- Items with commas between them are read up to the bracket that closes the array. -/
theorem items_itemChars {others : List Json} (h : ∀ item ∈ v :: others, ReadsBack read item)
    {room : Nat} (hroom : others.length < room) (acc : List Json) (rest : Bytes) :
    items read room acc (Utf8.encodeChars (itemChars (v :: others)) ++ closeBracket :: rest) =
      .ok (acc.reverse ++ v :: others, rest) := by
  induction others generalizing v room acc with
  | nil =>
    obtain ⟨room, rfl⟩ := Nat.exists_eq_succ_of_ne_zero (by omega : room ≠ 0)
    have hv := (h v (by simp)).reads (closeBracket :: rest) (.cons (by simp) rest)
    rw [itemChars, items_of_close hv, List.reverse_cons]
  | cons next others ih =>
    obtain ⟨room, rfl⟩ := Nat.exists_eq_succ_of_ne_zero (by omega : room ≠ 0)
    -- the comma in front of `later` ends the first item, so nothing is assumed of the others yet
    let later := Utf8.encodeChars (itemChars (next :: others)) ++ closeBracket :: rest
    obtain ⟨b, tail, hbegin, hspace, hclose⟩ := (h next (by simp)).begins
    obtain ⟨more, hmore⟩ := exists_itemChars_eq next others
    have hlater : later = b :: (tail ++ Utf8.encodeChars more ++ closeBracket :: rest) := by
      simp only [later, hmore, Utf8.encodeChars_append, hbegin, List.cons_append]
    have hv := (h v (by simp)).reads (comma :: later) (.cons (by simp) _)
    calc items read (room + 1) acc
          (Utf8.encodeChars (itemChars (v :: next :: others)) ++ closeBracket :: rest)
        = items read (room + 1) acc (Utf8.encodeChars v.chars ++ comma :: later) := by
          rw [itemChars, Utf8.encodeChars_append, encodeChars_comma, List.append_assoc,
            List.cons_append]
      _ = items read room (v :: acc) later := by
          rw [hlater] at hv ⊢
          exact items_of_comma hv hspace hclose room acc
      _ = .ok ((v :: acc).reverse ++ next :: others, rest) :=
          ih (fun item hitem => h item (.tail v hitem)) (by simpa using hroom) (v :: acc)
      _ = .ok (acc.reverse ++ v :: next :: others, rest) := by simp

theorem length_le_itemChars (values : List Json) :
    values.length ≤ (Utf8.encodeChars (itemChars values)).length + 1 := by
  induction values with
  | nil => simp
  | cons v values ih =>
    cases values with
    | nil => simp
    | cons next values =>
      rw [itemChars, Utf8.encodeChars_append, encodeChars_comma]
      simp only [List.length_cons, List.length_append] at ih ⊢
      omega

theorem array_itemChars {values : List Json} (h : ∀ item ∈ values, ReadsBack read item)
    (rest : Bytes) :
    array read (Utf8.encodeChars (itemChars values) ++ closeBracket :: rest) =
      .ok (values, rest) := by
  cases values with
  | nil => rfl
  | cons v others =>
    have hroom := length_le_itemChars (v :: others)
    have hitems : ∀ room, others.length < room →
        items read room [] (Utf8.encodeChars (itemChars (v :: others)) ++ closeBracket :: rest) =
          .ok (v :: others, rest) := fun room hroom => items_itemChars h hroom [] rest
    obtain ⟨b, tail, hbegin, hspace, hclose⟩ := (h v (by simp)).begins
    obtain ⟨more, hmore⟩ := exists_itemChars_eq v others
    rw [hmore, Utf8.encodeChars_append, hbegin] at hroom hitems ⊢
    simp only [List.cons_append, List.append_assoc] at hroom hitems ⊢
    rw [array, skipSpace_cons hspace]
    simp only [if_neg hclose]
    exact hitems _ (by simp at hroom ⊢; omega)

/-! ## Objects -/

variable {name : String} {after : Bytes}

theorem fieldValue_colon (read : Bytes → Except Fault (Json × Bytes)) (after : Bytes) :
    fieldValue read (colon :: after) = read after := by
  rw [fieldValue, skipSpace_cons (by decide)]
  rfl

theorem fields_of_close (hname : stringLiteral text = .ok (name, colon :: after))
    (h : read after = .ok (v, closeBrace :: rest)) (room : Nat) (acc : List (String × Json)) :
    fields read (room + 1) acc text = .ok (insertField name v acc, rest) := by
  rw [fields, hname]
  simp only [bind, Except.bind, fieldValue_colon, h]
  rfl

theorem fields_of_comma (hname : stringLiteral text = .ok (name, colon :: after))
    (h : read after = .ok (v, comma :: quotationMark :: rest)) (room : Nat)
    (acc : List (String × Json)) :
    fields read (room + 1) acc text = fields read room (insertField name v acc) rest := by
  rw [fields, hname]
  simp only [bind, Except.bind, fieldValue_colon, h]
  rfl

/-- The bytes of a field with what comes behind it. -/
theorem encodeChars_field (name : String) (v : Json) (more : List Char) :
    Utf8.encodeChars (quote name ++ ':' :: (v.chars ++ more)) =
      quotationMark :: (Utf8.encodeChars (name.toList.flatMap escape) ++
        quotationMark :: colon :: (Utf8.encodeChars v.chars ++ Utf8.encodeChars more)) := by
  have hopen : ∀ chars, Utf8.encodeChars ('"' :: chars) = quotationMark :: Utf8.encodeChars chars :=
    fun _ => rfl
  have hclose : ∀ chars, Utf8.encodeChars (['"'] ++ ':' :: chars) =
      quotationMark :: colon :: Utf8.encodeChars chars := fun _ => rfl
  rw [quote, List.cons_append, hopen, List.append_assoc, Utf8.encodeChars_append, hclose,
    Utf8.encodeChars_append]

/-- Fields with commas between them are read up to the brace that closes the object, and are put
into their places one by one. The text begins behind the quote that opens the first name. -/
theorem fields_fieldChars {others : List (String × Json)}
    (h : ∀ field ∈ (name, v) :: others, ReadsBack read field.2) {room : Nat}
    (hroom : others.length < room) (acc : List (String × Json))
    (htext : Utf8.encodeChars (fieldChars ((name, v) :: others)) ++ closeBrace :: rest =
      quotationMark :: text) :
    fields read room acc text =
      .ok (((name, v) :: others).foldl (fun sorted (name, value) => insertField name value sorted)
        acc, rest) := by
  induction others generalizing name v room acc text with
  | nil =>
    obtain ⟨room, rfl⟩ := Nat.exists_eq_succ_of_ne_zero (by omega : room ≠ 0)
    have hfield := encodeChars_field name v []
    rw [List.append_nil] at hfield
    rw [fieldChars, hfield, List.cons_append] at htext
    obtain ⟨-, rfl⟩ := List.cons.inj htext
    have hv := (h (name, v) (by simp)).reads (closeBrace :: rest) (.cons (by simp) rest)
    simp only [List.append_assoc, List.cons_append]
    exact fields_of_close (stringLiteral_escaped name _) hv room acc
  | cons next others ih =>
    obtain ⟨room, rfl⟩ := Nat.exists_eq_succ_of_ne_zero (by omega : room ≠ 0)
    obtain ⟨other, w⟩ := next
    obtain ⟨later, hlater⟩ : ∃ later, Utf8.encodeChars (fieldChars ((other, w) :: others)) ++
        closeBrace :: rest = quotationMark :: later := by
      cases others <;> exact ⟨_, rfl⟩
    rw [fieldChars, encodeChars_field, encodeChars_comma, List.cons_append] at htext
    obtain ⟨-, rfl⟩ := List.cons.inj htext
    simp only [List.append_assoc, List.cons_append, hlater]
    have hv := (h (name, v) (by simp)).reads (comma :: quotationMark :: later) (.cons (by simp) _)
    rw [fields_of_comma (stringLiteral_escaped name _) hv]
    exact ih (fun field hfield => h field (.tail _ hfield)) (by simpa using hroom) _ hlater

theorem length_le_fieldChars (members : List (String × Json)) :
    members.length ≤ (Utf8.encodeChars (fieldChars members)).length := by
  induction members with
  | nil => simp
  | cons member members ih =>
    obtain ⟨name, v⟩ := member
    cases members with
    | nil =>
      have hfield := encodeChars_field name v []
      rw [List.append_nil] at hfield
      simp [fieldChars, hfield]
    | cons next members =>
      rw [fieldChars, encodeChars_field, encodeChars_comma]
      simp only [List.length_cons, List.length_append] at ih ⊢
      omega

/-- An object is read with its fields in order. -/
theorem object_fieldChars {members : List (String × Json)}
    (h : ∀ field ∈ members, ReadsBack read field.2) (rest : Bytes) :
    object read (Utf8.encodeChars (fieldChars members) ++ closeBrace :: rest) =
      .ok (sortFields members, rest) := by
  cases members with
  | nil => rfl
  | cons member others =>
    obtain ⟨name, v⟩ := member
    have hroom := length_le_fieldChars ((name, v) :: others)
    obtain ⟨text, htext⟩ : ∃ text, Utf8.encodeChars (fieldChars ((name, v) :: others)) ++
        closeBrace :: rest = quotationMark :: text := by
      cases others <;> exact ⟨_, rfl⟩
    have hlength := congrArg List.length htext
    simp only [List.length_append, List.length_cons] at hlength hroom
    rw [htext, object, skipSpace_cons (by decide)]
    exact fields_fieldChars h (by omega) [] htext

end Containers

/-! ## Values -/

theorem begins_renderInt (i : Int) :
    ∃ b others, Utf8.encodeChars (renderInt i) = b :: others ∧ isSpace b = false ∧
      b ≠ closeBracket := by
  cases i with
  | ofNat n =>
    obtain ⟨b, others, hdigits, hb⟩ := exists_toDigits_eq n
    exact ⟨b, others, hdigits, isSpace_of_isDigit hb, ne_of_isDigit hb rfl⟩
  | negSucc n => exact ⟨minus, _, encodeChars_minus _, by decide, by decide⟩

/-- The bytes of a text in quotes, brackets or braces, with what comes behind it. -/
theorem encodeChars_enclosed (front back : Char) (inner : List Char) (rest : Bytes) :
    Utf8.encodeChars (front :: (inner ++ [back])) ++ rest =
      String.utf8EncodeChar front ++
        (Utf8.encodeChars inner ++ (String.utf8EncodeChar back ++ rest)) := by
  rw [Utf8.encodeChars_cons, Utf8.encodeChars_append, Utf8.encodeChars_cons, List.append_assoc,
    List.append_assoc, List.append_assoc]
  rfl

theorem value_object {depth : Nat} {members : List (String × Json)}
    (h : ∀ field ∈ members, ReadsBack (value depth) field.2) (rest : Bytes) :
    value (depth + 1) (Utf8.encodeChars (Json.object members).chars ++ rest) =
      .ok (.ofFields members, rest) := by
  have htext : Utf8.encodeChars (Json.object members).chars ++ rest =
      openBrace :: (Utf8.encodeChars (fieldChars members) ++ closeBrace :: rest) := by
    rw [chars, encodeChars_enclosed]
    rfl
  rw [htext, value_openBrace, object_fieldChars h]
  rfl

/-- A value of which nothing is lost is read back. -/
theorem readsBack_of_exact {depth : Nat} {v : Json} (h : Exact depth v) :
    ReadsBack (value depth) v := by
  -- what is nested is read back one level further down, which is what a container asks for
  induction h with
  | null depth => exact ⟨⟨_, _, rfl, by decide, by decide⟩, fun rest _ => value_null depth rest⟩
  | bool depth b =>
    cases b with
    | true => exact ⟨⟨_, _, rfl, by decide, by decide⟩, fun rest _ => value_true depth rest⟩
    | false => exact ⟨⟨_, _, rfl, by decide, by decide⟩, fun rest _ => value_false depth rest⟩
  | int depth low high =>
    exact ⟨begins_renderInt _, fun rest hrest => value_renderInt depth low high hrest⟩
  | string depth s =>
    refine ⟨⟨quotationMark, _, rfl, by decide, by decide⟩, fun rest _ => ?_⟩
    have htext : Utf8.encodeChars (quote s) ++ rest =
        quotationMark :: (Utf8.encodeChars (s.toList.flatMap escape) ++ quotationMark :: rest) := by
      rw [quote, encodeChars_enclosed]
      rfl
    rw [chars, htext, value_quote, stringLiteral_escaped]
    rfl
  | @array depth values _ ih =>
    refine ⟨⟨openBracket, _, rfl, by decide, by decide⟩, fun rest _ => ?_⟩
    have htext : Utf8.encodeChars (Json.array values).chars ++ rest =
        openBracket :: (Utf8.encodeChars (itemChars values) ++ closeBracket :: rest) := by
      rw [chars, encodeChars_enclosed]
      rfl
    rw [htext, value_openBracket, array_itemChars ih]
    rfl
  | @object depth members sorted _ ih =>
    refine ⟨⟨openBrace, _, rfl, by decide, by decide⟩, fun rest _ => ?_⟩
    rw [value_object ih, ofFields, sortFields_of_sorted sorted]

end Reader

/-! ## Whole texts -/

/-- Nothing may be lost of what is nested in an object; the fields of the object itself are put in
order. -/
theorem parse_render_object {fields : List (String × Json)}
    (h : ∀ field ∈ fields, Exact (Reader.maxDepth - 1) field.2) :
    parse (Utf8.encode (Json.object fields).render) = .ok (.ofFields fields) := by
  have hvalue := Reader.value_object
    (fun field hfield => Reader.readsBack_of_exact (h field hfield)) []
  have hdepth : Reader.maxDepth - 1 + 1 = Reader.maxDepth := rfl
  rw [List.append_nil, hdepth] at hvalue
  rw [parse, render, Utf8.encode, String.toList_ofList, hvalue]
  rfl

end DebugAdapter.Json
