import DebugAdapter.Json.Parser

/-!
# The members of an object

The text of an object lists members, in any order and perhaps several of one name. The value of a
field is that of the last member of its name.
-/

namespace DebugAdapter

theorem exists_of_bind_eq_ok {α β ε : Type} {x : Except ε α} {f : α → Except ε β} {b : β}
    (h : x >>= f = .ok b) : ∃ a, x = .ok a ∧ f a = .ok b := by
  cases x with
  | error e => cases h
  | ok a => exact ⟨a, rfl, h⟩

theorem bind_eq_error {α β ε : Type} {x : Except ε α} {f : α → Except ε β} {error : ε} :
    x >>= f = .error error ↔ x = .error error ∨ ∃ a, x = .ok a ∧ f a = .error error := by
  cases x with
  | error other => simp [bind, Except.bind]
  | ok a => simp [bind, Except.bind]

theorem exists_of_map_eq_ok {α β ε : Type} {x : Except ε α} {f : α → β} {b : β}
    (h : f <$> x = .ok b) : ∃ a, x = .ok a ∧ f a = b := by
  cases x with
  | error e => cases h
  | ok a => exact ⟨a, rfl, Except.ok.inj h⟩

namespace Json

open Ascii

/-! ## Fields by name -/

theorem lookup_cons_self (name : String) (value : Json) (fields : List (String × Json)) :
    lookup name ((name, value) :: fields) = some value :=
  if_pos rfl

theorem lookup_cons_of_ne {name other : String} (h : other ≠ name) (value : Json)
    (fields : List (String × Json)) :
    lookup name ((other, value) :: fields) = lookup name fields :=
  if_neg h

theorem lookup_insertField (name other : String) (value : Json) (fields : List (String × Json)) :
    lookup other (insertField name value fields) =
      if name = other then some value else lookup other fields := by
  induction fields with
  | nil => simp only [insertField, lookup]
  | cons field fields ih =>
    obtain ⟨next, old⟩ := field
    rw [insertField]
    by_cases hlt : name < next
    · rw [if_pos hlt, lookup]
    by_cases heq : name = next
    · subst heq
      rw [if_neg hlt, if_pos rfl, lookup]
      by_cases hother : name = other
      · rw [if_pos hother, if_pos hother]
      · rw [if_neg hother, if_neg hother, lookup_cons_of_ne hother]
    · rw [if_neg hlt, if_neg heq]
      by_cases hnext : next = other
      · subst hnext
        rw [lookup_cons_self, lookup_cons_self, if_neg heq]
      · rw [lookup_cons_of_ne hnext, lookup_cons_of_ne hnext, ih]

theorem lookup_filter_ne (name other : String) (fields : List (String × Json)) :
    lookup other (fields.filter fun field => field.1 ≠ name) =
      if other = name then none else lookup other fields := by
  induction fields with
  | nil => rw [List.filter_nil, lookup, ite_self]
  | cons field fields ih =>
    obtain ⟨next, value⟩ := field
    by_cases hnext : next = name
    · subst hnext
      rw [List.filter_cons_of_neg (by simp), ih]
      by_cases hother : other = next
      · rw [if_pos hother, if_pos hother]
      · rw [if_neg hother, if_neg hother, lookup_cons_of_ne (Ne.symm hother)]
    · rw [List.filter_cons_of_pos (by simpa using hnext)]
      by_cases hother : next = other
      · subst hother
        rw [lookup_cons_self, lookup_cons_self, if_neg hnext]
      · rw [lookup_cons_of_ne hother, lookup_cons_of_ne hother, ih]

theorem lookup_append (name : String) (front back : List (String × Json)) :
    lookup name (front ++ back) = (lookup name front).or (lookup name back) := by
  induction front with
  | nil => rfl
  | cons field front ih =>
    obtain ⟨other, value⟩ := field
    rw [List.cons_append]
    by_cases hother : other = name
    · subst hother
      rw [lookup_cons_self, lookup_cons_self, Option.some_or]
    · rw [lookup_cons_of_ne hother, lookup_cons_of_ne hother, ih]

theorem lookup_foldl_insertField (name : String) (members front : List (String × Json)) :
    lookup name (members.foldl (fun sorted (name, value) => insertField name value sorted) front) =
      (lookup name members.reverse).or (lookup name front) := by
  induction members generalizing front with
  | nil => rfl
  | cons member members ih =>
    obtain ⟨other, value⟩ := member
    rw [List.foldl_cons, ih, lookup_insertField, List.reverse_cons, lookup_append, lookup, lookup,
      Option.or_assoc]
    by_cases hother : other = name
    · rw [if_pos hother, if_pos hother, Option.some_or]
    · rw [if_neg hother, if_neg hother, Option.none_or]

/-- Of several members with one name the last counts. -/
theorem lookup_sortFields (name : String) (members : List (String × Json)) :
    lookup name (sortFields members) = lookup name members.reverse := by
  rw [sortFields, lookup_foldl_insertField, lookup, Option.or_none]

namespace Reader

variable {read : Bytes → Except Fault (Json × Bytes)}

/-! ## Members in a text -/

/-- A member in front of `rest`, from behind the quote that opens its name. -/
def IsMember (read : Bytes → Except Fault (Json × Bytes)) (text : Bytes) (member : String × Json)
    (rest : Bytes) : Prop :=
  ∃ after, stringLiteral text = .ok (member.1, after) ∧
    fieldValue read after = .ok (member.2, rest)

/-- Members with commas between them, and the brace that closes the object in front of `rest`. The
text begins behind the quote that opens the first name. -/
inductive ListsMembers (read : Bytes → Except Fault (Json × Bytes)) :
    (text : Bytes) → (members : List (String × Json)) → (rest : Bytes) → Prop where
  | last {text after rest : Bytes} {member : String × Json} (isMember : IsMember read text member after)
      (close : skipSpace after = closeBrace :: rest) : ListsMembers read text [member] rest
  | next {text after behind others rest : Bytes} {member : String × Json}
      {members : List (String × Json)} (isMember : IsMember read text member after)
      (separator : skipSpace after = comma :: behind)
      (opening : skipSpace behind = quotationMark :: others)
      (lists : ListsMembers read others members rest) :
      ListsMembers read text (member :: members) rest

theorem exists_members_of_fields {room : Nat} {acc fields : List (String × Json)}
    {text rest : Bytes} (h : Reader.fields read room acc text = .ok (fields, rest)) :
    ∃ members, ListsMembers read text members rest ∧
      fields = members.foldl (fun sorted (name, value) => insertField name value sorted) acc := by
  induction room generalizing acc text with
  | zero => cases h
  | succ room ih =>
    rw [Reader.fields] at h
    obtain ⟨⟨name, named⟩, hname, h⟩ := exists_of_bind_eq_ok h
    obtain ⟨⟨v, after⟩, hvalue, h⟩ := exists_of_bind_eq_ok h
    have isMember : IsMember read text (name, v) after := ⟨named, hname, hvalue⟩
    dsimp only at h
    split at h
    · cases h
    next b behind hbehind =>
    split at h
    next hclose =>
      subst hclose
      cases h
      exact ⟨[(name, v)], .last isMember hbehind, rfl⟩
    split at h
    next hcomma =>
      subst hcomma
      split at h
      · cases h
      next c others hothers =>
      split at h
      next hquote =>
        subst hquote
        obtain ⟨members, hlists, rfl⟩ := ih h
        exact ⟨(name, v) :: members, .next isMember hbehind hothers hlists, rfl⟩
      · split at h <;> cases h
    · cases h

/-- An object from behind its opening brace on. -/
def IsObjectTail (read : Bytes → Except Fault (Json × Bytes)) (text : Bytes)
    (members : List (String × Json)) (rest : Bytes) : Prop :=
  (members = [] ∧ skipSpace text = closeBrace :: rest) ∨
    ∃ others, skipSpace text = quotationMark :: others ∧ ListsMembers read others members rest

theorem exists_members_of_object {text rest : Bytes} {fields : List (String × Json)}
    (h : object read text = .ok (fields, rest)) :
    ∃ members, IsObjectTail read text members rest ∧ fields = sortFields members := by
  rw [object] at h
  split at h
  · cases h
  next b others hothers =>
  split at h
  next hclose =>
    subst hclose
    cases h
    exact ⟨[], .inl ⟨rfl, hothers⟩, rfl⟩
  split at h
  next hquote =>
    subst hquote
    obtain ⟨members, hlists, rfl⟩ := exists_members_of_fields h
    exact ⟨members, .inr ⟨others, hothers, hlists⟩, rfl⟩
  · cases h

/-! ## Values that are objects -/

/-- A value that is a number. -/
def IsNumber : Json → Prop
  | .int _ | .double _ => True
  | _ => False

section Numbers

variable {negative : Bool} {significand : Nat} {exponent : Int} {text rest : Bytes} {v : Json}

theorem isNumber_of_finite (h : finite negative significand exponent text = .ok (v, rest)) :
    IsNumber v := by
  rw [finite] at h
  split at h <;> cases h
  trivial

theorem isNumber_of_integer (h : integer negative significand text = .ok (v, rest)) :
    IsNumber v := by
  rw [integer] at h
  split at h
  · cases h
    trivial
  split at h
  · exact isNumber_of_finite h
  · cases h
    trivial

theorem isNumber_of_fromExponent
    (h : fromExponent negative significand exponent text = .ok (v, rest)) : IsNumber v := by
  simp only [fromExponent] at h
  split at h
  · cases h
  split at h
  · cases h
  split at h
  · exact isNumber_of_finite h
  split at h
  · cases h
  · cases h
    trivial

theorem isNumber_of_fromFraction
    (h : fromFraction negative significand exponent text = .ok (v, rest)) : IsNumber v := by
  simp only [fromFraction] at h
  split at h
  · cases h
  split at h
  · exact isNumber_of_finite h
  split at h
  · exact isNumber_of_fromExponent h
  · exact isNumber_of_finite h

theorem isNumber_of_afterWhole {dropped : Nat}
    (h : afterWhole negative significand dropped text = .ok (v, rest)) : IsNumber v := by
  have hplain {behind : Bytes}
      (hbehind : (if dropped = 0 then integer negative significand behind
        else finite negative significand dropped behind) = .ok (v, rest)) : IsNumber v := by
    split at hbehind
    · exact isNumber_of_integer hbehind
    · exact isNumber_of_finite hbehind
  simp only [afterWhole] at h
  split at h
  · exact hplain h
  split at h
  · exact isNumber_of_fromFraction h
  split at h
  · exact isNumber_of_fromExponent h
  · exact hplain h

theorem isNumber_of_number (h : number negative text = .ok (v, rest)) : IsNumber v := by
  simp only [number.eq_def] at h
  split at h
  · cases h
  split at h
  · split at h
    · cases h
    · exact isNumber_of_afterWhole h
  split at h
  · exact isNumber_of_afterWhole h
  · cases h

end Numbers

/-- What is read as an object begins with a brace. -/
theorem exists_object_of_value {depth : Nat} {text rest : Bytes} {fields : List (String × Json)}
    (h : value depth text = .ok (.object fields, rest)) :
    ∃ inner behind, depth = inner + 1 ∧ skipSpace text = openBrace :: behind ∧
      object (value inner) behind = .ok (fields, rest) := by
  rw [value.eq_def] at h
  split at h
  · cases h
  next b behind hbehind =>
  -- one case for each byte with which a value can begin
  split at h
  · obtain ⟨_, -, hv⟩ := exists_of_map_eq_ok h
    cases hv
  split at h
  · obtain ⟨_, -, hv⟩ := exists_of_map_eq_ok h
    cases hv
  split at h
  · obtain ⟨_, -, hv⟩ := exists_of_map_eq_ok h
    cases hv
  split at h
  · exact absurd (isNumber_of_number h) id
  split at h
  · exact absurd (isNumber_of_number h) id
  split at h
  · obtain ⟨_, -, hv⟩ := exists_of_map_eq_ok h
    cases hv
  split at h
  · split at h
    · cases h
    · obtain ⟨_, -, hv⟩ := exists_of_map_eq_ok h
      cases hv
  split at h
  next hbrace =>
    subst hbrace
    split at h
    · cases h
    next inner =>
    obtain ⟨⟨_, _⟩, hobject, hv⟩ := exists_of_map_eq_ok h
    cases hv
    exact ⟨inner, behind, rfl, hbehind, hobject⟩
  · cases h

end Reader

/-- A text that is an object with the given members, in the order in which it lists them. -/
def IsObject (body : Bytes) (members : List (String × Json)) : Prop :=
  ∃ behind rest, Reader.skipSpace body = openBrace :: behind ∧
    Reader.IsObjectTail (Reader.value (Reader.maxDepth - 1)) behind members rest ∧
    Reader.skipSpace rest = []

/-- A text that is read as an object is one, and the value of each of its fields is that of the
last member of the name. -/
theorem exists_members_of_parse {body : Bytes} {fields : List (String × Json)}
    (h : parse body = .ok (.object fields)) :
    ∃ members, IsObject body members ∧ ∀ name, lookup name fields = lookup name members.reverse := by
  obtain ⟨⟨v, rest⟩, hvalue, h⟩ := exists_of_bind_eq_ok h
  obtain ⟨⟨⟩, hfinish, hv⟩ := exists_of_bind_eq_ok h
  cases hv
  obtain ⟨inner, behind, hdepth, hbehind, hobject⟩ := Reader.exists_object_of_value hvalue
  obtain ⟨members, htail, rfl⟩ := Reader.exists_members_of_object hobject
  have hrest : Reader.skipSpace rest = [] := by
    rw [Reader.finish] at hfinish
    split at hfinish
    next hnone => exact hnone
    next => cases hfinish
  obtain rfl : inner = Reader.maxDepth - 1 := by omega
  exact ⟨members, ⟨behind, rest, hbehind, htail, hrest⟩, fun name => lookup_sortFields name members⟩

end Json

end DebugAdapter
