import DebugAdapter.Arguments
import DebugAdapter.Proofs.Json.Members
import Mathlib.Data.List.Basic

/-!
# Arguments that are looked at in part

Who looks at some fields of arguments, of the source in them and of the entries in their list of
breakpoints might as well have only these.
-/

namespace DebugAdapter

open Json (lookup insertField)

/-! ## Fields that are looked at -/

/-- The names of the fields that are looked at: those of the arguments, those of the object in their
field `source` and those of the objects in the array in their field `breakpoints`. -/
structure Sight where
  fields : List String := []
  source : List String := []
  entry : List String := []

/-! ## The part that is seen -/

namespace Sight

/-- The fields of an object that have one of the names and are not null, each with what is seen of
its value. -/
def pick (names : List String) (see : String → Json → Json) (value : Json) : Json :=
  .object (names.filterMap fun name =>
    (Arguments.get? ⟨value⟩ name).map fun found => (name, see name found))

/-- The fields of an object that have one of the names and are not null. -/
def pickWhole (names : List String) (value : Json) : Json :=
  pick names (fun _ found => found) value

variable (sight : Sight)

/-- The part of a source that is seen. What is no object is seen as it is. -/
def ofSource : Json → Json
  | .object fields => pickWhole sight.source (.object fields)
  | value => value

/-- The part of a list of breakpoints that is seen. What is no list is seen as it is. -/
def ofBreakpoints : Json → Json
  | .array entries => .array (entries.map (pickWhole sight.entry))
  | value => value

/-- The part of the value of a field that is seen. -/
def ofField (name : String) (value : Json) : Json :=
  if name = "source" then sight.ofSource value
  else if name = "breakpoints" then sight.ofBreakpoints value
  else value

/-- The part of arguments that is seen. -/
def view (arguments : Json) : Json :=
  pick sight.fields sight.ofField arguments

end Sight

/-! ## Changes that are not seen -/

/-- The fields of an object changed in a way that is not seen by who looks at some names only: a
field that was null is gone, or a field of another name is there, is gone or has changed. -/
inductive FieldEdit (names : List String) (fields fields' : List (String × Json)) : Prop where
  | drop {name : String} (null : lookup name fields = some .null)
      (gone : lookup name fields' = none)
      (others : ∀ other, other ≠ name → lookup other fields' = lookup other fields)
  | unread {name : String} (unread : name ∉ names)
      (others : ∀ other, other ≠ name → lookup other fields' = lookup other fields)

/-- A value changed in a way that is not seen by who looks at some of its fields only. -/
inductive ObjectEdit (names : List String) : Json → Json → Prop where
  | clear {value : Json} (h : ∀ fields, value ≠ .object fields) :
      ObjectEdit names value (.object [])
  | field {fields fields' : List (String × Json)} (edit : FieldEdit names fields fields') :
      ObjectEdit names (.object fields) (.object fields')

/-- Arguments changed in a way that is not seen: themselves, the object in their field `source`, or
one entry of the array in their field `breakpoints`. -/
inductive Sight.Edit (sight : Sight) : Json → Json → Prop where
  | own {arguments arguments' : Json} (edit : ObjectEdit sight.fields arguments arguments') :
      Edit sight arguments arguments'
  | source {fields fields' source source' : List (String × Json)}
      (edit : FieldEdit sight.source source source')
      (before : lookup "source" fields = some (.object source))
      (after : lookup "source" fields' = some (.object source'))
      (others : ∀ other, other ≠ "source" → lookup other fields' = lookup other fields) :
      Edit sight (.object fields) (.object fields')
  | entry {fields fields' : List (String × Json)} {front back : List Json} {entry entry' : Json}
      (edit : ObjectEdit sight.entry entry entry')
      (before : lookup "breakpoints" fields = some (.array (front ++ entry :: back)))
      (after : lookup "breakpoints" fields' = some (.array (front ++ entry' :: back)))
      (others : ∀ other, other ≠ "breakpoints" → lookup other fields' = lookup other fields) :
      Edit sight (.object fields) (.object fields')

/-- A field that is null taken out. -/
theorem FieldEdit.filter (names : List String) {name : String} {fields : List (String × Json)}
    (h : lookup name fields = some .null) :
    FieldEdit names fields (fields.filter fun field => field.1 ≠ name) := by
  refine .drop h ?_ ?_
  · rw [Json.lookup_filter_ne, if_pos rfl]
  · intro other hother
    rw [Json.lookup_filter_ne, if_neg hother]

/-- A field of another name put in, or its value changed. -/
theorem FieldEdit.insert {names : List String} {name : String} (h : name ∉ names) (value : Json)
    (fields : List (String × Json)) : FieldEdit names fields (insertField name value fields) := by
  refine .unread h fun other hother => ?_
  rw [Json.lookup_insertField, if_neg (Ne.symm hother)]

namespace Arguments

/-! ## Fields that are there and not null -/

theorem get?_object (fields : List (String × Json)) (name : String) :
    get? ⟨.object fields⟩ name = (lookup name fields).filter (· ≠ .null) :=
  rfl

theorem get?_of_not_object {value : Json} (h : ∀ fields, value ≠ .object fields) (name : String) :
    get? ⟨value⟩ name = none := by
  cases value with
  | object fields => exact absurd rfl (h fields)
  | _ => rfl

theorem ne_null_of_get? {args : Arguments} {name : String} {found : Json}
    (h : args.get? name = some found) : found ≠ .null := by
  rw [get?, Option.filter_eq_some_iff] at h
  simpa using h.2

theorem get?_eq_some {fields : List (String × Json)} {name : String} {found : Json}
    (h : lookup name fields = some found) (hnull : found ≠ .null) :
    get? ⟨.object fields⟩ name = some found := by
  rw [get?_object, h, Option.filter_some_pos (by simpa using hnull)]

/-- A change that is not seen leaves the fields that are looked at as they are. -/
theorem get?_of_fieldEdit {names : List String} {fields fields' : List (String × Json)}
    (h : FieldEdit names fields fields') {name : String} (hname : name ∈ names) :
    get? ⟨.object fields'⟩ name = get? ⟨.object fields⟩ name := by
  rw [get?_object, get?_object]
  cases h with
  | @drop dropped null gone others =>
    by_cases hdropped : name = dropped
    · rw [hdropped, null, gone]
      rfl
    · rw [others name hdropped]
  | unread hunread others =>
    rw [others name fun heq => hunread (heq ▸ hname)]

theorem get?_of_objectEdit {names : List String} {value value' : Json}
    (h : ObjectEdit names value value') {name : String} (hname : name ∈ names) :
    get? ⟨value'⟩ name = get? ⟨value⟩ name := by
  cases h with
  | clear hvalue =>
    rw [get?_of_not_object hvalue]
    rfl
  | field edit => exact get?_of_fieldEdit edit hname

end Arguments

namespace Sight

open Arguments

/-! ## Views -/

theorem pick_congr {names : List String} {see : String → Json → Json} {value value' : Json}
    (h : ∀ name ∈ names,
      (get? ⟨value'⟩ name).map (see name) = (get? ⟨value⟩ name).map (see name)) :
    pick names see value' = pick names see value := by
  have hpairs (name : String) (arguments : Json) :
      ((get? ⟨arguments⟩ name).map fun found => (name, see name found)) =
        ((get? ⟨arguments⟩ name).map (see name)).map (Prod.mk name) := by
    rw [Option.map_map]
    rfl
  rw [pick, pick]
  apply congrArg Json.object
  apply List.filterMap_congr
  intro name hname
  rw [hpairs, hpairs, h name hname]

theorem pickWhole_of_objectEdit {names : List String} {value value' : Json}
    (h : ObjectEdit names value value') : pickWhole names value' = pickWhole names value := by
  apply pick_congr
  intro name hname
  rw [get?_of_objectEdit h hname]

theorem lookup_filterMap (names : List String) (name : String) (value : String → Option Json) :
    lookup name (names.filterMap fun name => (value name).map (Prod.mk name)) =
      if name ∈ names then value name else none := by
  induction names with
  | nil => rfl
  | cons next names ih =>
    by_cases hnext : next = name
    · subst hnext
      rw [if_pos List.mem_cons_self]
      cases hvalue : value next with
      | some found =>
        rw [List.filterMap_cons_some (by rw [hvalue]; rfl), Json.lookup_cons_self]
      | none =>
        -- the name may be listed once more, but there is no value for it then either
        rw [List.filterMap_cons_none (by rw [hvalue]; rfl), ih, hvalue, ite_self]
    · have hmem : name ∈ next :: names ↔ name ∈ names := by
        rw [List.mem_cons, or_iff_right (Ne.symm hnext)]
      simp only [hmem]
      cases hvalue : value next with
      | some found =>
        rw [List.filterMap_cons_some (by rw [hvalue]; rfl), Json.lookup_cons_of_ne hnext, ih]
      | none => rw [List.filterMap_cons_none (by rw [hvalue]; rfl), ih]

/-- What is seen of a field that is looked at. -/
theorem get?_pick {names : List String} {see : String → Json → Json}
    (hsee : ∀ name found, found ≠ .null → see name found ≠ .null) (value : Json) {name : String}
    (hname : name ∈ names) :
    get? ⟨pick names see value⟩ name = (get? ⟨value⟩ name).map (see name) := by
  have hlookup := lookup_filterMap names name fun name => (get? ⟨value⟩ name).map (see name)
  simp only [Option.map_map, Function.comp_def, if_pos hname] at hlookup
  rw [pick, get?_object, hlookup]
  cases hfound : get? ⟨value⟩ name with
  | none => rfl
  | some found =>
    have hnull := hsee name found (ne_null_of_get? hfound)
    exact Option.filter_some_pos (by simpa using hnull)

theorem get?_pickWhole {names : List String} (value : Json) {name : String} (hname : name ∈ names) :
    get? ⟨pickWhole names value⟩ name = get? ⟨value⟩ name := by
  rw [pickWhole, get?_pick (fun _ _ h => h) value hname, Option.map_id']

variable (sight : Sight)

theorem ofField_source : sight.ofField "source" = sight.ofSource := by
  funext value
  exact if_pos rfl

theorem ofField_breakpoints : sight.ofField "breakpoints" = sight.ofBreakpoints := by
  funext value
  rw [ofField, if_neg (by decide), if_pos rfl]

theorem ofField_of_plain {name : String} (hsource : name ≠ "source")
    (hbreakpoints : name ≠ "breakpoints") : sight.ofField name = id := by
  funext value
  rw [ofField, if_neg hsource, if_neg hbreakpoints, id]

theorem ofField_ne_null (name : String) {found : Json} (h : found ≠ .null) :
    sight.ofField name found ≠ .null := by
  rw [ofField]
  split
  · cases found with
    | object fields => nofun
    | _ => exact h
  split
  · cases found with
    | array entries => nofun
    | _ => exact h
  · exact h

theorem get?_view (arguments : Json) {name : String} (hname : name ∈ sight.fields) :
    get? ⟨sight.view arguments⟩ name = (get? ⟨arguments⟩ name).map (sight.ofField name) :=
  get?_pick (fun _ _ => sight.ofField_ne_null _) arguments hname

variable {sight} in
/-- What is seen of arguments does not change with them if the change is not seen. -/
theorem view_of_edit {arguments arguments' : Json}
    (h : sight.Edit arguments arguments') : sight.view arguments' = sight.view arguments := by
  apply pick_congr
  intro name hname
  cases h with
  | own edit => rw [get?_of_objectEdit edit hname]
  | @source fields fields' source source' edit before after others =>
    by_cases hsource : name = "source"
    · subst hsource
      rw [get?_eq_some before nofun, get?_eq_some after nofun]
      simp only [Option.map_some, ofField_source, ofSource,
        pickWhole_of_objectEdit (.field edit)]
    · rw [get?_object, get?_object, others name hsource]
  | @entry fields fields' front back entry entry' edit before after others =>
    by_cases hbreakpoints : name = "breakpoints"
    · subst hbreakpoints
      rw [get?_eq_some before nofun, get?_eq_some after nofun]
      simp only [Option.map_some, ofField_breakpoints, ofBreakpoints, List.map_append,
        List.map_cons, pickWhole_of_objectEdit edit]
    · rw [get?_object, get?_object, others name hbreakpoints]

end Sight

end DebugAdapter
