import DebugAdapter.Binary64.Basic

/-!
# JSON values

The fields of an object are a list. Values that come from text or go into a message keep it in
strictly increasing order of the names, character by character, so that an object has one form.
-/

namespace DebugAdapter

/-- A JSON value. A number without point and exponent that fits in 64 bits, with
or without a sign, is an integer; every other one is floating-point. -/
inductive Json where
  | null
  | bool (b : Bool)
  | int (i : Int)
  | double (x : Binary64)
  | string (s : String)
  | array (items : List Json)
  | object (fields : List (String × Json))
  deriving Repr, Inhabited

namespace Json

mutual

/-- Equality of two values is decidable. -/
def decEq : (a b : Json) → Decidable (a = b)
  | .null, .null => isTrue rfl
  | .bool a, .bool b => decidable_of_iff (a = b) (by simp)
  | .int a, .int b => decidable_of_iff (a = b) (by simp)
  | .double a, .double b => decidable_of_iff (a = b) (by simp)
  | .string a, .string b => decidable_of_iff (a = b) (by simp)
  | .array a, .array b =>
    match decEqItems a b with
    | isTrue h => isTrue (by rw [h])
    | isFalse h => isFalse (by simpa using h)
  | .object a, .object b =>
    match decEqFields a b with
    | isTrue h => isTrue (by rw [h])
    | isFalse h => isFalse (by simpa using h)
  | .null, .bool _ | .null, .int _ | .null, .double _ | .null, .string _ | .null, .array _
  | .null, .object _ | .bool _, .null | .bool _, .int _ | .bool _, .double _ | .bool _, .string _
  | .bool _, .array _ | .bool _, .object _ | .int _, .null | .int _, .bool _ | .int _, .double _
  | .int _, .string _ | .int _, .array _ | .int _, .object _ | .double _, .null
  | .double _, .bool _ | .double _, .int _ | .double _, .string _ | .double _, .array _
  | .double _, .object _ | .string _, .null | .string _, .bool _ | .string _, .int _
  | .string _, .double _ | .string _, .array _ | .string _, .object _ | .array _, .null
  | .array _, .bool _ | .array _, .int _ | .array _, .double _ | .array _, .string _
  | .array _, .object _ | .object _, .null | .object _, .bool _ | .object _, .int _
  | .object _, .double _ | .object _, .string _ | .object _, .array _ => isFalse (by simp)

/-- Equality of two lists of values is decidable. -/
def decEqItems : (a b : List Json) → Decidable (a = b)
  | [], [] => isTrue rfl
  | [], _ :: _ => isFalse (by simp)
  | _ :: _, [] => isFalse (by simp)
  | v :: r, w :: s =>
    match decEq v w, decEqItems r s with
    | isTrue h, isTrue k => isTrue (by rw [h, k])
    | isFalse h, _ => isFalse (by simp [h])
    | _, isFalse k => isFalse (by simp [k])

/-- Equality of two lists of fields is decidable. -/
def decEqFields : (a b : List (String × Json)) → Decidable (a = b)
  | [], [] => isTrue rfl
  | [], _ :: _ => isFalse (by simp)
  | _ :: _, [] => isFalse (by simp)
  | (n, v) :: r, (m, w) :: s =>
    match (inferInstance : Decidable (n = m)), decEq v w, decEqFields r s with
    | isTrue g, isTrue h, isTrue k => isTrue (by rw [g, h, k])
    | isFalse g, _, _ => isFalse (by simp [g])
    | _, isFalse h, _ => isFalse (by simp [h])
    | _, _, isFalse k => isFalse (by simp [k])

end

instance : DecidableEq Json := decEq

/-- A field put into its place in a list of fields; it replaces one of its name. -/
def insertField (name : String) (value : Json) : List (String × Json) → List (String × Json)
  | [] => [(name, value)]
  | (other, old) :: rest =>
    if name < other then (name, value) :: (other, old) :: rest
    else if name = other then (name, value) :: rest
    else (other, old) :: insertField name value rest

/-- Fields in order of their names; of several with one name the last stays. -/
def sortFields (fields : List (String × Json)) : List (String × Json) :=
  fields.foldl (fun sorted (name, value) => insertField name value sorted) []

/-- An object with the given fields. -/
def ofFields (fields : List (String × Json)) : Json :=
  .object (sortFields fields)

/-- Fields whose value is present. -/
def present (fields : List (String × Option Json)) : List (String × Json) :=
  fields.filterMap fun (name, value) => value.map (name, ·)

/-- An object with those of the given fields that are present. -/
def ofSome (fields : List (String × Option Json)) : Json :=
  ofFields (present fields)

/-- The value of the first field of a name. -/
def lookup (name : String) : List (String × Json) → Option Json
  | [] => none
  | (other, value) :: rest => if other = name then some value else lookup name rest

/-- The value of a field, if the value is an object that has it. -/
def field? (name : String) : Json → Option Json
  | .object fields => lookup name fields
  | _ => none

/-- A 64-bit integer as a JSON number. -/
def ofInt64 (i : Int64) : Json :=
  .int i.toInt

/-- A list of texts as an array of strings. -/
def ofStrings (texts : List String) : Json :=
  .array (texts.map .string)

/-- An integer that fits in 64 bits with a sign. -/
def asInt64? : Json → Option Int64
  | .int i =>
    if -0x8000000000000000 ≤ i ∧ i < 0x8000000000000000 then some (Int64.ofInt i) else none
  | _ => none

/-- A string. -/
def asString? : Json → Option String
  | .string s => some s
  | _ => none

/-- A boolean. -/
def asBool? : Json → Option Bool
  | .bool b => some b
  | _ => none

/-- The items of an array. -/
def asArray? : Json → Option (List Json)
  | .array items => some items
  | _ => none

/-- The texts of an array of strings. -/
def asStrings? (value : Json) : Option (List String) := do
  (← value.asArray?).mapM asString?

end Json

end DebugAdapter
