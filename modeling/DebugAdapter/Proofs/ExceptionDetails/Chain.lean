import DebugAdapter.Record.ExceptionInfo

/-!
# Chains of exceptions

The client is told of an exception, of the first one inside it, of the first one inside that, and so
on down to one with none inside.
-/

namespace DebugAdapter.ExceptionDetails

/-- What is said of one exception, apart from those inside it. -/
@[ext]
structure Level where
  message : String
  typeName : String
  fullTypeName : String
  evaluateName : String
  stackTrace : String
  deriving DecidableEq, Repr

/-- What is said of the exception itself. -/
def level (details : ExceptionDetails) : Level where
  message := details.message
  typeName := details.typeName
  fullTypeName := details.fullTypeName
  evaluateName := details.evaluateName
  stackTrace := details.stackTrace

/-- The exception itself, the first one inside it and so on, down to one with none inside. -/
inductive HasChain : ExceptionDetails → List Level → Prop where
  | last {details : ExceptionDetails} (none_inside : details.inner = []) :
      HasChain details [details.level]
  | next {details first : ExceptionDetails} {others : List ExceptionDetails} {levels : List Level}
      (inside : details.inner = first :: others) (chain : HasChain first levels) :
      HasChain details (details.level :: levels)

/-- One exception as an object, with values for those inside it. -/
def Level.toObject (level : Level) (inside : List Json) : Json :=
  .object [
    ("evaluateName", .string level.evaluateName),
    ("fullTypeName", .string level.fullTypeName),
    ("innerException", .array inside),
    ("message", .string level.message),
    ("stackTrace", .string level.stackTrace),
    ("typeName", .string level.typeName)]

/-- Objects that are nested: each but the last one has just the next one inside it. -/
inductive Nests : List Level → Json → Prop where
  | last (level : Level) : Nests [level] (level.toObject [])
  | next (level : Level) {levels : List Level} {value : Json} (inside : Nests levels value) :
      Nests (level :: levels) (level.toObject [value])

theorem HasChain.unique {details : ExceptionDetails} {chain chain' : List Level}
    (h : HasChain details chain) (h' : HasChain details chain') : chain = chain' := by
  induction h generalizing chain' with
  | last none_inside =>
    cases h' with
    | last _ => rfl
    | next inside _ =>
      rw [none_inside] at inside
      cases inside
  | next inside _ ih =>
    cases h' with
    | last none_inside =>
      rw [inside] at none_inside
      cases none_inside
    | next inside' chain' =>
      obtain ⟨rfl, -⟩ := List.cons.inj (inside.symm.trans inside')
      rw [ih chain']

theorem exists_hasChain (details : ExceptionDetails) : ∃ chain, HasChain details chain := by
  induction details using toJson.induct with
  | case1 => exact ⟨_, .last rfl⟩
  | case2 message typeName fullTypeName evaluateName stackTrace first others ih =>
    obtain ⟨levels, hfirst⟩ := ih
    exact ⟨_, .next rfl hfirst⟩

theorem Level.toObject_inj {level level' : Level} {inside inside' : List Json} :
    level.toObject inside = level'.toObject inside' ↔ level = level' ∧ inside = inside' := by
  constructor
  · intro h
    simp only [toObject, Json.object.injEq, List.cons.injEq, Prod.mk.injEq, Json.string.injEq,
      Json.array.injEq, true_and, and_true] at h
    obtain ⟨hevaluate, hfull, hinside, hmessage, htrace, htype⟩ := h
    exact ⟨Level.ext hmessage htype hfull hevaluate htrace, hinside⟩
  · rintro ⟨rfl, rfl⟩
    rfl

/-- There is one way to nest the objects. -/
theorem Nests.value_unique {chain : List Level} {value value' : Json} (h : Nests chain value)
    (h' : Nests chain value') : value = value' := by
  induction h generalizing value' with
  | last level =>
    cases h' with
    | last _ => rfl
    | next _ inside => cases inside
  | next level inside ih =>
    cases h' with
    | last _ => cases inside
    | next _ inside' => rw [ih inside']

/-- Nothing that is said of the exceptions is lost in the objects. -/
theorem Nests.chain_unique {chain chain' : List Level} {value : Json} (h : Nests chain value)
    (h' : Nests chain' value) : chain = chain' := by
  induction h generalizing chain' with
  | last level =>
    generalize hvalue : level.toObject [] = value at h'
    cases h' with
    | last level' => rw [(Level.toObject_inj.1 hvalue).1]
    | next level' _ => cases (Level.toObject_inj.1 hvalue).2
  | @next level levels first inside ih =>
    generalize hvalue : level.toObject [first] = value at h'
    cases h' with
    | last level' => cases (Level.toObject_inj.1 hvalue).2
    | next level' inside' =>
      obtain ⟨rfl, hfirst⟩ := Level.toObject_inj.1 hvalue
      obtain ⟨rfl, -⟩ := List.cons.inj hfirst
      rw [ih inside']

theorem toJson_of_last {details : ExceptionDetails} (h : details.inner = []) :
    details.toJson = details.level.toObject [] := by
  obtain ⟨message, typeName, fullTypeName, evaluateName, stackTrace, inner⟩ := details
  obtain rfl : inner = [] := h
  rw [toJson]
  rfl

theorem toJson_of_next {details first : ExceptionDetails} {others : List ExceptionDetails}
    (h : details.inner = first :: others) :
    details.toJson = details.level.toObject [first.toJson] := by
  obtain ⟨message, typeName, fullTypeName, evaluateName, stackTrace, inner⟩ := details
  obtain rfl : inner = first :: others := h
  rw [toJson]
  rfl

/-- The objects are nested as the exceptions are. -/
theorem HasChain.nests {details : ExceptionDetails} {chain : List Level}
    (h : HasChain details chain) : Nests chain details.toJson := by
  induction h with
  | last none_inside =>
    rw [toJson_of_last none_inside]
    exact .last _
  | next inside _ ih =>
    rw [toJson_of_next inside]
    exact .next _ ih

/-- Whatever the exceptions inside an exception are, there is one chain of first ones, and the
client is told of the exceptions in this chain, each with all that is said of it, one inside the
other, and of no others. It is told the same of another exception if and only if that has the same
chain. -/
theorem tells_first_inner_chain (details : ExceptionDetails) :
    ∃ chain, (∀ other, HasChain details other ↔ other = chain) ∧ Nests chain details.toJson ∧
      ∀ other : ExceptionDetails, other.toJson = details.toJson ↔ HasChain other chain := by
  obtain ⟨chain, hchain⟩ := exists_hasChain details
  refine ⟨chain, fun other => ⟨fun h => h.unique hchain, fun h => h ▸ hchain⟩, hchain.nests,
    fun other => ⟨fun h => ?_, fun h => ?_⟩⟩
  · obtain ⟨chain', hchain'⟩ := exists_hasChain other
    have hnests := hchain'.nests
    rw [h] at hnests
    rwa [hchain.nests.chain_unique hnests]
  · exact h.nests.value_unique hchain.nests

end DebugAdapter.ExceptionDetails
