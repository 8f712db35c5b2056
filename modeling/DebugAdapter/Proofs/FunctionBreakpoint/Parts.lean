import DebugAdapter.FunctionBreakpoint
import DebugAdapter.Proofs.Text.Cut
import Mathlib.Data.List.Infix

/-!
# The parts of a function's name

The rules for the parts of a name are said here without a scan, and the scan is shown to follow
them.
-/

namespace DebugAdapter.FunctionBreakpoint

/-! ## The shortest beginning of a text -/

/-- The shortest beginning of a text with a property, or the whole text if no beginning has it. -/
inductive IsFirst (P : List Char → Prop) (text : List Char) : (part : List Char) → Prop where
  | shortest {part : List Char} (begins : part <+: text) (holds : P part)
      (least : ∀ other, other <+: text → P other → part.length ≤ other.length) :
      IsFirst P text part
  | whole (never : ∀ other, other <+: text → ¬ P other) : IsFirst P text text

namespace IsFirst

variable {P Q : List Char → Prop} {text part other : List Char}

theorem isPrefix (h : IsFirst P text part) : part <+: text := by
  cases h with
  | shortest begins _ _ => exact begins
  | whole _ => exact List.prefix_rfl

theorem unique (h : IsFirst P text part) (h' : IsFirst P text other) : part = other := by
  cases h with
  | whole never =>
    cases h' with
    | whole _ => rfl
    | shortest begins holds _ => exact absurd holds (never other begins)
  | shortest begins holds least =>
    cases h' with
    | whole never => exact absurd holds (never part begins)
    | shortest begins' holds' least' =>
      -- beginnings of one text are equal if they have the same length
      have hle : part.length ≤ other.length := least other begins' holds'
      have hge : other.length ≤ part.length := least' part begins holds
      have hprefix : part <+: other := List.prefix_of_prefix_length_le begins begins' hle
      exact hprefix.eq_of_length (by omega)

/-- The search goes on behind a character that does not complete the part. -/
theorem cons {c : Char} (hnil : ¬ P []) (hrest : ∀ behind, P (c :: behind) ↔ Q behind)
    (h : IsFirst Q text part) : IsFirst P (c :: text) (c :: part) := by
  cases h with
  | shortest begins holds least =>
    apply shortest ((List.prefix_cons_inj c).2 begins) ((hrest part).2 holds)
    intro other hother hP
    cases other with
    | nil => exact absurd hP hnil
    | cons d behind =>
      obtain ⟨rfl, hbehind⟩ := List.cons_prefix_cons.1 hother
      have hle := least behind hbehind ((hrest behind).1 hP)
      simpa using hle
  | whole never =>
    apply whole
    intro other hother hP
    cases other with
    | nil => exact hnil hP
    | cons d behind =>
      obtain ⟨rfl, hbehind⟩ := List.cons_prefix_cons.1 hother
      exact never behind hbehind ((hrest behind).1 hP)

/-- A part is found again in itself. -/
theorem self (h : IsFirst P text part) : IsFirst P part part := by
  cases h with
  | shortest begins holds least =>
    exact shortest List.prefix_rfl holds fun other hother => least other (hother.trans begins)
  | whole never => exact whole never

end IsFirst

/-! ## Parentheses that balance -/

/-- A text with as many closing as opening parentheses. -/
def Balanced (text : List Char) : Prop :=
  text.count '(' = text.count ')'

instance (text : List Char) : Decidable (Balanced text) :=
  inferInstanceAs (Decidable (_ = _))

/-- A text that closes what it opens and `depth` parentheses more. -/
def Closes (depth : Nat) (text : List Char) : Prop :=
  text.count ')' = text.count '(' + depth

theorem not_closes_nil {depth : Nat} (hpos : 0 < depth) : ¬ Closes depth [] := by
  intro h
  simp only [Closes, List.count_nil] at h
  omega

theorem closes_open (depth : Nat) (text : List Char) :
    Closes depth ('(' :: text) ↔ Closes (depth + 1) text := by
  have hne : '(' ≠ ')' := by decide
  simp only [Closes, List.count_cons_self, List.count_cons_of_ne hne]
  omega

theorem closes_close {depth : Nat} (hpos : 0 < depth) (text : List Char) :
    Closes depth (')' :: text) ↔ Closes (depth - 1) text := by
  have hne : ')' ≠ '(' := by decide
  simp only [Closes, List.count_cons_self, List.count_cons_of_ne hne]
  omega

theorem closes_other {c : Char} (hopen : c ≠ '(') (hclose : c ≠ ')') (depth : Nat)
    (text : List Char) : Closes depth (c :: text) ↔ Closes depth text := by
  simp only [Closes, List.count_cons_of_ne hopen, List.count_cons_of_ne hclose]

/-- With `depth` parentheses open, the scan ends where all of them are closed for the first time. -/
theorem isFirst_group {depth : Nat} (hpos : 0 < depth) (text : List Char) :
    IsFirst (Closes depth) text (group depth text) := by
  induction text generalizing depth with
  | nil =>
    apply IsFirst.whole
    intro other hother
    rw [List.prefix_nil.1 hother]
    exact not_closes_nil hpos
  | cons c rest ih =>
    have hnil : ¬ Closes depth [] := not_closes_nil hpos
    by_cases hopen : c = '('
    · subst hopen
      rw [group, if_pos rfl]
      exact (ih (Nat.succ_pos depth)).cons hnil (closes_open depth)
    by_cases hclose : c = ')'
    · subst hclose
      rw [group, if_neg hopen, if_pos rfl]
      by_cases hlast : depth ≤ 1
      · -- the parenthesis closes the last one that is open
        obtain rfl : depth = 1 := by omega
        rw [if_pos hlast]
        have hone : Closes 1 [')'] := by rw [Closes]; decide
        apply IsFirst.shortest ⟨rest, rfl⟩ hone
        intro other hother hcloses
        cases other with
        | nil => exact absurd hcloses hnil
        | cons d behind => exact Nat.succ_le_succ (Nat.zero_le _)
      · rw [if_neg hlast]
        exact (ih (by omega)).cons hnil (closes_close hpos)
    · rw [group, if_neg hopen, if_neg hclose]
      exact (ih hpos).cons hnil (closes_other hopen hclose depth)

/-- What opens a parenthesis balances where the parenthesis and all behind it are closed. -/
theorem isFirst_group_open (rest : List Char) :
    IsFirst (fun part => part ≠ [] ∧ Balanced part) ('(' :: rest) (group 0 ('(' :: rest)) := by
  rw [group, if_pos rfl]
  apply (isFirst_group (Nat.succ_pos 0) rest).cons (fun h => h.1 rfl)
  intro behind
  have hne : '(' ≠ ')' := by decide
  simp only [Balanced, Closes, ne_eq, reduceCtorEq, not_false_eq_true, true_and,
    List.count_cons_self, List.count_cons_of_ne hne]
  omega

/-- A group in parentheses: it opens with its first character and is closed by its last one only. -/
structure IsGroup (text : List Char) : Prop where
  opens : text.head? = some '('
  balanced : Balanced text
  closes : ∀ part, part <+: text → part ≠ [] → Balanced part → part = text

instance (text : List Char) : Decidable (IsGroup text) :=
  decidable_of_iff (text.head? = some '(' ∧ Balanced text ∧
    ∀ part ∈ text.inits, part ≠ [] → Balanced part → part = text)
    ⟨fun ⟨opens, balanced, closes⟩ =>
      ⟨opens, balanced, fun part hpart => closes part ((List.mem_inits part text).2 hpart)⟩,
    fun ⟨opens, balanced, closes⟩ =>
      ⟨opens, balanced, fun part hpart => closes part ((List.mem_inits part text).1 hpart)⟩⟩

theorem IsGroup.isFirst {params : List Char} (h : IsGroup params) (tail : List Char) :
    IsFirst (fun part => part ≠ [] ∧ Balanced part) (params ++ tail) params := by
  have hne : params ≠ [] := by
    rintro rfl
    cases h.opens
  apply IsFirst.shortest (List.prefix_append params tail) ⟨hne, h.balanced⟩
  rintro other hother ⟨hsome, hbalanced⟩
  by_contra hshorter
  have hprefix : other <+: params :=
    List.prefix_of_prefix_length_le hother (List.prefix_append params tail) (by omega)
  have heq : other = params := h.closes other hprefix hsome hbalanced
  rw [heq] at hshorter
  omega

/-! ## The parts of a name -/

/-- A text cut at its first exclamation mark: the module stands in front of it. Without a mark,
there is no module. -/
inductive ModuleCut : (text module rest : List Char) → Prop where
  | marked {module rest : List Char} (first : '!' ∉ module) :
      ModuleCut (module ++ '!' :: rest) module rest
  | plain {text : List Char} (none : '!' ∉ text) : ModuleCut text [] text

/-- A text cut at its first opening parenthesis: the name stands in front of it, and the parameters
begin with it and end where the parentheses balance. Without one, all is the name. -/
inductive ParamsCut : (text name params : List Char) → Prop where
  | grouped {name rest params : List Char} (first : '(' ∉ name)
      (group : IsFirst (fun part => part ≠ [] ∧ Balanced part) ('(' :: rest) params) :
      ParamsCut (name ++ '(' :: rest) name params
  | plain {name : List Char} (none : '(' ∉ name) : ParamsCut name name []

/-- The parts of a name, with an empty condition. -/
structure Parts (qualified : String) (parts : FunctionBreakpoint) : Prop where
  cut : ∃ rest, ModuleCut qualified.toList parts.module.toList rest ∧
    ParamsCut rest parts.name.toList parts.params.toList
  condition : parts.condition = ""

theorem ModuleCut.unique {text module module' rest rest' : List Char}
    (h : ModuleCut text module rest) (h' : ModuleCut text module' rest') :
    module = module' ∧ rest = rest' := by
  cases h with
  | marked first =>
    generalize htext : module ++ '!' :: rest = text at h'
    cases h' with
    | marked first' => exact eq_of_append_cons_eq first first' htext
    | plain none => exact absurd (by simp [← htext]) none
  | plain none =>
    cases h' with
    | marked _ => exact absurd (by simp) none
    | plain _ => exact ⟨rfl, rfl⟩

theorem ParamsCut.unique {text name name' params params' : List Char}
    (h : ParamsCut text name params) (h' : ParamsCut text name' params') :
    name = name' ∧ params = params' := by
  cases h with
  | @grouped name rest params first group =>
    generalize htext : name ++ '(' :: rest = text at h'
    cases h' with
    | grouped first' group' =>
      obtain ⟨rfl, rfl⟩ := eq_of_append_cons_eq first first' htext
      exact ⟨rfl, group.unique group'⟩
    | plain none => exact absurd (by simp [← htext]) none
  | plain none =>
    generalize hparams : params' = last at h'
    cases h' with
    | grouped _ _ => exact absurd (by simp) none
    | plain _ => exact ⟨rfl, rfl⟩

theorem Parts.unique {qualified : String} {parts parts' : FunctionBreakpoint}
    (h : Parts qualified parts) (h' : Parts qualified parts') : parts = parts' := by
  obtain ⟨⟨rest, hmodule, hparams⟩, hcondition⟩ := h
  obtain ⟨⟨rest', hmodule', hparams'⟩, hcondition'⟩ := h'
  obtain ⟨hsame, rfl⟩ := hmodule.unique hmodule'
  obtain ⟨hname, hlast⟩ := hparams.unique hparams'
  cases parts
  cases parts'
  simp only [mk.injEq]
  exact ⟨String.toList_injective hsame, String.toList_injective hname,
    String.toList_injective hlast, hcondition.trans hcondition'.symm⟩

/-! ## The scan -/

theorem moduleCut_splitModule (text : List Char) :
    ModuleCut text (splitModule text).1 (splitModule text).2 := by
  by_cases hmark : '!' ∈ text
  · obtain ⟨front, rest, rfl, hfront⟩ := List.eq_append_cons_of_mem hmark
    rw [splitModule, dropWhile_ne_append hfront, takeWhile_ne_append hfront]
    exact .marked hfront
  · rw [splitModule, dropWhile_ne_of_not_mem hmark]
    exact .plain hmark

theorem paramsCut_group (text : List Char) :
    ParamsCut text (text.takeWhile (· ≠ '(')) (group 0 (text.dropWhile (· ≠ '('))) := by
  by_cases hopen : '(' ∈ text
  · obtain ⟨front, rest, rfl, hfront⟩ := List.eq_append_cons_of_mem hopen
    rw [dropWhile_ne_append hfront, takeWhile_ne_append hfront]
    exact .grouped hfront (isFirst_group_open rest)
  · rw [dropWhile_ne_of_not_mem hopen, takeWhile_ne_of_not_mem hopen]
    exact .plain hopen

/-- A name is taken apart into its parts. -/
theorem parts_ofName (qualified : String) : Parts qualified (ofName qualified) := by
  refine ⟨⟨(splitModule qualified.toList).2, ?_, ?_⟩, rfl⟩
  · simpa only [ofName, String.toList_ofList] using moduleCut_splitModule qualified.toList
  · simpa only [ofName, String.toList_ofList] using
      paramsCut_group (splitModule qualified.toList).2

theorem ofName_eq_iff {qualified : String} {parts : FunctionBreakpoint} :
    ofName qualified = parts ↔ Parts qualified parts := by
  constructor
  · rintro rfl
    exact parts_ofName qualified
  · exact (parts_ofName qualified).unique

/-- Module, name and parameters with an exclamation mark behind the module, even an empty one, are
the parts of what they are put together to. -/
theorem parts_of_cuts {module name params : String} {rest : List Char}
    (hmodule : '!' ∉ module.toList)
    (hparams : ParamsCut rest name.toList params.toList) {qualified : String}
    (hqualified : qualified.toList = module.toList ++ '!' :: rest) :
    Parts qualified { module, name, params } := by
  refine ⟨⟨rest, ?_, hparams⟩, rfl⟩
  rw [hqualified]
  exact .marked hmodule

theorem ModuleCut.not_mem {text module rest : List Char} (h : ModuleCut text module rest) :
    '!' ∉ module := by
  cases h with
  | marked first => exact first
  | plain _ => exact List.not_mem_nil

/-- Name and parameters are found again in what they are put together to. -/
theorem ParamsCut.rejoin {text name params : List Char} (h : ParamsCut text name params) :
    ParamsCut (name ++ params) name params := by
  cases h with
  | plain none =>
    rw [List.append_nil]
    exact .plain none
  | @grouped name rest params first group =>
    obtain ⟨others, rfl⟩ : ∃ others, params = '(' :: others := by
      have hbegins : params <+: '(' :: rest := group.isPrefix
      cases params with
      | nil =>
        cases group with
        | shortest _ holds _ => exact absurd rfl holds.1
      | cons c others =>
        obtain ⟨rfl, -⟩ := List.cons_prefix_cons.1 hbegins
        exact ⟨others, rfl⟩
    exact .grouped first group.self

/-- A name is taken apart by these rules and by no others: the module ends at the first exclamation
mark, the name at the first opening parenthesis behind it, and the parameters where the parentheses
balance for the first time. So a group behind a module and a name is found whatever follows it,
and what is put together from the parts of a name has the same parts. -/
theorem taken_apart :
    (∀ (qualified : String) (parts : FunctionBreakpoint),
      ofName qualified = parts ↔ Parts qualified parts) ∧
    (∀ module name params tail : String, '!' ∉ module.toList → '(' ∉ name.toList →
      IsGroup params.toList →
      ofName (module ++ "!" ++ name ++ params ++ tail) = { module, name, params }) ∧
    ∀ qualified : String,
      let parts := ofName qualified
      ofName (parts.module ++ "!" ++ parts.name ++ parts.params) = parts := by
  refine ⟨fun qualified parts => ofName_eq_iff, ?_, ?_⟩
  · intro module name params tail hmodule hname hgroup
    rw [ofName_eq_iff]
    obtain ⟨others, hopens⟩ : ∃ others, params.toList = '(' :: others := by
      have hhead := hgroup.opens
      cases hparams : params.toList with
      | nil => simp [hparams] at hhead
      | cons c others => exact ⟨others, by simpa [hparams] using hhead⟩
    have hfirst := hgroup.isFirst tail.toList
    have hcut : ParamsCut (name.toList ++ (params.toList ++ tail.toList)) name.toList
        params.toList := by
      rw [hopens] at hfirst ⊢
      exact .grouped hname hfirst
    apply parts_of_cuts hmodule hcut
    simp [String.toList_append]
  · intro qualified parts
    rw [ofName_eq_iff]
    obtain ⟨⟨rest, hmodule, hparams⟩, hcondition⟩ := parts_ofName qualified
    have hparts : Parts (parts.module ++ "!" ++ parts.name ++ parts.params)
        { module := parts.module, name := parts.name, params := parts.params } := by
      apply parts_of_cuts hmodule.not_mem hparams.rejoin
      simp [String.toList_append, parts]
    exact hparts

/-- Groups inside a group, and marks and parentheses where they mean nothing. -/
theorem taken_apart_nested_group :
    '!' ∉ "libc".toList ∧ '(' ∉ "run!)".toList ∧ IsGroup "(map(a,b)!é)".toList ∧
    ofName ("libc" ++ "!" ++ "run!)" ++ "(map(a,b)!é)" ++ ")(x") =
      { module := "libc", name := "run!)", params := "(map(a,b)!é)" } := by
  have hmodule : '!' ∉ "libc".toList := by decide
  have hname : '(' ∉ "run!)".toList := by decide
  have hgroup : IsGroup "(map(a,b)!é)".toList := by decide
  exact ⟨hmodule, hname, hgroup, taken_apart.2.1 "libc" "run!)" "(map(a,b)!é)" ")(x" hmodule hname
    hgroup⟩

end DebugAdapter.FunctionBreakpoint
