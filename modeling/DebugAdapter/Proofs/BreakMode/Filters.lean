import DebugAdapter.Proofs.Adapter.Call
import DebugAdapter.Proofs.Arguments.Kind
import Mathlib.Data.List.DropRight

/-!
# The mode that filter words choose

All that the order of filter words decides is which of them stand: those behind the last word that
discards the ones before it.
-/

namespace DebugAdapter

namespace BreakMode

/-! ## Modes by their flags -/

/-- The union of the flags that are named. -/
def ofFlags (unhandled? all? userUnhandled? : Bool) : BreakMode :=
  ((if unhandled? then unhandled else never).insert (if all? then all else never)).insert
    (if userUnhandled? then userUnhandled else never)

section Flags

variable (u a l : Bool)

theorem ofFlags_insert_all : (ofFlags u a l).insert all = ofFlags u true l := by
  cases u <;> cases a <;> cases l <;> rfl

theorem ofFlags_insert_userUnhandled :
    (ofFlags u a l).insert userUnhandled = ofFlags u a true := by
  cases u <;> cases a <;> cases l <;> rfl

/-- There is a word for every mode, and it is the one for the flag that matters most. -/
theorem keyword?_ofFlags :
    (ofFlags u a l).keyword? =
      some (if a then "always" else if l then "userUnhandled" else if u then "unhandled"
        else "never") := by
  cases u <;> cases a <;> cases l <;> rfl

end Flags

/-! ## Words that stand -/

/-- The words behind the last one that discards those before it; all words if there is none. -/
def standing (filters : List String) : List String :=
  filters.rtakeWhile (· ≠ "never")

theorem standing_concat_never (filters : List String) : standing (filters ++ ["never"]) = [] :=
  List.rtakeWhile_concat_neg _ _ _ (by simp)

theorem standing_concat {word : String} (h : word ≠ "never") (filters : List String) :
    standing (filters ++ [word]) = standing filters ++ [word] :=
  List.rtakeWhile_concat_pos _ _ _ (by simpa using h)

theorem standing_append {words : List String} (h : "never" ∉ words) (front : List String) :
    standing (front ++ words) = standing front ++ words := by
  induction words using List.reverseRecOn with
  | nil => rw [List.append_nil, List.append_nil]
  | append_singleton words word ih =>
    obtain ⟨hwords, hword⟩ : "never" ∉ words ∧ word ≠ "never" := by
      simpa [eq_comm] using h
    rw [← List.append_assoc, standing_concat hword, ih hwords, List.append_assoc]

/-- The flags that filter words ask for: the one to begin with if no word discards it, and those of
the words that stand. -/
def asked (filters : List String) : BreakMode :=
  ofFlags ("never" ∉ filters)
    ("all" ∈ standing filters ∨ "always" ∈ standing filters)
    ("userUnhandled" ∈ standing filters ∨ "user-unhandled" ∈ standing filters)

/-! ## One word more -/

theorem ofFilters_concat (filters : List String) (word : String) :
    ofFilters (filters ++ [word]) = (ofFilters filters).filtered word := by
  rw [ofFilters, ofFilters, List.foldl_append, List.foldl_cons, List.foldl_nil]

theorem mem_or_mem_concat {words : List String} {word one other : String} :
    (one ∈ words ++ [word] ∨ other ∈ words ++ [word]) ↔
      (one ∈ words ∨ other ∈ words) ∨ (word = one ∨ word = other) := by
  simp only [List.mem_append, List.mem_singleton, eq_comm (a := word), or_or_or_comm]

theorem asked_concat_never (filters : List String) : asked (filters ++ ["never"]) = never := by
  rw [asked, standing_concat_never]
  simp only [List.not_mem_nil, or_self, List.mem_append, List.mem_singleton, or_true, not_true]
  rfl

theorem asked_concat {word : String} (h : word ≠ "never") (filters : List String) :
    asked (filters ++ [word]) =
      ofFlags ("never" ∉ filters)
        (("all" ∈ standing filters ∨ "always" ∈ standing filters) ∨
          (word = "all" ∨ word = "always"))
        (("userUnhandled" ∈ standing filters ∨ "user-unhandled" ∈ standing filters) ∨
          (word = "userUnhandled" ∨ word = "user-unhandled")) := by
  have hbegin : "never" ∉ filters ++ [word] ↔ "never" ∉ filters := by
    rw [List.mem_append, List.mem_singleton, or_iff_left (Ne.symm h)]
  simp only [asked, standing_concat h, mem_or_mem_concat, hbegin]

/-- The flags that are asked for follow the words one by one. -/
theorem asked_concat_eq_filtered (filters : List String) (word : String) :
    asked (filters ++ [word]) = (asked filters).filtered word := by
  by_cases hnever : word = "never"
  · subst hnever
    rw [asked_concat_never, filtered, if_neg (by decide), if_neg (by decide), if_pos rfl]
  rw [asked_concat hnever, filtered]
  by_cases hall : word = "all" ∨ word = "always"
  · have hother : ¬(word = "userUnhandled" ∨ word = "user-unhandled") := by
      rcases hall with rfl | rfl <;> decide
    rw [if_pos hall, asked, ofFlags_insert_all]
    simp only [hall, hother, or_true, or_false, decide_true]
  by_cases huser : word = "userUnhandled" ∨ word = "user-unhandled"
  · rw [if_neg hall, if_pos huser, asked, ofFlags_insert_userUnhandled]
    simp only [hall, huser, or_true, or_false, decide_true]
  · rw [if_neg hall, if_neg huser, if_neg hnever, asked]
    simp only [hall, huser, or_false]

/-- Filter words choose the mode with the flags that they ask for. -/
theorem ofFilters_eq_asked (filters : List String) : ofFilters filters = asked filters := by
  induction filters using List.reverseRecOn with
  | nil => rfl
  | append_singleton filters word ih =>
    rw [ofFilters_concat, ih, asked_concat_eq_filtered]

/-! ## Words that make no difference -/

/-- Of the words at the end it only matters which there are. -/
theorem asked_append_congr {words words' : List String} (h : "never" ∉ words)
    (hsame : ∀ word, word ∈ words' ↔ word ∈ words) (front : List String) :
    asked (front ++ words') = asked (front ++ words) := by
  have h' : "never" ∉ words' := by rwa [hsame]
  simp only [asked, standing_append h, standing_append h', List.mem_append, hsame]

/-- A word that is none of those with a meaning. -/
def IsIdle (word : String) : Prop :=
  word ∉ ["all", "always", "userUnhandled", "user-unhandled", "never"]

instance (word : String) : Decidable (IsIdle word) :=
  inferInstanceAs (Decidable (¬ _))

theorem IsIdle.filtered {word : String} (h : IsIdle word) (mode : BreakMode) :
    mode.filtered word = mode := by
  obtain ⟨hall, halways, huser, huser', hnever⟩ :
      word ≠ "all" ∧ word ≠ "always" ∧ word ≠ "userUnhandled" ∧ word ≠ "user-unhandled" ∧
        word ≠ "never" := by
    simpa [IsIdle] using h
  rw [BreakMode.filtered, if_neg (by simp [hall, halways]), if_neg (by simp [huser, huser']),
    if_neg hnever]

theorem ofFilters_idle {word : String} (h : IsIdle word) (front back : List String) :
    ofFilters (front ++ word :: back) = ofFilters (front ++ back) := by
  rw [ofFilters, ofFilters, List.foldl_append, List.foldl_append, List.foldl_cons, h.filtered]

/-! ## The word for the mode -/

/-- The word for a mode that can be chosen chooses a mode with the same word. -/
theorem exists_keyword?_ofFilters (filters : List String) :
    ∃ keyword, (ofFilters filters).keyword? = some keyword ∧
      (ofFilters [keyword]).keyword? = some keyword := by
  rw [ofFilters_eq_asked, asked, keyword?_ofFlags]
  refine ⟨_, rfl, ?_⟩
  split
  · rfl
  split
  · rfl
  split
  · rfl
  · rfl

/-! ## The mode that the debugger is given -/

variable {σ : Type}

theorem action_setExceptionBreakpoints {arguments : Json} {filters : List String}
    (h : arguments.field? "filters" = some (.ofStrings filters)) (settings : LaunchSettings)
    (currentFrame : Int64) :
    Command.setExceptionBreakpoints.action settings currentFrame ⟨arguments⟩ = .ok {
      operation := .insertExceptionBreakpoint (ofFilters filters) "*"
      body := fun outcome => outcome.map fun () =>
        .ofFields [("supportsExceptionOptions", .bool false)] } := by
  have hget : Arguments.get? ⟨arguments⟩ "filters" = some (.ofStrings filters) :=
    Arguments.get?_of_field? h nofun
  have hfilters : Arguments.stringsOrEmpty ⟨arguments⟩ "filters" = .ok filters :=
    (Arguments.default_eq_ok Json.isView_asStrings?).2 (by rw [hget, Option.getD_some])
  rw [Command.action, hfilters]
  rfl

/-- Filter words choose a mode by which of them stand: it begins with unhandled exceptions unless a
word discards that, and it has the flags of the words behind the last one that discards those
before it. So their order and how often they are there make no difference, and neither does any
word without a meaning, wherever it stands. There is a word for every such mode, and it chooses a
mode with the same word. The debugger is given this mode, once and everywhere. -/
theorem chosen_by_filters (debugger : Debugger σ) (settings : LaunchSettings)
    (adapter : Adapter σ) :
    (∀ filters, ofFilters filters = asked filters) ∧
    (∀ front words words' : List String, "never" ∉ words →
      (∀ word, word ∈ words' ↔ word ∈ words) →
      ofFilters (front ++ words') = ofFilters (front ++ words)) ∧
    (∀ (front back : List String) (word : String), IsIdle word →
      ofFilters (front ++ word :: back) = ofFilters (front ++ back)) ∧
    (∀ filters, ∃ keyword, (ofFilters filters).keyword? = some keyword ∧
      (ofFilters [keyword]).keyword? = some keyword) ∧
    ∀ (arguments : Json) (filters : List String),
      arguments.field? "filters" = some (.ofStrings filters) →
      adapter.Performs debugger (.insertExceptionBreakpoint (asked filters) "*")
        (fun outcome => outcome.map fun () => .object [("supportsExceptionOptions", .bool false)])
        (adapter.dispatch debugger settings "setExceptionBreakpoints" arguments) := by
  refine ⟨ofFilters_eq_asked, ?_, ?_, exists_keyword?_ofFilters, ?_⟩
  · intro front words words' hnever hsame
    rw [ofFilters_eq_asked, ofFilters_eq_asked, asked_append_congr hnever hsame]
  · intro front back word hidle
    exact ofFilters_idle hidle front back
  · intro arguments filters hfilters
    rw [← ofFilters_eq_asked]
    exact Adapter.performs_dispatch .setExceptionBreakpoints
      (action_setExceptionBreakpoints hfilters settings _)

/-- Words behind one that discards, in another order and repeated, with one that is not known. -/
theorem chosen_by_filters_repeated :
    let adapter : Adapter Unit := { channel := {}, debugger := () }
    let front := ["all", "never"]
    let words := ["user-unhandled", "always"]
    let words' := ["always", "user-unhandled", "always"]
    let filters := front ++ "bogus" :: words'
    let arguments : Json := .object [("filters", .ofStrings filters)]
    "never" ∉ words ∧ (∀ word, word ∈ words' ↔ word ∈ words) ∧ IsIdle "bogus" ∧
      arguments.field? "filters" = some (.ofStrings filters) ∧
      ofFilters (front ++ words') = ofFilters (front ++ words) ∧
      ofFilters filters = ofFilters (front ++ words') ∧
      adapter.Performs (.unable .notImplemented) (.insertExceptionBreakpoint ⟨3⟩ "*")
        (fun outcome => outcome.map fun () => .object [("supportsExceptionOptions", .bool false)])
        (adapter.dispatch (.unable .notImplemented) {} "setExceptionBreakpoints" arguments) := by
  intro adapter front words words' filters arguments
  have hnever : "never" ∉ words := by decide
  have hsame : ∀ word, word ∈ words' ↔ word ∈ words := by
    intro word
    simp only [words, words', List.mem_cons, List.not_mem_nil, or_false]
    tauto
  have hidle : IsIdle "bogus" := by decide
  have hfilters : arguments.field? "filters" = some (.ofStrings filters) := rfl
  have hasked : asked filters = ⟨3⟩ := by decide
  obtain ⟨-, hwords, hbogus, -, hperforms⟩ :=
    chosen_by_filters (.unable .notImplemented) {} adapter
  refine ⟨hnever, hsame, hidle, hfilters, hwords front words words' hnever hsame,
    hbogus front words' "bogus" hidle, ?_⟩
  rw [← hasked]
  exact hperforms arguments filters hfilters

end BreakMode

end DebugAdapter
