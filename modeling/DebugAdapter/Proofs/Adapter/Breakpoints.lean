import DebugAdapter.Proofs.Adapter.Call
import DebugAdapter.Proofs.Arguments.Kind

/-!
# Lists of breakpoints

Breakpoints are asked for in a list with an entry for each of them. The debugger is given all of
them, in order, or nothing happens and the client is told what is wrong with the first entry that is
not acceptable.
-/

namespace DebugAdapter

/-! ## Single entries -/

/-- The form of entries in a list of breakpoints: the field that says where a breakpoint is, the
data that it is made of, and the breakpoint with a condition. -/
structure EntryForm (α β : Type) where
  key : String
  kind : ArgumentKind
  view : Json → Option α
  make : α → Json
  isView : IsView view make
  breakpoint : α → (condition : String) → β

namespace EntryForm

/-- Breakpoints at lines of a source. -/
def line : EntryForm Int64 SourceBreakpoint where
  key := "line"
  kind := .integer
  view := Json.asInt64?
  make := .ofInt64
  isView := Json.isView_asInt64?
  breakpoint line condition := { line, condition }

/-- Breakpoints on functions. -/
def function : EntryForm String FunctionBreakpoint where
  key := "name"
  kind := .string
  view := Json.asString?
  make := .string
  isView := Json.isView_asString?
  breakpoint name condition := { FunctionBreakpoint.ofName name with condition }

variable {α β : Type} (form : EntryForm α β)

/-- The breakpoint that an entry gives. Without a condition it has an empty one. -/
inductive Gives (entry : Json) : β → Prop where
  | intro {place : α} {condition : String}
      (place_eq : Arguments.get? ⟨entry⟩ form.key = some (form.make place))
      (condition_eq :
        (Arguments.get? ⟨entry⟩ "condition").getD (.string "") = .string condition) :
      Gives entry (form.breakpoint place condition)

/-- An entry that gives a breakpoint. -/
def Valid (entry : Json) : Prop :=
  ∃ breakpoint, form.Gives entry breakpoint

/-- What is wrong with an entry. Something can be wrong with its condition only if its place is
acceptable. -/
inductive Fault (entry : Json) : ArgumentError → Prop where
  | missing (absent : Arguments.get? ⟨entry⟩ form.key = none) : Fault entry (.missing form.key)
  | place {found : Json} (given : Arguments.get? ⟨entry⟩ form.key = some found)
      (unfit : ∀ place, found ≠ form.make place) :
      Fault entry (.mismatch form.key form.kind found)
  | condition {place : α} {found : Json}
      (place_eq : Arguments.get? ⟨entry⟩ form.key = some (form.make place))
      (given : Arguments.get? ⟨entry⟩ "condition" = some found)
      (unfit : ∀ text, found ≠ .string text) :
      Fault entry (.mismatch "condition" .string found)

/-- What is read of an entry: first its place, then its condition. -/
def read (entry : Json) : Except ArgumentError β := do
  let place ← Arguments.required ⟨entry⟩ form.key form.kind form.view
  let condition ← Arguments.stringD ⟨entry⟩ "condition" ""
  pure (form.breakpoint place condition)

theorem read_line : line.read = Command.sourceBreakpoint :=
  rfl

theorem read_function : function.read = Command.functionBreakpoint :=
  rfl

variable {form} {entry : Json}

theorem condition_eq_ok {condition : String} :
    Arguments.stringD ⟨entry⟩ "condition" "" = .ok condition ↔
      (Arguments.get? ⟨entry⟩ "condition").getD (.string "") = .string condition :=
  Arguments.default_eq_ok Json.isView_asString?

theorem condition_eq_error {error : ArgumentError} :
    Arguments.stringD ⟨entry⟩ "condition" "" = .error error ↔
      ∃ found, Arguments.get? ⟨entry⟩ "condition" = some found ∧ (∀ text, found ≠ .string text) ∧
        error = .mismatch "condition" .string found :=
  Arguments.default_eq_error Json.isView_asString?

theorem read_eq_ok {breakpoint : β} :
    form.read entry = .ok breakpoint ↔ form.Gives entry breakpoint := by
  constructor
  · intro h
    obtain ⟨place, hplace, h⟩ := exists_of_bind_eq_ok h
    obtain ⟨condition, hcondition, h⟩ := exists_of_bind_eq_ok h
    cases h
    exact .intro ((Arguments.required_eq_ok form.isView).1 hplace) (condition_eq_ok.1 hcondition)
  · rintro ⟨place_eq, condition_eq⟩
    rw [read, (Arguments.required_eq_ok form.isView).2 place_eq, condition_eq_ok.2 condition_eq]
    rfl

theorem fault_of_read {error : ArgumentError} (h : form.read entry = .error error) :
    form.Fault entry error := by
  rcases bind_eq_error.1 h with hplace | ⟨place, hplace, h⟩
  · rcases (Arguments.required_eq_error form.isView).1 hplace with
      ⟨absent, rfl⟩ | ⟨found, given, unfit, rfl⟩
    · exact .missing absent
    · exact .place given unfit
  rcases bind_eq_error.1 h with hcondition | ⟨condition, -, h⟩
  · obtain ⟨found, given, unfit, rfl⟩ := condition_eq_error.1 hcondition
    exact .condition ((Arguments.required_eq_ok form.isView).1 hplace) given unfit
  · cases h

theorem read_of_fault {error : ArgumentError} (h : form.Fault entry error) :
    form.read entry = .error error := by
  cases h with
  | missing absent =>
    rw [read, (Arguments.required_eq_error form.isView).2 (.inl ⟨absent, rfl⟩)]
    rfl
  | place given unfit =>
    rw [read, (Arguments.required_eq_error form.isView).2 (.inr ⟨_, given, unfit, rfl⟩)]
    rfl
  | condition place_eq given unfit =>
    rw [read, (Arguments.required_eq_ok form.isView).2 place_eq,
      condition_eq_error.2 ⟨_, given, unfit, rfl⟩]
    rfl

theorem read_eq_error {error : ArgumentError} :
    form.read entry = .error error ↔ form.Fault entry error :=
  ⟨fault_of_read, read_of_fault⟩

theorem valid_iff : form.Valid entry ↔ ∃ breakpoint, form.read entry = .ok breakpoint := by
  simp only [Valid, read_eq_ok]

/-! ## Lists of entries -/

/-- What becomes of a list of entries, if `carried` says what happens with their breakpoints and
`refused` what happens with a fault. All entries count if all are valid, and otherwise only the
first one that is not. -/
structure AllOrNone (form : EntryForm α β) (entries : List Json) (carried : List β → Prop)
    (refused : ArgumentError → Prop) : Prop where
  all : (∀ entry ∈ entries, form.Valid entry) →
    ∃ breakpoints,
      (∀ others, List.Forall₂ form.Gives entries others ↔ others = breakpoints) ∧
      carried breakpoints
  none : (∃ entry ∈ entries, ¬ form.Valid entry) →
    ∃ front entry back error, entries = front ++ entry :: back ∧
      (∀ other ∈ front, form.Valid other) ∧ (∀ other, form.Fault entry other ↔ other = error) ∧
      refused error

theorem allOrNone {entries : List Json} {carried : List β → Prop} {refused : ArgumentError → Prop}
    (hcarried : ∀ breakpoints, entries.mapM form.read = .ok breakpoints → carried breakpoints)
    (hrefused : ∀ error, entries.mapM form.read = .error error → refused error) :
    form.AllOrNone entries carried refused := by
  have hgives {breakpoints : List β} :
      entries.mapM form.read = .ok breakpoints ↔ List.Forall₂ form.Gives entries breakpoints := by
    simp only [mapM_eq_ok, read_eq_ok]
  cases hread : entries.mapM form.read with
  | ok breakpoints =>
    have hgiven : List.Forall₂ form.Gives entries breakpoints := hgives.1 hread
    have hvalid : ∀ entry ∈ entries, form.Valid entry := by
      have hboth := hgiven.imp fun entry breakpoint h =>
        (⟨⟨breakpoint, h⟩, h⟩ : form.Valid entry ∧ form.Gives entry breakpoint)
      exact ((List.forall₂_and_left _ _).1 hboth).1
    refine ⟨fun _ => ⟨breakpoints, fun others => ?_, hcarried breakpoints hread⟩, ?_⟩
    · rw [← hgives, hread, Except.ok.injEq, eq_comm]
    · rintro ⟨entry, hentry, hinvalid⟩
      exact absurd (hvalid entry hentry) hinvalid
  | error error =>
    obtain ⟨front, entry, back, rfl, hfront, hentry⟩ := exists_of_mapM_eq_error hread
    refine ⟨fun hvalid => ?_, fun _ => ⟨front, entry, back, error, rfl, ?_, fun other => ?_,
      hrefused error hread⟩⟩
    · obtain ⟨breakpoint, hbreakpoint⟩ := valid_iff.1 (hvalid entry (by simp))
      rw [hentry] at hbreakpoint
      cases hbreakpoint
    · intro other hother
      exact valid_iff.2 (hfront other hother)
    · rw [← read_eq_error, hentry, Except.error.injEq, eq_comm]

end EntryForm

namespace Command

/-! ## The commands -/

theorem array_breakpoints {arguments : Json} {entries : List Json}
    (h : arguments.field? "breakpoints" = some (.array entries)) :
    Arguments.array ⟨arguments⟩ "breakpoints" = .ok entries :=
  (Arguments.required_eq_ok Json.isView_asArray?).2 (Arguments.get?_of_field? h nofun)

theorem object_source {arguments source value : Json} {name : String}
    (hsource : arguments.field? "source" = some source) (hfield : source.field? name = some value) :
    Arguments.object ⟨arguments⟩ "source" = .ok ⟨source⟩ := by
  cases source with
  | object fields =>
    have hobject : Json.object fields ≠ .null := by simp
    rw [Arguments.object, Arguments.required, Arguments.get?_of_field? hsource hobject]
    rfl
  | _ => cases hfield

theorem breakpointsAction_of_entries {arguments source : Json} {path : String}
    {entries : List Json} (hsource : arguments.field? "source" = some source)
    (hpath : source.field? "path" = some (.string path))
    (hentries : arguments.field? "breakpoints" = some (.array entries)) :
    breakpointsAction ⟨arguments⟩ = (do
      let requested ← entries.mapM EntryForm.line.read
      pure {
        operation := .setBreakpoints path requested
        body := fun outcome => outcome.map breakpointsBody }) := by
  have hobject : Arguments.object ⟨arguments⟩ "source" = .ok ⟨source⟩ :=
    object_source hsource hpath
  have hstring : Arguments.string ⟨source⟩ "path" = .ok path :=
    (Arguments.required_eq_ok Json.isView_asString?).2 (Arguments.get?_of_field? hpath nofun)
  rw [breakpointsAction, hobject, array_breakpoints hentries, EntryForm.read_line]
  simp only [bind, Except.bind, hstring]

theorem functionBreakpointsAction_of_entries {arguments : Json} {entries : List Json}
    (hentries : arguments.field? "breakpoints" = some (.array entries)) :
    functionBreakpointsAction ⟨arguments⟩ = (do
      let requested ← entries.mapM EntryForm.function.read
      pure {
        operation := .setFunctionBreakpoints requested
        body := fun outcome => outcome.map breakpointsBody }) := by
  rw [functionBreakpointsAction, array_breakpoints hentries, EntryForm.read_function]
  rfl

end Command

namespace Adapter

variable {σ : Type}

/-- A list of breakpoints is taken entry by entry. If every entry gives a breakpoint, the debugger
is asked for all of them in the order of the entries, and for nothing else, and the client is told
which breakpoints there are in the order in which the debugger tells it. Otherwise nothing happens,
and the client is told what is wrong with the first entry that gives none, whatever stands behind
it. -/
theorem breakpoints_all_or_none (debugger : Debugger σ) (settings : LaunchSettings)
    (adapter : Adapter σ) (arguments : Json) (entries : List Json)
    (hentries : arguments.field? "breakpoints" = some (.array entries)) :
    (∀ (source : Json) (path : String), arguments.field? "source" = some source →
      source.field? "path" = some (.string path) →
      let dispatched := adapter.dispatch debugger settings "setBreakpoints" arguments
      EntryForm.line.AllOrNone entries
        (fun requested => adapter.Performs debugger (.setBreakpoints path requested)
          (fun outcome => outcome.map fun breakpoints =>
            .object [("breakpoints", .array (breakpoints.map Breakpoint.toJson))]) dispatched)
        (fun error => dispatched = (adapter, [], .error error.toFailure))) ∧
    let dispatched := adapter.dispatch debugger settings "setFunctionBreakpoints" arguments
    EntryForm.function.AllOrNone entries
      (fun requested => adapter.Performs debugger (.setFunctionBreakpoints requested)
        (fun outcome => outcome.map fun breakpoints =>
          .object [("breakpoints", .array (breakpoints.map Breakpoint.toJson))]) dispatched)
      (fun error => dispatched = (adapter, [], .error error.toFailure)) := by
  refine ⟨?_, ?_⟩
  · intro source path hsource hpath dispatched
    have haction := Command.breakpointsAction_of_entries hsource hpath hentries
    apply EntryForm.allOrNone
    · intro requested hread
      rw [hread] at haction
      exact performs_dispatch .setBreakpoints haction
    · intro error hread
      rw [hread] at haction
      exact dispatch_of_error .setBreakpoints haction
  · intro dispatched
    have haction := Command.functionBreakpointsAction_of_entries hentries
    apply EntryForm.allOrNone
    · intro requested hread
      rw [hread] at haction
      exact performs_dispatch .setFunctionBreakpoints haction
    · intro error hread
      rw [hread] at haction
      exact dispatch_of_error .setFunctionBreakpoints haction

/-- Two entries with a line each, of which the second names no function. -/
theorem breakpoints_all_or_none_mixed :
    let adapter : Adapter Unit := { channel := {}, debugger := () }
    let debugger := Debugger.unable .notImplemented
    let first : Json := .object [("line", .int 3), ("name", .string "f")]
    let second : Json := .object [("condition", .string "x > 0"), ("line", .int 1)]
    let source : Json := .object [("path", .string "a.c")]
    let arguments : Json := .object [("breakpoints", .array [first, second]), ("source", source)]
    arguments.field? "breakpoints" = some (.array [first, second]) ∧
      arguments.field? "source" = some source ∧ source.field? "path" = some (.string "a.c") ∧
      adapter.Performs debugger
        (.setBreakpoints "a.c" [{ line := 3, condition := "" }, { line := 1, condition := "x > 0" }])
        (fun outcome => outcome.map fun breakpoints =>
          .object [("breakpoints", .array (breakpoints.map Breakpoint.toJson))])
        (adapter.dispatch debugger {} "setBreakpoints" arguments) ∧
      adapter.dispatch debugger {} "setFunctionBreakpoints" arguments =
        (adapter, [], .error (ArgumentError.missing "name").toFailure) := by
  intro adapter debugger first second source arguments
  have hentries : arguments.field? "breakpoints" = some (.array [first, second]) := rfl
  have hsource : arguments.field? "source" = some source := rfl
  have hpath : source.field? "path" = some (.string "a.c") := rfl
  obtain ⟨hlines, hfunctions⟩ :=
    breakpoints_all_or_none debugger {} adapter arguments [first, second] hentries
  refine ⟨hentries, hsource, hpath, ?_, ?_⟩
  · have hfirst : EntryForm.line.Gives first { line := 3, condition := "" } := .intro rfl rfl
    have hsecond : EntryForm.line.Gives second { line := 1, condition := "x > 0" } :=
      .intro rfl rfl
    have hvalid : ∀ entry ∈ [first, second], EntryForm.line.Valid entry :=
      List.forall_mem_cons.2 ⟨⟨_, hfirst⟩, List.forall_mem_singleton.2 ⟨_, hsecond⟩⟩
    obtain ⟨requested, honly, hperforms⟩ := (hlines source "a.c" hsource hpath).all hvalid
    obtain rfl := (honly _).1 (.cons hfirst (.cons hsecond .nil))
    exact hperforms
  · have hfirst : EntryForm.function.read first = .ok { name := "f" } := by decide
    have hsecond : EntryForm.function.Fault second (.missing "name") := .missing rfl
    have hinvalid : ¬ EntryForm.function.Valid second := by
      rintro ⟨breakpoint, hgives⟩
      have hread := EntryForm.read_eq_ok.2 hgives
      rw [EntryForm.read_of_fault hsecond] at hread
      cases hread
    obtain ⟨front, entry, back, error, hsplit, -, hfault, hrefused⟩ :=
      hfunctions.none ⟨second, by simp, hinvalid⟩
    -- the first entry is acceptable, so it is the second one that counts
    match front with
    | [] =>
      obtain ⟨rfl, -⟩ := List.cons.inj hsplit
      have hread := EntryForm.read_of_fault ((hfault error).2 rfl)
      rw [hfirst] at hread
      cases hread
    | [_] =>
      obtain ⟨rfl, -⟩ := List.cons.inj (List.cons.inj hsplit).2
      obtain rfl := (hfault _).1 hsecond
      exact hrefused
    | _ :: _ :: _ => simp at hsplit

end Adapter

end DebugAdapter
