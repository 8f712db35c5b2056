import DebugAdapter.Proofs.Adapter.Call
import DebugAdapter.Proofs.Adapter.Sight
import DebugAdapter.Proofs.Arguments.Kind

/-!
# Programs that are launched

What is launched follows from the arguments and from the user's settings. Something may be wrong
with the environment, and then there is none.
-/

namespace DebugAdapter

/-! ## What is asked for -/

/-- Texts with names as an object of strings. -/
def Json.ofTexts (texts : List (String × String)) : Json :=
  .object (texts.map fun (name, text) => (name, .string text))

/-- What is wrong with the arguments of a command to launch a program. -/
inductive LaunchFlaw (settings : LaunchSettings) (args : Arguments) : Prop where
  | workingDirectory (unfit : ∀ text, args.get? "cwd" ≠ some (.string text))
  | stopAtEntry {found : Json} (given : args.get? "stopAtEntry" = some found)
      (unfit : ∀ b, found ≠ .bool b)
  | program (free : settings.execOverride = none)
      (unfit : ∀ text, args.get? "program" ≠ some (.string text))
  | arguments {found : Json} (free : settings.execOverride = none)
      (given : args.get? "args" = some found) (unfit : ∀ texts, found ≠ .ofStrings texts)

namespace LaunchRequest

/-- The environment of a program: the client's if it is an object of strings, and none otherwise. -/
inductive IsEnvironment : (found : Option Json) → List (String × String) → Prop where
  | given (texts : List (String × String)) : IsEnvironment (some (.ofTexts texts)) texts
  | none {found : Option Json} (unfit : ∀ texts, found ≠ some (.ofTexts texts)) :
      IsEnvironment found []

/-- What runs, and its arguments: what the user has fixed, or else the client's program, either by
itself or by the launcher, with its name in front of its arguments. -/
inductive IsProgram (settings : LaunchSettings) (args : Arguments) :
    (executable : String) → (arguments : List String) → Prop where
  | fixed {exec : ExecOverride} (fixed : settings.execOverride = some exec) :
      IsProgram settings args exec.program exec.args
  | free {program : String} {others : List String} (free : settings.execOverride = none)
      (program_eq : args.get? "program" = some (.string program))
      (others_eq : (args.get? "args").getD (.ofStrings []) = .ofStrings others) :
      IsProgram settings args (settings.launcher.getD program) (program :: others)

/-- What is to be launched, by the user's settings and the arguments of the command. -/
structure AskedBy (settings : LaunchSettings) (args : Arguments) (request : LaunchRequest) :
    Prop where
  workingDirectory : args.get? "cwd" = some (.string request.workingDirectory)
  environment : IsEnvironment (args.get? "env") request.environment
  /-- The program runs on if nothing is said. -/
  stopAtEntry : (args.get? "stopAtEntry").getD (.bool false) = .bool request.stopAtEntry
  program : IsProgram settings args request.executable request.arguments

variable {settings : LaunchSettings} {args : Arguments} {request : LaunchRequest}

theorem IsProgram.of_free {executable : String} {arguments : List String}
    (h : IsProgram settings args executable arguments) (free : settings.execOverride = none) :
    ∃ program others, args.get? "program" = some (.string program) ∧
      (args.get? "args").getD (.ofStrings []) = .ofStrings others := by
  cases h with
  | fixed fixed =>
    rw [free] at fixed
    cases fixed
  | free _ program_eq others_eq => exact ⟨_, _, program_eq, others_eq⟩

theorem AskedBy.not_flaw (h : request.AskedBy settings args) : ¬ LaunchFlaw settings args := by
  rintro (unfit | ⟨given, unfit⟩ | ⟨free, unfit⟩ | ⟨free, given, unfit⟩)
  · exact unfit _ h.workingDirectory
  · have hstop := h.stopAtEntry
    rw [given, Option.getD_some] at hstop
    exact unfit _ hstop
  · obtain ⟨program, -, hprogram, -⟩ := h.program.of_free free
    exact unfit program hprogram
  · obtain ⟨-, others, -, hothers⟩ := h.program.of_free free
    rw [given, Option.getD_some] at hothers
    exact unfit others hothers

/-- A field with a default has data if it is not there, or is and is made of them. -/
theorem exists_getD_eq {α : Type} (make : α → Json) (default : α) {field : Option Json}
    (h : ∀ found, field = some found → ¬ ∀ data, found ≠ make data) :
    ∃ data, field.getD (make default) = make data := by
  cases field with
  | none => exact ⟨default, rfl⟩
  | some found => simpa using h found rfl

theorem exists_isEnvironment (found : Option Json) :
    ∃ environment, IsEnvironment found environment := by
  by_cases h : ∃ texts, found = some (.ofTexts texts)
  · obtain ⟨texts, rfl⟩ := h
    exact ⟨texts, .given texts⟩
  · exact ⟨[], .none fun texts htexts => h ⟨texts, htexts⟩⟩

theorem exists_isProgram (h : ¬ LaunchFlaw settings args) :
    ∃ executable arguments, IsProgram settings args executable arguments := by
  cases hexec : settings.execOverride with
  | some exec => exact ⟨_, _, .fixed hexec⟩
  | none =>
    obtain ⟨program, hprogram⟩ : ∃ text, args.get? "program" = some (.string text) := by
      by_contra hnone
      exact h (.program hexec fun text htext => hnone ⟨text, htext⟩)
    obtain ⟨others, hothers⟩ := exists_getD_eq Json.ofStrings []
      fun found hfound unfit => h (.arguments hexec hfound unfit)
    exact ⟨_, _, .free hexec hprogram hothers⟩

/-- If nothing is wrong with the arguments, they say what is to be launched. -/
theorem exists_askedBy (h : ¬ LaunchFlaw settings args) :
    ∃ request : LaunchRequest, request.AskedBy settings args := by
  obtain ⟨workingDirectory, hcwd⟩ : ∃ text, args.get? "cwd" = some (.string text) := by
    by_contra hnone
    exact h (.workingDirectory fun text htext => hnone ⟨text, htext⟩)
  obtain ⟨stopAtEntry, hstop⟩ := exists_getD_eq Json.bool false
    fun found hfound unfit => h (.stopAtEntry hfound unfit)
  obtain ⟨environment, henvironment⟩ := exists_isEnvironment (args.get? "env")
  obtain ⟨executable, arguments, hprogram⟩ := exists_isProgram h
  exact ⟨{ executable, arguments, environment, workingDirectory, stopAtEntry },
    hcwd, henvironment, hstop, hprogram⟩

end LaunchRequest

namespace Command

open LaunchRequest

variable {settings : LaunchSettings} {args : Arguments}

/-! ## What is launched -/

theorem isView_environmentField :
    IsView environmentField fun (name, text) => (name, .string text) := by
  rintro ⟨name, value⟩ ⟨name', text⟩
  cases value <;> simp [environmentField]

theorem environment_ofTexts (texts : List (String × String)) :
    environment (some (.ofTexts texts)) = texts := by
  rw [Json.ofTexts, environment, isView_environmentField.mapM.view_make, Option.getD_some]

/-- An object with a value that is no string is no environment in part. -/
theorem environment_of_unfit {found : Option Json} (h : ∀ texts, found ≠ some (.ofTexts texts)) :
    environment found = [] := by
  rw [environment.eq_def]
  split
  next fields =>
    have hread : fields.mapM environmentField = none := by
      rw [isView_environmentField.mapM.eq_none]
      rintro texts rfl
      exact h texts rfl
    rw [hread, Option.getD_none]
  next => rfl

theorem environment_eq {found : Option Json} {texts : List (String × String)} :
    environment found = texts ↔ IsEnvironment found texts := by
  constructor
  · rintro rfl
    obtain ⟨texts, h⟩ := exists_isEnvironment found
    cases h with
    | given =>
      rw [environment_ofTexts]
      exact .given texts
    | none unfit =>
      rw [environment_of_unfit unfit]
      exact .none unfit
  · intro h
    cases h with
    | given => exact environment_ofTexts texts
    | none unfit => exact environment_of_unfit unfit

theorem programAndArguments_eq_ok {executable : String} {arguments : List String} :
    programAndArguments settings args = .ok (executable, arguments) ↔
      IsProgram settings args executable arguments := by
  have hprogram {text : String} :
      args.string "program" = .ok text ↔ args.get? "program" = some (.string text) :=
    Arguments.required_eq_ok Json.isView_asString?
  have hothers {texts : List String} : args.stringsOrEmpty "args" = .ok texts ↔
      (args.get? "args").getD (.ofStrings []) = .ofStrings texts :=
    Arguments.default_eq_ok Json.isView_asStrings?
  rw [programAndArguments.eq_def]
  constructor
  · intro h
    split at h
    next exec hexec =>
      cases h
      exact .fixed hexec
    next hexec =>
      obtain ⟨program, hnamed, h⟩ := exists_of_bind_eq_ok h
      obtain ⟨others, hfollowed, h⟩ := exists_of_bind_eq_ok h
      cases h
      exact .free hexec (hprogram.1 hnamed) (hothers.1 hfollowed)
  · intro h
    cases h with
    | fixed fixed => rw [fixed]
    | free free program_eq others_eq =>
      rw [free, hprogram.2 program_eq, hothers.2 others_eq]
      rfl

/-- What is launched is what is asked for. -/
theorem launchAction_eq_ok {action : Action} :
    launchAction settings args = .ok action ↔
      ∃ request : LaunchRequest, request.AskedBy settings args ∧
        action = { operation := .launch request, body := done } := by
  have hcwd {text : String} :
      args.string "cwd" = .ok text ↔ args.get? "cwd" = some (.string text) :=
    Arguments.required_eq_ok Json.isView_asString?
  have hstop {b : Bool} : (·.getD false) <$> args.bool? "stopAtEntry" = .ok b ↔
      (args.get? "stopAtEntry").getD (.bool false) = .bool b :=
    Arguments.default_eq_ok Json.isView_asBool?
  constructor
  · intro h
    obtain ⟨workingDirectory, hdirectory, h⟩ := exists_of_bind_eq_ok h
    obtain ⟨stop, hstopped, h⟩ := exists_of_bind_eq_ok h
    obtain ⟨⟨executable, arguments⟩, hprogram, h⟩ := exists_of_bind_eq_ok h
    cases h
    refine ⟨_, ⟨hcwd.1 hdirectory, environment_eq.1 rfl, hstop.1 ?_,
      programAndArguments_eq_ok.1 hprogram⟩, rfl⟩
    rw [hstopped]
    rfl
  · rintro ⟨⟨executable, arguments, environment, directory, stopAtEntry⟩,
      ⟨hdirectory, henvironment, hstopped, hprogram⟩, rfl⟩
    obtain ⟨stop, hsaid, rfl⟩ := exists_of_map_eq_ok (hstop.2 hstopped)
    rw [launchAction, hcwd.2 hdirectory, environment_eq.2 henvironment, hsaid,
      programAndArguments_eq_ok.2 hprogram]
    rfl

/-- If the user has fixed what runs, nothing depends on the client's program or the launcher. -/
theorem launchAction_congr {settings' : LaunchSettings} {args' : Arguments}
    (hfixed : settings.execOverride.isSome)
    (hsettings : settings'.execOverride = settings.execOverride)
    (hargs : ∀ name, name ≠ "program" → name ≠ "args" → args'.get? name = args.get? name) :
    launchAction settings' args' = launchAction settings args := by
  obtain ⟨exec, hexec⟩ := Option.isSome_iff_exists.1 hfixed
  have hcwd : args'.get? "cwd" = args.get? "cwd" := hargs "cwd" (by decide) (by decide)
  have hstop : args'.get? "stopAtEntry" = args.get? "stopAtEntry" :=
    hargs "stopAtEntry" (by decide) (by decide)
  have henv : args'.get? "env" = args.get? "env" := hargs "env" (by decide) (by decide)
  simp only [launchAction, programAndArguments, hsettings, hexec, Arguments.string,
    Arguments.bool?, Arguments.required_congr hcwd, Arguments.optional_congr hstop]
  rw [henv]

end Command

namespace Adapter

variable {σ : Type}

/-- A command to launch a program is refused, and nothing has happened, if and only if something is
wrong with its arguments. Otherwise there is one program to launch, with its arguments, directory
and environment, by what the user has fixed and what the client asks for. The debugger is asked to
launch it and for nothing else, and the client is told what this ends with. If the user has fixed
what runs, nothing depends on the program that the client names or on the launcher. -/
theorem launches_as_asked (debugger : Debugger σ) (settings : LaunchSettings)
    (adapter : Adapter σ) (arguments : Json) :
    let dispatched := adapter.dispatch debugger settings "launch" arguments
    ((∃ message, dispatched = (adapter, [], .error (.invalidArgument message))) ↔
      LaunchFlaw settings ⟨arguments⟩) ∧
    (¬ LaunchFlaw settings ⟨arguments⟩ →
      ∃ request : LaunchRequest,
        (∀ other : LaunchRequest, other.AskedBy settings ⟨arguments⟩ ↔ other = request) ∧
        adapter.Performs debugger (.launch request)
          (fun outcome => outcome.map fun () => .object []) dispatched) ∧
    ∀ (settings' : LaunchSettings) (arguments' : Json), settings.execOverride.isSome →
      settings'.execOverride = settings.execOverride →
      (∀ name, name ≠ "program" → name ≠ "args" →
        arguments'.field? name = arguments.field? name) →
      adapter.dispatch debugger settings' "launch" arguments' = dispatched := by
  intro dispatched
  let frame := debugger.currentFrame adapter.debugger
  have hperforms {request : LaunchRequest} (h : request.AskedBy settings ⟨arguments⟩) :
      adapter.Performs debugger (.launch request)
        (fun outcome => outcome.map fun () => .object []) dispatched :=
    performs_dispatch .launch (Command.launchAction_eq_ok.2 ⟨request, h, rfl⟩)
  refine ⟨⟨?_, ?_⟩, ?_, ?_⟩
  · rintro ⟨message, hrefused⟩
    by_contra hfit
    obtain ⟨request, hasked⟩ := LaunchRequest.exists_askedBy hfit
    have hoperations := (hperforms hasked).operations
    rw [hrefused] at hoperations
    cases hoperations
  · intro hflaw
    cases haction : Command.launch.action settings frame ⟨arguments⟩ with
    | error error => exact ⟨error.message, dispatch_of_error .launch haction⟩
    | ok action =>
      obtain ⟨request, hasked, -⟩ := Command.launchAction_eq_ok.1 haction
      exact absurd hflaw hasked.not_flaw
  · intro hfit
    obtain ⟨request, hasked⟩ := LaunchRequest.exists_askedBy hfit
    refine ⟨request, fun other => ⟨fun hother => ?_, fun heq => heq ▸ hasked⟩, hperforms hasked⟩
    have hcalls := (hperforms hother).operations.symm.trans (hperforms hasked).operations
    simpa using hcalls
  · intro settings' arguments' hfixed hsettings hfields
    have hargs : ∀ name, name ≠ "program" → name ≠ "args" →
        Arguments.get? ⟨arguments'⟩ name = Arguments.get? ⟨arguments⟩ name := by
      intro name hprogram hothers
      rw [Arguments.get?, Arguments.get?, hfields name hprogram hothers]
    have haction : Command.launch.action settings' frame ⟨arguments'⟩ =
        Command.launch.action settings frame ⟨arguments⟩ :=
      Command.launchAction_congr hfixed hsettings hargs
    have hname : Command.ofName? "launch" = some .launch := rfl
    simp only [dispatched, dispatch, hname]
    rw [haction]

/-- A fixed program in place of one that is misspelled, with an environment that is dropped as a
whole. -/
theorem launches_as_asked_fixed :
    let adapter : Adapter Unit := { channel := {}, debugger := () }
    let debugger := Debugger.unable .notImplemented
    let exec : ExecOverride := { program := "/opt/app", args := ["-s"] }
    let settings : LaunchSettings := { execOverride := some exec }
    let settings' : LaunchSettings := { settings with launcher := some "dotnet" }
    let environment : List (String × Json) := [("A", .string "1"), ("B", .int 2)]
    let shared : List (String × Json) := [("cwd", .string "/w"), ("env", .object environment)]
    let arguments : Json := .object (("args", .bool true) :: ("program", .int 5) :: shared)
    let request : LaunchRequest := {
      executable := "/opt/app", arguments := ["-s"], environment := [], workingDirectory := "/w",
      stopAtEntry := false }
    ¬ LaunchFlaw settings ⟨arguments⟩ ∧ settings.execOverride.isSome = true ∧
      settings'.execOverride = settings.execOverride ∧
      (∀ name, name ≠ "program" → name ≠ "args" →
        (Json.object shared).field? name = arguments.field? name) ∧
      adapter.Performs debugger (.launch request)
        (fun outcome => outcome.map fun () => .object [])
        (adapter.dispatch debugger settings "launch" arguments) ∧
      adapter.dispatch debugger settings' "launch" (.object shared) =
        adapter.dispatch debugger settings "launch" arguments := by
  intro adapter debugger exec settings settings' environment shared arguments request
  have hunfit : ∀ texts, some (Json.object environment) ≠ some (.ofTexts texts) := by
    intro texts htexts
    have hread : environment.mapM Command.environmentField = none := rfl
    exact Command.isView_environmentField.mapM.eq_none.1 hread texts
      (Json.object.inj (Option.some.inj htexts))
  have hprogram : LaunchRequest.IsProgram settings ⟨arguments⟩ exec.program exec.args :=
    .fixed rfl
  have hasked : request.AskedBy settings ⟨arguments⟩ := ⟨rfl, .none hunfit, rfl, hprogram⟩
  have hsame : ∀ name, name ≠ "program" → name ≠ "args" →
      (Json.object shared).field? name = arguments.field? name := by
    intro name hname hname'
    rw [Json.field?, Json.field?, Json.lookup_cons_of_ne (Ne.symm hname'),
      Json.lookup_cons_of_ne (Ne.symm hname)]
  obtain ⟨-, hfit, hfixed⟩ := launches_as_asked debugger settings adapter arguments
  obtain ⟨only, honly, hperforms⟩ := hfit hasked.not_flaw
  obtain rfl : request = only := (honly request).1 hasked
  exact ⟨hasked.not_flaw, rfl, rfl, hsame, hperforms,
    hfixed settings' (.object shared) rfl rfl hsame⟩

end Adapter

end DebugAdapter
