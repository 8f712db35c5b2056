import DebugAdapter.Proofs.Adapter.Dispatch
import DebugAdapter.Proofs.Arguments.Sight
import Mathlib.Logic.Relation

/-!
# What commands see of their arguments

A command does the same for the part of the arguments that it sees as for all of them, and every
field that it looks at makes a difference for some arguments.
-/

namespace DebugAdapter

open Json (lookup insertField)

namespace Command

/-- The fields that a command looks at. The client's program is of no interest if another one runs
in its place. -/
def sight (settings : LaunchSettings) : Command → Sight
  | initialise | configurationDone | threads | pause => {}
  | setExceptionBreakpoints => { fields := ["filters"] }
  | exceptionInfo | .continue | next | stepIn | stepOut => { fields := ["threadId"] }
  | setBreakpoints =>
    { fields := ["source", "breakpoints"], source := ["path"], entry := ["line", "condition"] }
  | launch =>
    { fields := ["cwd", "env", "stopAtEntry"] ++
        if settings.execOverride.isSome then [] else ["program", "args"] }
  | disconnect => { fields := ["terminateDebuggee"] }
  | stackTrace => { fields := ["threadId", "startFrame", "levels"] }
  | scopes => { fields := ["frameId"] }
  | listVariables => { fields := ["variablesReference", "filter", "start", "count"] }
  | evaluate => { fields := ["expression", "frameId"] }
  | attach => { fields := ["processId"] }
  | setVariable => { fields := ["name", "value", "variablesReference"] }
  | setFunctionBreakpoints => { fields := ["breakpoints"], entry := ["name", "condition"] }

/-- The fields that the command of a name looks at, if there is one. -/
def sightOf (settings : LaunchSettings) (name : String) : Sight :=
  match ofName? name with
  | some command => command.sight settings
  | none => {}

end Command

namespace Arguments

variable {args args' : Arguments} {name : String} {α : Type}

theorem required_congr (h : args'.get? name = args.get? name) (kind : ArgumentKind)
    (view : Json → Option α) : args'.required name kind view = args.required name kind view := by
  rw [required, required, h]

theorem optional_congr (h : args'.get? name = args.get? name) (kind : ArgumentKind)
    (view : Json → Option α) : args'.optional name kind view = args.optional name kind view := by
  rw [optional, optional, h]

end Arguments

namespace Command

open Arguments

variable {settings : LaunchSettings} {args args' : Arguments}

/-- The client's program is looked at unless another one runs in its place. -/
theorem programAndArguments_congr
    (h : ∀ name ∈ (launch.sight settings).fields, args'.get? name = args.get? name) :
    programAndArguments settings args' = programAndArguments settings args := by
  unfold programAndArguments
  split
  next => rfl
  next hnone =>
    simp only [string, stringsOrEmpty, required_congr (h "program" (by simp [sight, hnone])),
      optional_congr (h "args" (by simp [sight, hnone]))]

/-- A command does the same for arguments that agree on the fields that it looks at. -/
theorem action_congr (command : Command)
    (h : ∀ name ∈ (command.sight settings).fields, args'.get? name = args.get? name)
    (currentFrame : Int64) :
    command.action settings currentFrame args' = command.action settings currentFrame args := by
  cases command with
  | initialise | configurationDone | threads | pause => rfl
  | setExceptionBreakpoints =>
    simp only [action, stringsOrEmpty, optional_congr (h "filters" (by simp [sight]))]
  | exceptionInfo | «continue» | next | stepIn | stepOut =>
    simp only [action, exceptionAction, stepAction, int64,
      required_congr (h "threadId" (by simp [sight]))]
  | setBreakpoints =>
    simp only [action, breakpointsAction, object, array,
      required_congr (h "source" (by simp [sight])),
      required_congr (h "breakpoints" (by simp [sight]))]
  | launch =>
    simp only [action, launchAction, string, bool?,
      required_congr (h "cwd" (by simp [sight])),
      optional_congr (h "stopAtEntry" (by simp [sight]))]
    rw [programAndArguments_congr h, h "env" (by simp [sight])]
  | disconnect =>
    simp only [action, disconnectAction, bool?,
      optional_congr (h "terminateDebuggee" (by simp [sight]))]
  | stackTrace =>
    simp only [action, stackTraceAction, int64, int64D, int64?,
      required_congr (h "threadId" (by simp [sight])),
      optional_congr (h "startFrame" (by simp [sight])),
      optional_congr (h "levels" (by simp [sight]))]
  | scopes => simp only [action, int64, required_congr (h "frameId" (by simp [sight]))]
  | listVariables =>
    simp only [action, variablesAction, int64, int64D, int64?, stringD,
      required_congr (h "variablesReference" (by simp [sight])),
      optional_congr (h "filter" (by simp [sight])),
      optional_congr (h "start" (by simp [sight])), optional_congr (h "count" (by simp [sight]))]
  | evaluate =>
    simp only [action, evaluateAction, string, int64D, int64?,
      required_congr (h "expression" (by simp [sight])),
      optional_congr (h "frameId" (by simp [sight]))]
  | attach => simp only [action, processId, h "processId" (by simp [sight])]
  | setVariable =>
    simp only [action, string, int64, required_congr (h "name" (by simp [sight])),
      required_congr (h "value" (by simp [sight])),
      required_congr (h "variablesReference" (by simp [sight]))]
  | setFunctionBreakpoints =>
    simp only [action, functionBreakpointsAction, array,
      required_congr (h "breakpoints" (by simp [sight]))]

/-- What is seen of a source is as good as the source. -/
theorem string_object_view {sight : Sight} (hfields : "source" ∈ sight.fields)
    (hsource : "path" ∈ sight.source) (arguments : Json) :
    (do (← object ⟨sight.view arguments⟩ "source").string "path") =
      (do (← object ⟨arguments⟩ "source").string "path") := by
  have hview := sight.get?_view arguments hfields
  rw [Sight.ofField_source] at hview
  rw [object, object, required, required, hview]
  cases get? ⟨arguments⟩ "source" with
  | none => rfl
  | some found =>
    cases found with
    | object fields =>
      exact required_congr (Sight.get?_pickWhole (.object fields) hsource) .string Json.asString?
    | _ => rfl

/-- What is seen of the entries is as good as the entries to one who looks at no other fields. -/
theorem mapM_array_view {sight : Sight} {β : Type} (hfields : "breakpoints" ∈ sight.fields)
    {read : Json → Except ArgumentError β}
    (hread : ∀ entry, read (Sight.pickWhole sight.entry entry) = read entry) (arguments : Json) :
    (do (← array ⟨sight.view arguments⟩ "breakpoints").mapM read) =
      (do (← array ⟨arguments⟩ "breakpoints").mapM read) := by
  have hview := sight.get?_view arguments hfields
  rw [Sight.ofField_breakpoints] at hview
  have hentries (entries : List Json) :
      (entries.map (Sight.pickWhole sight.entry)).mapM read = entries.mapM read := by
    induction entries with
    | nil => rfl
    | cons entry entries ih => rw [List.map_cons, List.mapM_cons, List.mapM_cons, hread, ih]
  rw [array, array, required, required, hview]
  cases get? ⟨arguments⟩ "breakpoints" with
  | none => rfl
  | some found =>
    cases found with
    | array entries => exact hentries entries
    | _ => rfl

theorem sourceBreakpoint_pickWhole (entry : Json) :
    sourceBreakpoint (Sight.pickWhole ["line", "condition"] entry) = sourceBreakpoint entry := by
  have hline : get? ⟨Sight.pickWhole ["line", "condition"] entry⟩ "line" = get? ⟨entry⟩ "line" :=
    Sight.get?_pickWhole entry (by simp)
  have hcondition :
      get? ⟨Sight.pickWhole ["line", "condition"] entry⟩ "condition" = get? ⟨entry⟩ "condition" :=
    Sight.get?_pickWhole entry (by simp)
  simp only [sourceBreakpoint, int64, stringD, required_congr hline, optional_congr hcondition]

theorem functionBreakpoint_pickWhole (entry : Json) :
    functionBreakpoint (Sight.pickWhole ["name", "condition"] entry) =
      functionBreakpoint entry := by
  have hname : get? ⟨Sight.pickWhole ["name", "condition"] entry⟩ "name" = get? ⟨entry⟩ "name" :=
    Sight.get?_pickWhole entry (by simp)
  have hcondition :
      get? ⟨Sight.pickWhole ["name", "condition"] entry⟩ "condition" = get? ⟨entry⟩ "condition" :=
    Sight.get?_pickWhole entry (by simp)
  simp only [functionBreakpoint, string, stringD, required_congr hname, optional_congr hcondition]

/-- The path is found first, and then the entries. -/
theorem breakpointsAction_eq (args : Arguments) :
    breakpointsAction args = (do
      let path ← (do (← args.object "source").string "path")
      let requested ← (do (← args.array "breakpoints").mapM sourceBreakpoint)
      pure {
        operation := .setBreakpoints path requested
        body := fun outcome => outcome.map breakpointsBody }) := by
  simp only [breakpointsAction, bind_assoc]

theorem functionBreakpointsAction_eq (args : Arguments) :
    functionBreakpointsAction args = (do
      let requested ← (do (← args.array "breakpoints").mapM functionBreakpoint)
      pure {
        operation := .setFunctionBreakpoints requested
        body := fun outcome => outcome.map breakpointsBody }) := by
  simp only [functionBreakpointsAction, bind_assoc]

/-- All that is seen of a field other than the two with parts of their own is its value. -/
theorem action_view_of_plain (currentFrame : Int64) (arguments : Json) {command : Command}
    (hsource : "source" ∉ (command.sight settings).fields)
    (hbreakpoints : "breakpoints" ∉ (command.sight settings).fields) :
    command.action settings currentFrame ⟨(command.sight settings).view arguments⟩ =
      command.action settings currentFrame ⟨arguments⟩ := by
  apply action_congr
  intro name hname
  have hfield : (command.sight settings).ofField name = id := by
    apply Sight.ofField_of_plain
    · rintro rfl
      exact hsource hname
    · rintro rfl
      exact hbreakpoints hname
  rw [Sight.get?_view _ _ hname, hfield, Option.map_id, id]

/-- A command does what it does for the part of the arguments that it sees. -/
theorem action_view (settings : LaunchSettings) (currentFrame : Int64) (arguments : Json)
    (command : Command) :
    command.action settings currentFrame ⟨(command.sight settings).view arguments⟩ =
      command.action settings currentFrame ⟨arguments⟩ := by
  cases command with
  | setBreakpoints =>
    rw [action, action, breakpointsAction_eq, breakpointsAction_eq,
      string_object_view (by simp [sight]) (by simp [sight]),
      mapM_array_view (by simp [sight]) sourceBreakpoint_pickWhole]
  | setFunctionBreakpoints =>
    rw [action, action, functionBreakpointsAction_eq, functionBreakpointsAction_eq,
      mapM_array_view (by simp [sight]) functionBreakpoint_pickWhole]
  | launch =>
    apply action_view_of_plain
    · rw [sight]
      split <;> simp
    · rw [sight]
      split <;> simp
  | _ => exact action_view_of_plain currentFrame arguments (by simp [sight]) (by simp [sight])

/-! ### No field is looked at in vain -/

/-- Fields with which every command is content. -/
def sampleFields : List (String × Json) :=
  [("breakpoints", .array [.object [("line", .int 0), ("name", .string "")]]),
    ("cwd", .string ""), ("expression", .string ""), ("frameId", .int 0), ("name", .string ""),
    ("processId", .int 0), ("program", .string ""), ("source", .object [("path", .string "")]),
    ("threadId", .int 0), ("value", .string ""), ("variablesReference", .int 0)]

/-- An environment, which is in place nowhere else. -/
def sampleEnvironment : Json :=
  .object [("", .string "")]

theorem action_sampleFields_isOk (settings : LaunchSettings) (currentFrame : Int64)
    (command : Command) :
    (command.action settings currentFrame ⟨.object sampleFields⟩).isOk = true := by
  cases command with
  | launch =>
    obtain ⟨exec, launcher⟩ := settings
    cases exec <;> rfl
  | _ => rfl

theorem action_misplaced_isOk (settings : LaunchSettings) (currentFrame : Int64)
    {command : Command} {name : String} (hname : name ∈ (command.sight settings).fields)
    (hplace : name ≠ "env") :
    (command.action settings currentFrame
      ⟨.object (insertField name sampleEnvironment sampleFields)⟩).isOk = false := by
  cases command with
  | initialise | configurationDone | threads | pause => cases hname
  | launch =>
    obtain ⟨exec, launcher⟩ := settings
    cases exec with
    | none =>
      simp only [sight, Option.isSome_none, Bool.false_eq_true, if_false, List.cons_append,
        List.nil_append, List.mem_cons, List.not_mem_nil, or_false] at hname
      rcases hname with rfl | rfl | rfl | rfl | rfl
      · rfl
      · exact absurd rfl hplace
      · rfl
      · rfl
      · rfl
    | some exec =>
      simp only [sight, Option.isSome_some, if_true, List.append_nil, List.mem_cons,
        List.not_mem_nil, or_false] at hname
      rcases hname with rfl | rfl | rfl
      · rfl
      · exact absurd rfl hplace
      · rfl
  | _ =>
    simp only [sight, List.mem_cons, List.not_mem_nil, or_false] at hname
    rcases hname with rfl | rfl | rfl | rfl <;> rfl

theorem ne_of_isOk {ε α : Type} {x y : Except ε α} (hx : x.isOk = false) (hy : y.isOk = true) :
    x ≠ y := by
  rintro rfl
  rw [hx] at hy
  cases hy

/-- The environment of a program makes a difference to what is launched. -/
theorem launchAction_environment_ne (settings : LaunchSettings) :
    launchAction settings ⟨.object (insertField "env" sampleEnvironment sampleFields)⟩ ≠
      launchAction settings ⟨.object sampleFields⟩ := by
  intro h
  have hoperation := congrArg (fun action => action.toOption.map Action.operation) h
  obtain ⟨exec, launcher⟩ := settings
  cases exec <;> cases hoperation

/-- For every field that a command looks at, there are arguments for which it makes a
difference. -/
theorem exists_of_mem_sight (settings : LaunchSettings) (currentFrame : Int64)
    (command : Command) :
    (∀ name ∈ (command.sight settings).fields, ∃ fields value,
      command.action settings currentFrame ⟨.object (insertField name value fields)⟩ ≠
        command.action settings currentFrame ⟨.object fields⟩) ∧
    (∀ name ∈ (command.sight settings).source, ∃ fields source value,
      lookup "source" fields = some (.object source) ∧
      command.action settings currentFrame
          ⟨.object (insertField "source" (.object (insertField name value source)) fields)⟩ ≠
        command.action settings currentFrame ⟨.object fields⟩) ∧
    ∀ name ∈ (command.sight settings).entry, ∃ fields entry value,
      lookup "breakpoints" fields = some (.array [.object entry]) ∧
      command.action settings currentFrame
          ⟨.object (insertField "breakpoints"
            (.array [.object (insertField name value entry)]) fields)⟩ ≠
        command.action settings currentFrame ⟨.object fields⟩ := by
  have hsample := action_sampleFields_isOk settings currentFrame command
  refine ⟨?_, ?_, ?_⟩
  · intro name hname
    refine ⟨sampleFields, sampleEnvironment, ?_⟩
    by_cases hplace : name = "env"
    · have hlaunch : command = .launch := by
        subst hplace
        cases command <;> simp [sight] at hname ⊢
      rw [hplace, hlaunch]
      exact launchAction_environment_ne settings
    · exact ne_of_isOk (action_misplaced_isOk settings currentFrame hname hplace) hsample
  · intro name hname
    refine ⟨sampleFields, _, sampleEnvironment, rfl, ne_of_isOk ?_ hsample⟩
    cases command with
    | setBreakpoints =>
      obtain rfl := List.mem_singleton.1 hname
      rfl
    | _ => cases hname
  · intro name hname
    refine ⟨sampleFields, _, sampleEnvironment, rfl, ne_of_isOk ?_ hsample⟩
    cases command with
    | setBreakpoints | setFunctionBreakpoints =>
      simp only [sight, List.mem_cons, List.not_mem_nil, or_false] at hname
      rcases hname with rfl | rfl <;> rfl
    | _ => cases hname

end Command

namespace Adapter

variable {σ : Type} (debugger : Debugger σ) {settings : LaunchSettings} {command : String}

theorem dispatch_view (settings : LaunchSettings) (adapter : Adapter σ) (command : String)
    (arguments : Json) :
    adapter.dispatch debugger settings command
        ((Command.sightOf settings command).view arguments) =
      adapter.dispatch debugger settings command arguments := by
  rw [dispatch, dispatch, Command.sightOf]
  cases Command.ofName? command with
  | none => rfl
  | some known =>
    dsimp only
    rw [Command.action_view]

/-- Whatever the client asks for by whatever name, nothing depends on what the command does not
see of the arguments: neither the operation of the debugger nor the events before and meanwhile,
neither the result nor whether the client has left. Arguments that are no object, and entries of the
list of breakpoints that are none, might be empty objects. Fields that are null, and fields that
the command does not look at, might not be there or be there with any value, in the arguments, in the
source and in the entries. -/
theorem dispatch_eq_of_edits (adapter : Adapter σ) {arguments arguments' : Json}
    (h : Relation.EqvGen (Command.sightOf settings command).Edit arguments arguments') :
    adapter.dispatch debugger settings command arguments' =
      adapter.dispatch debugger settings command arguments := by
  induction h with
  | rel arguments arguments' edit =>
    rw [← dispatch_view, Sight.view_of_edit edit, dispatch_view]
  | refl arguments => rfl
  | symm arguments arguments' _ ih => exact ih.symm
  | trans arguments between arguments' _ _ ih ih' => rw [ih', ih]

/-- A list of breakpoints with an entry that is none, a field that is null and one that is not
looked at. -/
theorem dispatch_eq_of_edits_breakpoints :
    let adapter : Adapter Unit := { channel := {}, debugger := () }
    let source : Json := .object [("path", .string "a.c")]
    let arguments : Json :=
      .object [("breakpoints", .array [.int 5]), ("lines", .null), ("source", source)]
    let arguments' : Json :=
      .object [("breakpoints", .array [.object []]), ("reason", .string "new"), ("source", source)]
    Relation.EqvGen (Command.sightOf {} "setBreakpoints").Edit arguments arguments' ∧
      adapter.dispatch (.unable .notImplemented) {} "setBreakpoints" arguments' =
        adapter.dispatch (.unable .notImplemented) {} "setBreakpoints" arguments := by
  intro adapter source arguments arguments'
  let sight := Command.sightOf {} "setBreakpoints"
  let others : List (String × Json) := [("lines", .null), ("source", source)]
  let fields : List (String × Json) := ("breakpoints", .array [.int 5]) :: others
  let emptied : List (String × Json) := ("breakpoints", .array [.object []]) :: others
  let shorter : List (String × Json) := emptied.filter fun field => field.1 ≠ "lines"
  have hclear : ObjectEdit sight.entry (.int 5) (.object []) := .clear nofun
  have hbefore : lookup "breakpoints" fields = some (.array ([] ++ [.int 5])) := rfl
  have hafter : lookup "breakpoints" emptied = some (.array ([] ++ [.object []])) := rfl
  have hemptied : sight.Edit (.object fields) (.object emptied) := by
    refine .entry hclear hbefore hafter fun other hother => ?_
    rw [Json.lookup_cons_of_ne (Ne.symm hother), Json.lookup_cons_of_ne (Ne.symm hother)]
  have hnull : lookup "lines" emptied = some .null := rfl
  have hshorter : sight.Edit (.object emptied) (.object shorter) :=
    .own (.field (.filter sight.fields hnull))
  have hreason : "reason" ∉ sight.fields := by decide
  have hlonger : sight.Edit (.object shorter) arguments' :=
    .own (.field (.insert hreason (.string "new") shorter))
  have hedits : Relation.EqvGen sight.Edit arguments arguments' :=
    .trans _ _ _ (.rel _ _ hemptied) (.trans _ _ _ (.rel _ _ hshorter) (.rel _ _ hlonger))
  exact ⟨hedits, dispatch_eq_of_edits _ adapter hedits⟩

end Adapter

end DebugAdapter
