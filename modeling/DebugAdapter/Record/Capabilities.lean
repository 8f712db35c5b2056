import DebugAdapter.Record.Source

/-!
# Capabilities

What an adapter can do, as it tells the client. What nothing is known about is left out.
-/

namespace DebugAdapter

/-- A feature that an adapter has or has not. -/
inductive Feature where
  | configurationDone
  | functionBreakpoints
  | conditionalBreakpoints
  | hitConditionalBreakpoints
  | evaluateForHovers
  | stepBack
  | setVariable
  | restartFrame
  | gotoTargets
  | stepInTargets
  | completions
  | modules
  | restart
  | exceptionOptions
  | valueFormattingOptions
  | exceptionInfo
  | terminateDebuggee
  | suspendDebuggee
  | delayedStackTraceLoading
  | loadedSources
  | logPoints
  | terminateThreads
  | setExpression
  | terminate
  | dataBreakpoints
  | readMemory
  | writeMemory
  | disassemble
  | cancel
  | breakpointLocations
  | clipboardContext
  | steppingGranularity
  | instructionBreakpoints
  | exceptionFilterOptions
  | singleThreadExecution
  deriving DecidableEq, Repr

namespace Feature

/-- The name of a feature in messages. -/
def name : Feature → String
  | configurationDone => "supportsConfigurationDoneRequest"
  | functionBreakpoints => "supportsFunctionBreakpoints"
  | conditionalBreakpoints => "supportsConditionalBreakpoints"
  | hitConditionalBreakpoints => "supportsHitConditionalBreakpoints"
  | evaluateForHovers => "supportsEvaluateForHovers"
  | stepBack => "supportsStepBack"
  | setVariable => "supportsSetVariable"
  | restartFrame => "supportsRestartFrame"
  | gotoTargets => "supportsGotoTargetsRequest"
  | stepInTargets => "supportsStepInTargetsRequest"
  | completions => "supportsCompletionsRequest"
  | modules => "supportsModulesRequest"
  | restart => "supportsRestartRequest"
  | exceptionOptions => "supportsExceptionOptions"
  | valueFormattingOptions => "supportsValueFormattingOptions"
  | exceptionInfo => "supportsExceptionInfoRequest"
  | terminateDebuggee => "supportTerminateDebuggee"
  | suspendDebuggee => "supportSuspendDebuggee"
  | delayedStackTraceLoading => "supportsDelayedStackTraceLoading"
  | loadedSources => "supportsLoadedSourcesRequest"
  | logPoints => "supportsLogPoints"
  | terminateThreads => "supportsTerminateThreadsRequest"
  | setExpression => "supportsSetExpression"
  | terminate => "supportsTerminateRequest"
  | dataBreakpoints => "supportsDataBreakpoints"
  | readMemory => "supportsReadMemoryRequest"
  | writeMemory => "supportsWriteMemoryRequest"
  | disassemble => "supportsDisassembleRequest"
  | cancel => "supportsCancelRequest"
  | breakpointLocations => "supportsBreakpointLocationsRequest"
  | clipboardContext => "supportsClipboardContext"
  | steppingGranularity => "supportsSteppingGranularity"
  | instructionBreakpoints => "supportsInstructionBreakpoints"
  | exceptionFilterOptions => "supportsExceptionFilterOptions"
  | singleThreadExecution => "supportsSingleThreadExecutionRequests"

/-- All features, in the order in which they are listed for the client. -/
def all : List Feature :=
  [configurationDone, functionBreakpoints, conditionalBreakpoints, hitConditionalBreakpoints,
    evaluateForHovers, stepBack, setVariable, restartFrame, gotoTargets, stepInTargets,
    completions, modules, restart, exceptionOptions, valueFormattingOptions, exceptionInfo,
    terminateDebuggee, suspendDebuggee, delayedStackTraceLoading, loadedSources, logPoints,
    terminateThreads, setExpression, terminate, dataBreakpoints, readMemory, writeMemory,
    disassemble, cancel, breakpointLocations, clipboardContext, steppingGranularity,
    instructionBreakpoints, exceptionFilterOptions, singleThreadExecution]

end Feature

/-- A kind of exceptions that the client can choose to stop on. In messages its
fields are spelled with underscores. -/
structure ExceptionFilter where
  filter : String
  label : String
  description : Option String := none
  default : Option Bool := none
  supportsCondition : Option Bool := none
  conditionDescription : Option String := none
  deriving DecidableEq, Repr

/-- A kind of exceptions in a message. -/
def ExceptionFilter.toJson (f : ExceptionFilter) : Json :=
  .ofSome [
    ("filter", some (.string f.filter)),
    ("label", some (.string f.label)),
    ("description", f.description.map .string),
    ("default", f.default.map .bool),
    ("supports_condition", f.supportsCondition.map .bool),
    ("condition_description", f.conditionDescription.map .string)]

/-- A column of the client's table of modules. -/
structure ModuleColumn where
  attributeName : String
  label : String
  format : Option String := none
  type : Option String := none
  width : Option Int64 := none
  deriving DecidableEq, Repr

/-- A column in a message. -/
def ModuleColumn.toJson (c : ModuleColumn) : Json :=
  .ofSome [
    ("attributeName", some (.string c.attributeName)),
    ("label", some (.string c.label)),
    ("format", c.format.map .string),
    ("type", c.type.map .string),
    ("width", c.width.map .ofInt64)]

/-- What is known of an adapter: for a feature `some true` if it is there, `some
false` if it is not, and `none` if nothing is said about it. -/
structure Capabilities where
  feature : Feature → Option Bool := fun _ => none
  exceptionBreakpointFilters : Option (List ExceptionFilter) := none
  completionTriggerCharacters : Option (List String) := none
  additionalModuleColumns : Option (List ModuleColumn) := none
  supportedChecksumAlgorithms : Option (List ChecksumAlgorithm) := none

namespace Capabilities

/-- What is known, features first, each list by its name. -/
def fields (c : Capabilities) : List (String × Json) :=
  Json.present (Feature.all.map fun f => (f.name, (c.feature f).map .bool)) ++
    Json.present [
      ("exceptionBreakpointFilters",
        c.exceptionBreakpointFilters.map fun fs => .array (fs.map ExceptionFilter.toJson)),
      ("completionTriggerCharacters", c.completionTriggerCharacters.map .ofStrings),
      ("additionalModuleColumns",
        c.additionalModuleColumns.map fun cs => .array (cs.map ModuleColumn.toJson)),
      ("supportedChecksumAlgorithms",
        c.supportedChecksumAlgorithms.map fun as => .ofStrings (as.map ChecksumAlgorithm.name))]

/-- Capabilities in a message. -/
def toJson (c : Capabilities) : Json :=
  .ofFields c.fields

/-- Capabilities as an object in the order of their list, not of the names. -/
def toListing (c : Capabilities) : Json :=
  .object c.fields

/-- What this adapter can do. -/
def offered : Capabilities where
  feature
    | .configurationDone | .functionBreakpoints | .conditionalBreakpoints | .exceptionInfo
    | .terminateDebuggee => some true
    | _ => none

end Capabilities

end DebugAdapter
