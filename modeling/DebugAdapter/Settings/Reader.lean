import DebugAdapter.Settings.Basic
import DebugAdapter.Settings.Record

/-!
# Reading settings

Every field of the settings may be left out and then has its default, but for the program of an
override.
-/

namespace DebugAdapter.Settings

/-- The traffic log. -/
def logTarget : Bytes → Except Fault (LogTarget × Bytes) :=
  choice [
    ("disabled", .plain .disabled),
    ("console", .plain .console),
    ("file", .carrying fun text =>
      (fun (path, rest) => (.file path, rest)) <$> string "path string" text)]

/-- Where diagnostics go. -/
def diagnosticsTarget : Bytes → Except Fault (Diagnostics × Bytes) :=
  choice [("stderr", .plain .stderr), ("console", .plain .console)]

/-- An override as far as it has been read. -/
structure OverrideDraft where
  program : Option String := none
  args : Option (List String) := none

/-- A program that runs in place of the client's. -/
def execOverride : Bytes → Except Fault (ExecOverride × Bytes) :=
  record "struct ExecOverride" [
    { Slot.of "program" (·.program) (fun program draft => { draft with program := some program })
      (string "a string") with isRequired := true },
    Slot.of "args" (·.args) (fun args draft => { draft with args := some args })
      strings]
    ({} : OverrideDraft) fun draft =>
      match draft.program with
      | some program => .ok { program, args := draft.args.getD [] }
      | none => .error (.missingField "program")

/-- Launch settings as far as they have been read. -/
structure LaunchDraft where
  execOverride : Option (Option ExecOverride) := none
  launcher : Option (Option String) := none

/-- How programs are launched. -/
def launchSettings : Bytes → Except Fault (LaunchSettings × Bytes) :=
  record "struct LaunchConfig" [
    Slot.of "execOverride" (·.execOverride)
      (fun exec draft => { draft with execOverride := some exec }) (nullable execOverride),
    Slot.of "launcher" (·.launcher)
      (fun launcher draft => { draft with launcher := some launcher })
      (nullable (string "a string"))]
    ({} : LaunchDraft) fun draft =>
      .ok { execOverride := draft.execOverride.getD none, launcher := draft.launcher.getD none }

/-- Settings as far as they have been read. -/
structure Draft where
  trafficLog : Option LogTarget := none
  launch : Option LaunchSettings := none
  diagnostics : Option Diagnostics := none
  logFilter : Option String := none

/-- The settings with the defaults in the place of what is not set. -/
def Draft.complete (draft : Draft) : Settings where
  trafficLog := draft.trafficLog.getD .disabled
  launch := draft.launch.getD {}
  diagnostics := draft.diagnostics.getD .stderr
  logFilter := draft.logFilter.getD defaultLogFilter

/-- Settings at the front of a text. -/
def settings : Bytes → Except Fault (Settings × Bytes) :=
  record "struct AdapterConfig" [
    Slot.of "trafficLog" (·.trafficLog)
      (fun target draft => { draft with trafficLog := some target }) logTarget,
    Slot.of "launch" (·.launch)
      (fun launch draft => { draft with launch := some launch }) launchSettings,
    Slot.of "diagnostics" (·.diagnostics)
      (fun target draft => { draft with diagnostics := some target }) diagnosticsTarget,
    Slot.of "logFilter" (·.logFilter)
      (fun filter draft => { draft with logFilter := some filter }) (string "a string")]
    ({} : Draft) fun draft => .ok draft.complete

/-- The settings that a whole text spells. -/
def ofText? (text : Bytes) : Except Fault Settings := do
  let (result, rest) ← settings text
  ofText (Json.Reader.finish rest)
  pure result

/-- The settings in a text. -/
def read (text : Bytes) : Except SessionError Settings :=
  (ofText? text).mapError fun fault => .settings (fault.message text)

end DebugAdapter.Settings
