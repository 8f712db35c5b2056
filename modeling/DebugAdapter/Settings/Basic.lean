import DebugAdapter.Channel
import DebugAdapter.Command

/-!
# Settings

What the adapter's user decides before a session: where passing messages are noted, how programs are
launched, and where diagnostics go.
-/

namespace DebugAdapter

/-- Where passing messages are to be noted. -/
inductive LogTarget where
  | disabled
  | console
  /-- At the end of a file. -/
  | file (path : String)
  deriving DecidableEq, Repr

/-- Where the adapter's diagnostics go. -/
inductive Diagnostics where
  | stderr
  | console
  deriving DecidableEq, Repr

/-- The filter of the diagnostics unless the user chooses one. -/
def defaultLogFilter : String := "dbg_dap=info"

/-- What the adapter's user decides. -/
structure Settings where
  trafficLog : LogTarget := .disabled
  launch : LaunchSettings := {}
  diagnostics : Diagnostics := .stderr
  logFilter : String := defaultLogFilter
  deriving DecidableEq, Repr

/-- Why a file cannot be opened for appending. -/
inductive OpenFault where
  | noSuchFile
  | isDirectory
  deriving DecidableEq, Repr

/-- The wording of an open fault. -/
def OpenFault.message : OpenFault → String
  | .noSuchFile => "No such file or directory (os error 2)"
  | .isDirectory => "Is a directory (os error 21)"

/-- The traffic log of a session. `openFile` opens a file for appending, which
creates it if need be, and tells its content or why that is impossible. -/
def LogTarget.open (openFile : String → Except OpenFault Bytes) :
    LogTarget → Except SessionError TrafficLog
  | .disabled => .ok .disabled
  | .console => .ok .console
  | .file path =>
    match openFile path with
    | .ok content => .ok (.file content true)
    | .error fault => .error (.trafficLog path fault.message)

end DebugAdapter
