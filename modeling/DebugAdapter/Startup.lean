import DebugAdapter.Session
import DebugAdapter.Settings.Reader

/-!
# Starting a session

The settings are read and the traffic log is opened before anything is asked of the debugger.
-/

namespace DebugAdapter

variable {σ : Type}

/-- A session that is ready for its stream. -/
def Session.ofSettings (openFile : String → Except OpenFault Bytes) (sink : Sink) (state : σ)
    (settings : Settings) : Except SessionError (Session σ) := do
  let traffic ← settings.trafficLog.open openFile
  pure { adapter := { channel := { sink, traffic }, debugger := state } }

/-- A whole session from the text of its settings. -/
def Session.start (debugger : Debugger σ) (openFile : String → Except OpenFault Bytes)
    (sink : Sink) (state : σ) (text : Bytes) (arrivals : List Arrival) (ending : Frame.Ending) :
    Except SessionError (Session σ × List Effect) := do
  let settings ← Settings.read text
  let session ← Session.ofSettings openFile sink state settings
  pure (session.run debugger settings.launch arrivals ending)

end DebugAdapter
