import DebugAdapter.Text.Hexadecimal

/-!
# Failures

What can go wrong: a command fails, which its response tells the client, or the session itself
cannot go on.
-/

namespace DebugAdapter

/-- The outcome class of a command. -/
inductive ResultCode where
  | success
  | genericFailure
  | notImplemented
  | invalidArgument
  deriving DecidableEq, Repr, Inhabited

namespace ResultCode

/-- The code of an outcome class. -/
def number : ResultCode → UInt32
  | .success => 0x00000000
  | .genericFailure => 0x80004005
  | .notImplemented => 0x80004001
  | .invalidArgument => 0x80070057

/-- The code in hexadecimal. -/
def hex (code : ResultCode) : String :=
  hexadecimal 8 code.number.toNat

/-- Whether the class stands for success. -/
def isSuccess (code : ResultCode) : Bool :=
  code = .success

end ResultCode

/-- A failed command: its outcome class and, if there is more to say, a message. -/
structure Failure where
  code : ResultCode
  message : Option String := none
  deriving DecidableEq, Repr

namespace Failure

/-- A failure without a class of its own. -/
def generic (message : String) : Failure :=
  ⟨.genericFailure, some message⟩

/-- A command that does not exist. -/
def notImplemented : Failure :=
  ⟨.notImplemented, none⟩

/-- A request whose content is not acceptable. -/
def invalidArgument (message : String) : Failure :=
  ⟨.invalidArgument, some message⟩

/-- A response body that cannot be written down. -/
def encoding (reason : String) : Failure :=
  generic ("Failed to encode response body: " ++ reason)

/-- The message of the response to the failed command. -/
def reply (failure : Failure) (command : String) : String :=
  failure.message.getD ("Failed command '" ++ command ++ "' : " ++ failure.code.hex)

/-- The failure in one line. -/
def describe (failure : Failure) : String :=
  failure.message.getD "command failed" ++ " (" ++ failure.code.hex ++ ")"

end Failure

/-- Why a session cannot start or continue. -/
inductive SessionError where
  /-- The client's end of the stream refused a frame. -/
  | io (reason : String)
  /-- A message cannot be written down. -/
  | encoding (reason : String)
  /-- The traffic log cannot be opened. -/
  | trafficLog (path reason : String)
  /-- The settings are not acceptable. -/
  | settings (reason : String)
  deriving DecidableEq, Repr

/-- The wording of a session error. -/
def SessionError.message : SessionError → String
  | .io reason => "I/O error: " ++ reason
  | .encoding reason => "Failed to serialize message: " ++ reason
  | .trafficLog path reason => "Failed to open traffic log '" ++ path ++ "': " ++ reason
  | .settings reason => "Invalid configuration: " ++ reason

end DebugAdapter
