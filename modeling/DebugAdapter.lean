import DebugAdapter.Adapter
import DebugAdapter.Arguments
import DebugAdapter.Binary64.Basic
import DebugAdapter.Binary64.Decimal
import DebugAdapter.Binary64.Shortest
import DebugAdapter.BreakMode
import DebugAdapter.Channel
import DebugAdapter.Command
import DebugAdapter.ConsoleRelay
import DebugAdapter.Debugger
import DebugAdapter.Event
import DebugAdapter.Failure
import DebugAdapter.Frame
import DebugAdapter.FunctionBreakpoint
import DebugAdapter.Json.Basic
import DebugAdapter.Json.Fault
import DebugAdapter.Json.Mismatch
import DebugAdapter.Json.Number
import DebugAdapter.Json.Parser
import DebugAdapter.Json.Printer
import DebugAdapter.Json.StringLiteral
import DebugAdapter.Message
import DebugAdapter.Proofs.Adapter.Attach
import DebugAdapter.Proofs.Adapter.Breakpoints
import DebugAdapter.Proofs.Adapter.Call
import DebugAdapter.Proofs.Adapter.Dispatch
import DebugAdapter.Proofs.Adapter.FrameNumber
import DebugAdapter.Proofs.Adapter.Launch
import DebugAdapter.Proofs.Adapter.Leaving
import DebugAdapter.Proofs.Adapter.Reaction
import DebugAdapter.Proofs.Adapter.Sight
import DebugAdapter.Proofs.Arguments.Kind
import DebugAdapter.Proofs.Arguments.Sight
import DebugAdapter.Proofs.BreakMode.Filters
import DebugAdapter.Proofs.Channel.Course
import DebugAdapter.Proofs.Channel.Delivery
import DebugAdapter.Proofs.Channel.Log
import DebugAdapter.Proofs.Channel.Numbering
import DebugAdapter.Proofs.Channel.Refusal
import DebugAdapter.Proofs.ExceptionDetails.Chain
import DebugAdapter.Proofs.Frame.Decomposition
import DebugAdapter.Proofs.Frame.Grammar
import DebugAdapter.Proofs.Frame.HeaderLine
import DebugAdapter.Proofs.Frame.Reader
import DebugAdapter.Proofs.Frame.RoundTrip
import DebugAdapter.Proofs.Frame.Unmeasured
import DebugAdapter.Proofs.FunctionBreakpoint.Parts
import DebugAdapter.Proofs.FunctionBreakpoint.Places
import DebugAdapter.Proofs.Json.Members
import DebugAdapter.Proofs.Json.Number
import DebugAdapter.Proofs.Json.Printable
import DebugAdapter.Proofs.Json.RoundTrip
import DebugAdapter.Proofs.Json.StringLiteral
import DebugAdapter.Proofs.Message.Wire
import DebugAdapter.Proofs.Request.Envelope
import DebugAdapter.Proofs.Request.Shape
import DebugAdapter.Proofs.Session.Aftermath
import DebugAdapter.Proofs.Session.Alike
import DebugAdapter.Proofs.Session.Console
import DebugAdapter.Proofs.Session.Cutting
import DebugAdapter.Proofs.Session.Dialogue
import DebugAdapter.Proofs.Session.Inert
import DebugAdapter.Proofs.Session.LogFile
import DebugAdapter.Proofs.Session.LogLines
import DebugAdapter.Proofs.Session.Moment
import DebugAdapter.Proofs.Session.Numbering
import DebugAdapter.Proofs.Session.Refusal
import DebugAdapter.Proofs.Session.Rejection
import DebugAdapter.Proofs.Session.Salvage
import DebugAdapter.Proofs.Session.Script
import DebugAdapter.Proofs.Session.Selection
import DebugAdapter.Proofs.Session.Serve
import DebugAdapter.Proofs.Session.Taken
import DebugAdapter.Proofs.Session.Teardown
import DebugAdapter.Proofs.Text.Cut
import DebugAdapter.Proofs.Text.Lines
import DebugAdapter.Proofs.Text.Utf8
import DebugAdapter.Proofs.Text.WholeNumber
import DebugAdapter.Record.Breakpoint
import DebugAdapter.Record.Capabilities
import DebugAdapter.Record.ExceptionInfo
import DebugAdapter.Record.Source
import DebugAdapter.Record.StackFrame
import DebugAdapter.Record.Variable
import DebugAdapter.Request
import DebugAdapter.Session
import DebugAdapter.Settings.Basic
import DebugAdapter.Settings.Reader
import DebugAdapter.Settings.Record
import DebugAdapter.Startup
import DebugAdapter.Text.Ascii
import DebugAdapter.Text.Blank
import DebugAdapter.Text.Hexadecimal
import DebugAdapter.Text.Quoted
import DebugAdapter.Text.Unprintable
import DebugAdapter.Text.Utf8
import DebugAdapter.Text.WholeNumber
