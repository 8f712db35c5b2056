import DebugAdapter.Channel

/-!
# Diagnostics on the client's console

The adapter's own diagnostics, line by line as output events. A line that is refused ends the relay
for good, and the diagnostics never notice.
-/

namespace DebugAdapter.ConsoleRelay

/-- The line that a write queues: the text that its bytes spell. -/
def queued (written : Bytes) : String :=
  Utf8.decodeLossy written

/-- How many bytes a write accepts: all of them, whether or not anybody relays
the line. -/
def accepted (written : Bytes) : Nat :=
  written.length

/-- The channel after lines are relayed up to the first that is refused. -/
def relay (channel : Channel) : List String → Channel × List Effect
  | [] => (channel, [])
  | line :: lines =>
    match channel.raise (.output .console line) with
    | (channel, effects, .error _) => (channel, effects)
    | (channel, effects, .ok _) =>
      let (channel, others) := relay channel lines
      (channel, effects ++ others)

end DebugAdapter.ConsoleRelay
