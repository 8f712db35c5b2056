/-!
# Exception break modes

When the debugger stops on an exception, as a set of flags that the client chooses by a list of
filter words.
-/

namespace DebugAdapter

/-- When to stop on an exception, as a mask; the empty mask means never. -/
structure BreakMode where
  bits : UInt8
  deriving DecidableEq, Repr, Inhabited

namespace BreakMode

/-- Stop on no exception. -/
def never : BreakMode := ⟨0⟩

/-- Stop on every exception. -/
def all : BreakMode := ⟨1⟩

/-- Stop on exceptions that leave the user's code. -/
def userUnhandled : BreakMode := ⟨2⟩

/-- Stop on exceptions that nothing handles. This is the mode to begin with, and
no filter word adds it. -/
def unhandled : BreakMode := ⟨4⟩

/-- Whether all flags of `other` are set. -/
def contains (mode other : BreakMode) : Bool :=
  mode.bits &&& other.bits = other.bits

/-- A mode with the flags of another set as well. -/
def insert (mode other : BreakMode) : BreakMode :=
  ⟨mode.bits ||| other.bits⟩

/-- Whether the mode has no flag. -/
def isNever (mode : BreakMode) : Bool :=
  mode.bits = 0

/-- Whether every exception stops. -/
def isAll (mode : BreakMode) : Bool :=
  mode.contains all

/-- Whether unhandled exceptions are all that stops. -/
def isUnhandledOnly (mode : BreakMode) : Bool :=
  mode = unhandled

/-- Whether exceptions that leave the user's code stop. -/
def isUserUnhandled (mode : BreakMode) : Bool :=
  mode.contains userUnhandled

/-- A mode after one more filter word; an unknown word changes nothing. -/
def filtered (mode : BreakMode) (filter : String) : BreakMode :=
  if filter = "all" ∨ filter = "always" then mode.insert all
  else if filter = "userUnhandled" ∨ filter = "user-unhandled" then mode.insert userUnhandled
  else if filter = "never" then never
  else mode

/-- The mode that filter words stand for, taken in order. -/
def ofFilters (filters : List String) : BreakMode :=
  filters.foldl filtered unhandled

/-- The word for a mode, or `none` for flags that no word describes. -/
def keyword? (mode : BreakMode) : Option String :=
  if mode.isNever then some "never"
  else if mode.isAll then some "always"
  else if mode.isUnhandledOnly then some "unhandled"
  else if mode.isUserUnhandled then some "userUnhandled"
  else none

end BreakMode

end DebugAdapter
