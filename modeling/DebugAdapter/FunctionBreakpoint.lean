/-!
# Function breakpoints

A breakpoint on a function, named by the client as `[module!]name[(params)]`.
-/

namespace DebugAdapter

/-- A breakpoint on a function. -/
structure FunctionBreakpoint where
  module : String := ""
  name : String := ""
  params : String := ""
  condition : String := ""
  deriving DecidableEq, Repr, Inhabited

namespace FunctionBreakpoint

/-- A text cut at its first exclamation mark, which goes to neither side; without
one, everything is on the right. -/
def splitModule (text : List Char) : List Char × List Char :=
  match text.dropWhile (· ≠ '!') with
  | [] => ([], text)
  | _ :: rest => (text.takeWhile (· ≠ '!'), rest)

/-- The shortest beginning of a text that closes as many parentheses as it opens,
`depth` of them being open before it; the whole text if there is none. -/
def group : (depth : Nat) → List Char → List Char
  | _, [] => []
  | depth, c :: rest =>
    if c = '(' then c :: group (depth + 1) rest
    else if c = ')' then c :: if depth ≤ 1 then [] else group (depth - 1) rest
    else c :: group depth rest

/-- The parts of a qualified name; the condition is empty. -/
def ofName (qualified : String) : FunctionBreakpoint :=
  let (module, rest) := splitModule qualified.toList
  { module := String.ofList module
    name := String.ofList (rest.takeWhile (· ≠ '('))
    params := String.ofList (group 0 (rest.dropWhile (· ≠ '('))) }

end FunctionBreakpoint

end DebugAdapter
