/-!
# White space

The characters with the Unicode property `White_Space`.
-/

namespace DebugAdapter

/-- White space: the tabs, line and page breaks of the control area, the spaces
of fixed and variable width, and the two separators of lines and paragraphs. -/
def isBlank (c : Char) : Bool :=
  ('\t' ≤ c && c ≤ '\r') || c = ' ' || c = '\u0085' || c = '\u00A0' || c = '\u1680' ||
    ('\u2000' ≤ c && c ≤ '\u200A') || c = '\u2028' || c = '\u2029' || c = '\u202F' ||
    c = '\u205F' || c = '\u3000'

/-- A text without its trailing characters of a class. -/
def dropTrailing (p : Char → Bool) (text : List Char) : List Char :=
  (text.reverse.dropWhile p).reverse

/-- A text without the white space at its two ends. -/
def trimBlank (text : List Char) : List Char :=
  dropTrailing isBlank (text.dropWhile isBlank)

end DebugAdapter
