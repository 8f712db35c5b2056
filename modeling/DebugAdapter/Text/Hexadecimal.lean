/-!
# Hexadecimal texts

Numbers in lower-case hexadecimal behind `0x`, padded with zeros to a width.
-/

namespace DebugAdapter

/-- A number in hexadecimal with at least `width` digits. -/
def hexadecimal (width n : Nat) : String :=
  let digits := Nat.toDigits 16 n
  "0x" ++ String.ofList (List.replicate (width - digits.length) '0' ++ digits)

end DebugAdapter
