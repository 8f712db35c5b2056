import DebugAdapter.Json.Fault

/-!
# Strings in JSON text

The bytes of a literal are collected with every escape replaced by the UTF-8 form of its character;
what has been collected at the closing quote has to be well-formed UTF-8.
-/

namespace DebugAdapter.Json.Reader

open Ascii

/-- The byte that a short escape stands for. -/
def shortEscape? (b : UInt8) : Option UInt8 :=
  if b = quotationMark ∨ b = backslash ∨ b = slash then some b
  else if b = letterB then some 0x08
  else if b = letterF then some 0x0C
  else if b = letterN then some lineFeed
  else if b = letterR then some carriageReturn
  else if b = letterT then some tab
  else none

/-- The number that four hexadecimal digits spell. -/
def fourHex? (a b c d : UInt8) : Option Nat := do
  pure ((((← hexValue? a) * 16 + (← hexValue? b)) * 16 + (← hexValue? c)) * 16 + (← hexValue? d))

/-- The first half of a surrogate pair. -/
def isLeading (n : Nat) : Bool :=
  0xD800 ≤ n && n ≤ 0xDBFF

/-- The second half of a surrogate pair. -/
def isTrailing (n : Nat) : Bool :=
  0xDC00 ≤ n && n ≤ 0xDFFF

/-- The character of a surrogate pair. -/
def pairChar (leading trailing : Nat) : Char :=
  Char.ofNat ((leading - 0xD800) * 0x400 + (trailing - 0xDC00) + 0x10000)

/-- A character's bytes in front of those collected so far, last byte first. -/
def collect (c : Char) (acc : Bytes) : Bytes :=
  (String.utf8EncodeChar c).reverse ++ acc

/-- The bytes of a literal, last byte first, and the rest behind its closing
quote. An escape of a leading surrogate has to be followed by one of a trailing
surrogate, and a trailing surrogate may stand only there. -/
def literalBytes (acc : Bytes) : Bytes → Except Fault (Bytes × Bytes)
  | [] => .error ⟨.endInString, []⟩
  | b :: rest =>
    if b = quotationMark then .ok (acc, rest)
    else if b < space then .error ⟨.controlCharacter, rest⟩
    else if b ≠ backslash then literalBytes (b :: acc) rest
    else
      match rest with
      | [] => .error ⟨.endInString, []⟩
      | e :: rest =>
        if e ≠ letterU then
          match shortEscape? e with
          | some c => literalBytes (c :: acc) rest
          | none => .error ⟨.badEscape, rest⟩
        else
          match rest with
          | h₁ :: h₂ :: h₃ :: h₄ :: rest =>
            match fourHex? h₁ h₂ h₃ h₄ with
            | none => .error ⟨.badEscape, rest⟩
            | some n =>
              if isTrailing n then .error ⟨.loneSurrogate, rest⟩
              else if !isLeading n then literalBytes (collect (Char.ofNat n) acc) rest
              else
                match rest with
                | [] => .error ⟨.endInString, []⟩
                | b :: rest =>
                  if b ≠ backslash then .error ⟨.brokenSurrogatePair, rest⟩
                  else
                    match rest with
                    | [] => .error ⟨.endInString, []⟩
                    | e :: rest =>
                      if e ≠ letterU then .error ⟨.brokenSurrogatePair, rest⟩
                      else
                        match rest with
                        | g₁ :: g₂ :: g₃ :: g₄ :: rest =>
                          match fourHex? g₁ g₂ g₃ g₄ with
                          | none => .error ⟨.badEscape, rest⟩
                          | some m =>
                            if isTrailing m then literalBytes (collect (pairChar n m) acc) rest
                            else .error ⟨.loneSurrogate, rest⟩
                        | _ => .error ⟨.endInString, []⟩
          | _ => .error ⟨.endInString, []⟩

/-- The text of a literal and the rest behind its closing quote. If the bytes
collected are not well-formed, the place of the fault is counted back from behind
the closing quote, by as many bytes as were collected from the first stray one on.
Without escapes that is right behind the stray byte; an escape after it moves the
place towards the quote, since it spells fewer bytes than it takes. -/
def stringLiteral (text : Bytes) : Except Fault (String × Bytes) := do
  let (collected, rest) ← literalBytes [] text
  match Utf8.decode? collected.reverse with
  | some s => pure (s, rest)
  | none =>
    let strays := (Utf8.fromStray collected.reverse).length
    .error ⟨.badEncoding, text.drop (text.length - rest.length - strays)⟩

/-- The rest behind the closing quote of a literal that is passed over. Only the
form of its escapes matters. -/
def skipString : Bytes → Except Fault Bytes
  | [] => .error ⟨.endInString, []⟩
  | b :: rest =>
    if b = quotationMark then .ok rest
    else if b < space then .error ⟨.controlCharacter, b :: rest⟩
    else if b ≠ backslash then skipString rest
    else
      match rest with
      | [] => .error ⟨.endInString, []⟩
      | e :: rest =>
        if e ≠ letterU then
          if (shortEscape? e).isSome then skipString rest else .error ⟨.badEscape, rest⟩
        else
          match rest with
          | h₁ :: h₂ :: h₃ :: h₄ :: rest =>
            if (fourHex? h₁ h₂ h₃ h₄).isSome then skipString rest
            else .error ⟨.badEscape, rest⟩
          | _ => .error ⟨.endInString, []⟩

end DebugAdapter.Json.Reader
