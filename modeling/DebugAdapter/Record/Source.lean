import DebugAdapter.Json.Basic

/-!
# Sources

Where code comes from: a file, or text that the debugger holds under a number.
-/

namespace DebugAdapter

/-- How a checksum is computed. -/
inductive ChecksumAlgorithm where
  | md5
  | sha1
  | sha256
  | timestamp
  deriving DecidableEq, Repr

/-- The name of an algorithm. -/
def ChecksumAlgorithm.name : ChecksumAlgorithm → String
  | .md5 => "MD5"
  | .sha1 => "SHA1"
  | .sha256 => "SHA256"
  | .timestamp => "timestamp"

/-- A checksum of a source text. -/
structure Checksum where
  algorithm : ChecksumAlgorithm
  checksum : String
  deriving DecidableEq, Repr

/-- A checksum in a message. -/
def Checksum.toJson (c : Checksum) : Json :=
  .ofFields [("algorithm", .string c.algorithm.name), ("checksum", .string c.checksum)]

/-- How a source is shown. -/
inductive SourceHint where
  | normal
  | emphasize
  | deEmphasize
  deriving DecidableEq, Repr

/-- The name of a hint. -/
def SourceHint.name : SourceHint → String
  | .normal => "normal"
  | .emphasize => "emphasize"
  | .deEmphasize => "deEmphasize"

/-- A source of code, possibly made of further sources. -/
structure Source where
  name : Option String := none
  path : Option String := none
  sourceReference : Option Int32 := none
  presentationHint : Option SourceHint := none
  origin : Option String := none
  sources : Option (List Source) := none
  adapterData : Option Json := none
  checksums : Option (List Checksum) := none
  deriving Repr, Inhabited

namespace Source

mutual

/-- A source in a message. -/
def toJson : Source → Json
  | ⟨name, path, sourceReference, presentationHint, origin, sources, adapterData, checksums⟩ =>
    .ofSome [
      ("name", name.map .string),
      ("path", path.map .string),
      ("source_reference", sourceReference.map fun i => .int i.toInt),
      ("presentation_hint", presentationHint.map fun hint => .string hint.name),
      ("origin", origin.map .string),
      ("sources", partsToJson sources),
      ("adapter_data", adapterData),
      ("checksums", checksums.map fun sums => .array (sums.map Checksum.toJson))]

/-- The sources that a source is made of, in a message. -/
def partsToJson : Option (List Source) → Option Json
  | none => none
  | some sources => some (.array (listToJson sources))

/-- Sources in a message, one by one. -/
def listToJson : List Source → List Json
  | [] => []
  | source :: rest => source.toJson :: listToJson rest

end

end Source

end DebugAdapter
