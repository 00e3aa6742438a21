import GaloisCounter.Config.TagLength
import GaloisCounter.Text.Named

/-!
The settings under which messages are sealed and opened.
-/

namespace GaloisCounter

inductive LengthLimit
  /-- The lengths up to which the mode of operation is sound. -/
  | standard
  | compact
  deriving DecidableEq

inductive AadPolicy
  | required
  | optional
  deriving DecidableEq

inductive IvPolicy
  | any
  /-- Twelve bytes only. -/
  | standardOnly
  deriving DecidableEq

structure Config where
  tagLength : TagLength := .full
  lengthLimit : LengthLimit := .standard
  aadPolicy : AadPolicy := .required
  ivPolicy : IvPolicy := .any
  /-- This is the default of a build without the feature `table-ghash`, the only build described
  here. With the feature the default is the table. -/
  backend : Backend := .bitwise
  deriving DecidableEq

namespace LengthLimit

/-- Bytes of associated data in a message. The standard limit 2^61 - 1 is the largest whose number
of bits fits 64 bits. -/
def maxAad : LengthLimit → Nat
  | standard => 0x1FFFFFFFFFFFFFFF
  | compact => 255

/-- Bytes of text in a message. The standard limit 2^36 - 32 is 2^32 - 2 blocks, so that no counter
is repeated. -/
def maxMessage : LengthLimit → Nat
  | standard => 0xFFFFFFFE0
  | compact => 255

def maxUpdate : LengthLimit → Nat
  | standard => 0xFFFFFFFE0
  | compact => 255

end LengthLimit

namespace Config

def compact : Config := { lengthLimit := .compact }

end Config

/-! ## Names -/

instance : Text.Named LengthLimit where
  choices := [.standard, .compact]
  name
    | .standard => "Standard"
    | .compact => "Compact"

instance : Text.Named AadPolicy where
  choices := [.required, .optional]
  name
    | .required => "Required"
    | .optional => "Optional"

instance : Text.Named IvPolicy where
  choices := [.any, .standardOnly]
  name
    | .any => "Any"
    | .standardOnly => "Standard96Only"

instance : Text.Named Backend where
  choices := [.bitwise, .table]
  name := Backend.name

namespace TagLength

def description (length : TagLength) : String := "TagLength(" ++ toString length.bytes ++ ")"

end TagLength

namespace Config

def description (config : Config) : String :=
  Text.record "GcmConfig"
    [("tag_length", config.tagLength.description),
      ("length_limit", Text.Named.name config.lengthLimit),
      ("aad_policy", Text.Named.name config.aadPolicy),
      ("iv_policy", Text.Named.name config.ivPolicy),
      ("ghash_backend", Text.Named.name config.backend)]

def json (config : Config) : String :=
  let quoted (text : String) : String := "\"" ++ text ++ "\""
  let members :=
    [("tag_length", toString config.tagLength.bytes),
      ("length_limit", quoted (Text.Named.name config.lengthLimit)),
      ("aad_policy", quoted (Text.Named.name config.aadPolicy)),
      ("iv_policy", quoted (Text.Named.name config.ivPolicy)),
      ("ghash_backend", quoted (Text.Named.name config.backend))]
  "\x7b" ++ ",".intercalate (members.map fun (name, value) => quoted name ++ ":" ++ value) ++ "\x7d"

end Config

end GaloisCounter
