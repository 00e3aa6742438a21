import GaloisCounter.Config.Basic
import GaloisCounter.Decimal.Shortest
import GaloisCounter.Json.Reader
import GaloisCounter.Text.Quoted

/-!
Configurations read from JSON.

A configuration is an object with a member for each setting, in any order, or an array of settings
in the order of their declaration. Settings that are missing take their defaults, and members that
are no settings are ignored. The first fault in the order of the text is reported.
-/

namespace GaloisCounter.Config

open GaloisCounter.Json (Content Value Document Quantity)

inductive Setting
  | tagLength
  | lengthLimit
  | aadPolicy
  | ivPolicy
  | backend
  deriving DecidableEq

instance : Text.Named Setting where
  choices := [.tagLength, .lengthLimit, .aadPolicy, .ivPolicy, .backend]
  name
    | .tagLength => "tag_length"
    | .lengthLimit => "length_limit"
    | .aadPolicy => "aad_policy"
    | .ivPolicy => "iv_policy"
    | .backend => "ghash_backend"

/-! ## Faults -/

inductive Found
  | null
  | boolean (value : Bool)
  | quantity (value : Quantity)
  | string (content : String)
  | sequence
  | map

inductive DecodeError
  /-- The text is not JSON, or a setting is of a form that is not looked into. -/
  | malformed
  | invalidType (found : Found) (expected : String)
  | invalidValue (found : Found) (expected : String)
  | unknownVariant (name : String) (known : List String)
  | duplicateSetting (setting : Setting)
  | rejected (error : Error)

namespace Found

/-- The kind of a value. Strings and numbers have to be well formed for it, arrays and objects need
only begin. -/
def ofValue? : Value → Option Found
  | .null => some null
  | .boolean value => some (boolean value)
  | .numeral numeral => numeral.quantity?.map quantity
  | .string content => content.map string
  | .array .. => some sequence
  | .object .. => some map
  | .malformed => none

def marked (kind text : String) : String := kind ++ " `" ++ text ++ "`"

def text : Found → String
  | null => "null"
  | boolean value => marked "boolean" (toString value)
  | quantity (.natural value) => marked "integer" (toString value)
  | quantity (.negative value) => marked "integer" (toString value)
  | quantity (.floating value) => marked "floating point" (Decimal.text value)
  | string content => "string " ++ Text.quoted content
  | sequence => "sequence"
  | map => "map"

end Found

namespace DecodeError

def unexpected (value : Value) (expected : String) : DecodeError :=
  match Found.ofValue? value with
  | none => malformed
  | some found => invalidType found expected

def oneOf (names : List String) : String :=
  match names.map fun name => "`" ++ name ++ "`" with
  | [] => "there are no variants"
  | [only] => "expected " ++ only
  | [first, second] => "expected " ++ first ++ " or " ++ second
  | several => "expected one of " ++ ", ".intercalate several

def message? : DecodeError → Option String
  | malformed => none
  | invalidType found expected =>
      some ("invalid type: " ++ found.text ++ ", expected " ++ expected)
  | invalidValue found expected =>
      some ("invalid value: " ++ found.text ++ ", expected " ++ expected)
  | unknownVariant name known => some ("unknown variant `" ++ name ++ "`, " ++ oneOf known)
  | duplicateSetting setting => some ("duplicate field `" ++ Text.Named.name setting ++ "`")
  | rejected error => some error.message

end DecodeError

abbrev Decoded (Result : Type) := ExceptT DecodeError Traced Result

def Decoded.quietly (result : Except DecodeError Result) : Decoded Result :=
  ExceptT.mk (return result)

/-! ## Settings -/

def decodeTagLength (value : Value) : Decoded TagLength :=
  let expected := "usize"
  match Found.ofValue? value with
  | some (.quantity (.natural bytes)) => do
      match ← (TagLength.ofBytes bytes : Traced _) with
      | .ok length => return length
      | .error error => throw (.rejected error)
  | some (.quantity (.negative number)) =>
      throw (.invalidValue (.quantity (.negative number)) expected)
  | _ => throw (.unexpected value expected)

def chooseNamed (Choice : Type) [Text.Named Choice] (name : String) :
    Except DecodeError Choice :=
  match Text.Named.ofName? name with
  | some choice => .ok choice
  | none => .error (.unknownVariant name (Text.Named.names Choice))

def decodeMember [Text.Named Choice] :
    List (Content × Value) → Bool → Except DecodeError Choice
  | (some name, value) :: rest, closed => do
      let choice ← chooseNamed Choice name
      match value with
      | .null => if rest.isEmpty && closed then .ok choice else .error .malformed
      | _ => .error (.unexpected value "unit")
  | _, _ => .error .malformed

/-- A choice is written by its name, or as an object whose only key is the name and whose value is
null. -/
def decodeChoice [Text.Named Choice] : Value → Except DecodeError Choice
  | .string (some name) => chooseNamed Choice name
  | .object members closed => decodeMember members closed
  | _ => .error .malformed

structure Draft where
  tagLength : Option TagLength := none
  lengthLimit : Option LengthLimit := none
  aadPolicy : Option AadPolicy := none
  ivPolicy : Option IvPolicy := none
  backend : Option Backend := none

namespace Draft

def has (settings : Draft) : Setting → Bool
  | .tagLength => settings.tagLength.isSome
  | .lengthLimit => settings.lengthLimit.isSome
  | .aadPolicy => settings.aadPolicy.isSome
  | .ivPolicy => settings.ivPolicy.isSome
  | .backend => settings.backend.isSome

def decode (settings : Draft) (setting : Setting) (value : Value) : Decoded Draft :=
  match setting with
  | .tagLength => do
      let tagLength ← decodeTagLength value
      return { settings with tagLength := some tagLength }
  | .lengthLimit => do
      let lengthLimit ← Decoded.quietly (decodeChoice value)
      return { settings with lengthLimit := some lengthLimit }
  | .aadPolicy => do
      let aadPolicy ← Decoded.quietly (decodeChoice value)
      return { settings with aadPolicy := some aadPolicy }
  | .ivPolicy => do
      let ivPolicy ← Decoded.quietly (decodeChoice value)
      return { settings with ivPolicy := some ivPolicy }
  | .backend => do
      let backend ← Decoded.quietly (decodeChoice value)
      return { settings with backend := some backend }

def complete (settings : Draft) : Config :=
  let default : Config := {}
  { tagLength := settings.tagLength.getD default.tagLength
    lengthLimit := settings.lengthLimit.getD default.lengthLimit
    aadPolicy := settings.aadPolicy.getD default.aadPolicy
    ivPolicy := settings.ivPolicy.getD default.ivPolicy
    backend := settings.backend.getD default.backend }

end Draft

/-! ## Configurations -/

/-- A repeated setting is reported without a look at its second value. -/
def decodeMembers (settings : Draft) : List (Content × Value) → Decoded Draft
  | [] => return settings
  | (none, _) :: _ => throw .malformed
  | (some name, value) :: rest => do
      match (Text.Named.ofName? name : Option Setting) with
      | none =>
          if value.wellFormed then decodeMembers settings rest else throw .malformed
      | some setting =>
          if settings.has setting then throw (.duplicateSetting setting)
          let extended ← settings.decode setting value
          decodeMembers extended rest

/-- Reads items as the settings in `names`. There may be fewer items. -/
def decodeItems (settings : Draft) : (names : List Setting) → List Value → Decoded Draft
  | _, [] => return settings
  | [], _ :: _ => throw .malformed
  | setting :: names, value :: rest => do
      let extended ← settings.decode setting value
      decodeItems extended names rest

def decodeValue (value : Value) : Decoded Config :=
  match value with
  | .object members closed => do
      let settings ← decodeMembers {} members
      if closed then return settings.complete else throw .malformed
  | .array items closed => do
      let settings ← decodeItems {} Text.Named.choices items
      if closed then return settings.complete else throw .malformed
  | _ => throw (.unexpected value "struct GcmConfig")

def decodeDocument (document : Document) : Decoded Config := do
  let config ← decodeValue document.value
  if document.complete then return config else throw .malformed

def decode (text : String) : Traced (Except DecodeError Config) :=
  (decodeDocument (Json.readDocument text)).run

end GaloisCounter.Config
