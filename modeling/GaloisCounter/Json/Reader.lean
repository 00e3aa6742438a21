import GaloisCounter.Json.Value

/-!
Reading JSON text.

Every reader takes the characters that are left and gives what it read with the characters after
it, or no characters if the text is malformed there.
-/

namespace GaloisCounter.Json

abbrev Rest := List Char

def isBlank (char : Char) : Bool :=
  char = ' ' || char = '\t' || char = '\n' || char = '\r'

def skipBlanks (text : Rest) : Rest := text.dropWhile isBlank

/-! ## Words and numbers -/

def readWord (word : List Char) (value : Value) (text : Rest) : Value × Option Rest :=
  if word.isPrefixOf text then (value, some (text.drop word.length)) else (.malformed, none)

def digitsOf (text : Rest) : List Nat :=
  (text.takeWhile Char.isDigit).map fun char => char.toNat - '0'.toNat

def readDigits (text : Rest) : Option (List Nat × Rest) :=
  match digitsOf text with
  | [] => none
  | digits => some (digits, text.dropWhile Char.isDigit)

/-- No other digit may follow a leading zero. -/
def readInteger (text : Rest) : Option (List Nat × Rest) := do
  let (digits, rest) ← readDigits text
  if digits.head? = some 0 ∧ digits ≠ [0] then none else return (digits, rest)

def readFraction (text : Rest) : Option (Option (List Nat) × Rest) :=
  match text with
  | '.' :: text => do
      let (digits, rest) ← readDigits text
      return (some digits, rest)
  | _ => some (none, text)

def readSign : Rest → Bool × Rest
  | '-' :: rest => (true, rest)
  | '+' :: rest => (false, rest)
  | text => (false, text)

def readExponent (text : Rest) : Option (Option (Bool × List Nat) × Rest) :=
  match text with
  | mark :: rest =>
      if mark = 'e' ∨ mark = 'E' then do
        let (negative, rest) := readSign rest
        let (digits, rest) ← readDigits rest
        return (some (negative, digits), rest)
      else
        some (none, text)
  | [] => some (none, [])

def readNumeral (text : Rest) : Option (Numeral × Rest) := do
  let (negative, text) := match text with
    | '-' :: rest => (true, rest)
    | _ => (false, text)
  let (integer, text) ← readInteger text
  let (fraction, text) ← readFraction text
  let (exponent, text) ← readExponent text
  return ({ negative, integer, fraction, exponent }, text)

/-! ## Strings -/

/-- A character that stands for itself or is escaped by a letter, or an escaped unit of sixteen
bits. -/
inductive Piece
  | char (char : Char)
  | unit (value : Nat)

def hexValue? (char : Char) : Option Nat :=
  if '0' ≤ char ∧ char ≤ '9' then some (char.toNat - '0'.toNat)
  else if 'a' ≤ char ∧ char ≤ 'f' then some (char.toNat - 'a'.toNat + 10)
  else if 'A' ≤ char ∧ char ≤ 'F' then some (char.toNat - 'A'.toNat + 10)
  else none

def hexNumber? (digits : List Char) : Option Nat :=
  digits.foldlM (fun value digit => (hexValue? digit).map (value * 16 + ·)) 0

def escaped? : Char → Option Char
  | '"' => some '"'
  | '\\' => some '\\'
  | '/' => some '/'
  | 'b' => some '\x08'
  | 'f' => some '\x0c'
  | 'n' => some '\n'
  | 'r' => some '\r'
  | 't' => some '\t'
  | _ => none

/-- Reads a string from after its opening quote to after its closing one. Control characters have
to be escaped. -/
def readPieces : Rest → Option (List Piece × Rest)
  | [] => none
  | '"' :: rest => some ([], rest)
  | '\\' :: 'u' :: first :: second :: third :: fourth :: rest => do
      let value ← hexNumber? [first, second, third, fourth]
      let (pieces, rest) ← readPieces rest
      return (.unit value :: pieces, rest)
  | '\\' :: letter :: rest => do
      let char ← escaped? letter
      let (pieces, rest) ← readPieces rest
      return (.char char :: pieces, rest)
  | char :: rest =>
      if char = '\\' ∨ char.toNat < 0x20 then
        none
      else do
        let (pieces, rest) ← readPieces rest
        return (.char char :: pieces, rest)

def isHighSurrogate (unit : Nat) : Bool := 0xD800 ≤ unit && unit < 0xDC00

def isLowSurrogate (unit : Nat) : Bool := 0xDC00 ≤ unit && unit < 0xE000

/-- Joins the units of surrogate pairs. Half a pair stands for no character. -/
def content? : List Piece → Option (List Char)
  | [] => some []
  | .char char :: rest => do return char :: (← content? rest)
  | .unit high :: .unit low :: rest =>
      if isHighSurrogate high then
        if isLowSurrogate low then do
          let char := Char.ofNat (0x10000 + (high - 0xD800) * 0x400 + (low - 0xDC00))
          return char :: (← content? rest)
        else
          none
      else if isLowSurrogate high then
        none
      else do
        return Char.ofNat high :: (← content? (.unit low :: rest))
  | .unit unit :: rest =>
      if isHighSurrogate unit || isLowSurrogate unit then none
      else do return Char.ofNat unit :: (← content? rest)

def readString (text : Rest) : Option (Content × Rest) := do
  let (pieces, rest) ← readPieces text
  return ((content? pieces).map String.ofList, rest)

/-- Reads the key of a member. A key has to be a string in every object, also in one that is read as
a choice: any other value in its place is malformed text. -/
def readKey (text : Rest) : Option (Content × Rest) :=
  match skipBlanks text with
  | '"' :: rest => readString rest
  | _ => none

/-! ## Values -/

mutual
/-- Reads a value. Each level of nesting and each item takes one from `fuel`. -/
def readValue (fuel : Nat) (text : Rest) : Value × Option Rest :=
  match fuel with
  | 0 => (.malformed, none)
  | fuel + 1 =>
      match skipBlanks text with
      | 'n' :: rest => readWord "ull".toList .null rest
      | 't' :: rest => readWord "rue".toList (.boolean true) rest
      | 'f' :: rest => readWord "alse".toList (.boolean false) rest
      | '"' :: rest =>
          match readString rest with
          | some (content, rest) => (.string content, some rest)
          | none => (.malformed, none)
      | '[' :: rest =>
          match skipBlanks rest with
          | ']' :: rest => (.array [] true, some rest)
          | rest =>
              let (items, closed, rest) := readItems fuel rest
              (.array items closed, rest)
      | '{' :: rest =>
          match skipBlanks rest with
          | '}' :: rest => (.object [] true, some rest)
          | rest =>
              let (members, closed, rest) := readMembers fuel rest
              (.object members closed, rest)
      | rest =>
          match readNumeral rest with
          | some (numeral, rest) => (.numeral numeral, some rest)
          | none => (.malformed, none)

def readItems (fuel : Nat) (text : Rest) : List Value × Bool × Option Rest :=
  match fuel with
  | 0 => ([], false, none)
  | fuel + 1 =>
      let (item, rest) := readValue fuel text
      match rest.map skipBlanks with
      | some (',' :: rest) =>
          let (items, closed, rest) := readItems fuel rest
          (item :: items, closed, rest)
      | some (']' :: rest) => ([item], true, some rest)
      | _ => ([item], false, none)

def readMembers (fuel : Nat) (text : Rest) : List (Content × Value) × Bool × Option Rest :=
  match fuel with
  | 0 => ([], false, none)
  | fuel + 1 =>
      match readKey text with
      | none => ([], false, none)
      | some (key, rest) =>
          match skipBlanks rest with
          | ':' :: rest =>
              let (value, rest) := readValue fuel rest
              match rest.map skipBlanks with
              | some (',' :: rest) =>
                  let (members, closed, rest) := readMembers fuel rest
                  ((key, value) :: members, closed, rest)
              | some ('}' :: rest) => ([(key, value)], true, some rest)
              | _ => ([(key, value)], false, none)
          | _ => ([(key, .malformed)], false, none)
end

/-- Each item takes at least two characters, one of its own and one that separates it, and every
level of nesting takes one. -/
def readDocument (text : String) : Document :=
  let characters := text.toList
  let (value, rest) := readValue (2 * characters.length + 2) characters
  ⟨value, rest.any fun rest => (skipBlanks rest).isEmpty⟩

end GaloisCounter.Json
