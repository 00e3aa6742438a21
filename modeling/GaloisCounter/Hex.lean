import GaloisCounter.Bytes

/-!
Byte strings written with two hexadecimal digits a byte.
-/

namespace GaloisCounter.Hex

def digit (value : Nat) : Char := (Nat.toDigits 16 (value % 16)).headD '0'

def encodeByte (byte : UInt8) : List Char := [digit (byte.toNat / 16), digit byte.toNat]

def encode (bytes : Bytes) : String := String.ofList (bytes.flatMap encodeByte)

def digitValue? (char : Char) : Option Nat :=
  if '0' ≤ char ∧ char ≤ '9' then some (char.toNat - '0'.toNat)
  else if 'a' ≤ char ∧ char ≤ 'f' then some (char.toNat - 'a'.toNat + 10)
  else none

def decodeList? : List Char → Option Bytes
  | [] => some []
  | high :: low :: rest => do
      let high ← digitValue? high
      let low ← digitValue? low
      let rest ← decodeList? rest
      return UInt8.ofNat (high * 16 + low) :: rest
  | [_] => none

def decode? (text : String) : Option Bytes := decodeList? text.toList

end GaloisCounter.Hex
