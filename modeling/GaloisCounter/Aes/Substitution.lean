import GaloisCounter.Block

/-!
The byte substitution of AES.

A byte is a polynomial over the two-element field modulo x^8 + x^4 + x^3 + x + 1. It is replaced by
its inverse, and the bits of the inverse are mixed by an affine map.
-/

namespace GaloisCounter.Aes

def double (byte : UInt8) : UInt8 :=
  if byte < 128 then byte <<< 1 else (byte <<< 1) ^^^ 0x1B

def multiply (left right : UInt8) : UInt8 :=
  ((List.range 8).foldl
    (fun (sum, multiple) degree =>
      (if left.toNat.testBit degree then sum ^^^ multiple else sum, double multiple))
    ((0 : UInt8), right)).1

def power (byte : UInt8) (exponent : Nat) : UInt8 := Nat.repeat (multiply byte) exponent 1

/-- The inverse, since the nonzero bytes form a group of order 255. Zero is kept. -/
def inverse (byte : UInt8) : UInt8 := power byte 254

def rotate (byte amount : UInt8) : UInt8 := (byte <<< amount) ||| (byte >>> (8 - amount))

def affine (byte : UInt8) : UInt8 :=
  byte ^^^ rotate byte 1 ^^^ rotate byte 2 ^^^ rotate byte 3 ^^^ rotate byte 4 ^^^ 0x63

def substitutes : Vector UInt8 256 :=
  Vector.ofFn fun index => affine (inverse (UInt8.ofNat index))

def substitute (byte : UInt8) : UInt8 := substitutes.get ⟨byte.toNat, byte.toNat_lt⟩

example : multiply 0x57 0x83 = 0xC1 := by decide

example : affine (inverse 0x53) = 0xED := by decide +kernel

end GaloisCounter.Aes
