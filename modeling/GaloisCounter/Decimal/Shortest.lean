/-!
The shortest decimal text of a binary floating point number.

A number of 64 bits stands for all reals that round to it. Of the grids of multiples of a power of
ten, the coarsest that has a point among these reals is taken, and on it the point nearest to the
number.
-/

namespace GaloisCounter.Decimal

/-- The positive number `significand * 2 ^ exponent`. It is narrow if the numbers below it lie twice
as close as those above, which is so at the powers of two. -/
structure Binary where
  significand : Nat
  exponent : Int
  narrow : Bool

structure Digits where
  significand : Nat
  exponent : Int

def Binary.ofBits (bits : Nat) : Binary :=
  let fraction := bits % (1 <<< 52)
  let scale : Nat := bits / (1 <<< 52)
  if scale = 0 then
    ⟨fraction, -1074, false⟩
  else
    ⟨(1 <<< 52) + fraction, (scale : Int) - 1075, fraction = 0 ∧ 1 < scale⟩

/-- The point of the grid of `10 ^ exponent` that is nearest to the number, if it rounds to the
number. Of two that are equally near, the even one is taken. -/
def pointOnGrid (number : Binary) (exponent : Int) : Option Digits :=
  let unit := Nat.pow 10 (-exponent).toNat <<< (number.exponent - 2).toNat
  let step := Nat.pow 10 exponent.toNat <<< (2 - number.exponent).toNat
  let value := 4 * number.significand * unit
  let low := value - (if number.narrow then 1 else 2) * unit
  let high := value + 2 * unit
  let closed := number.significand % 2 = 0
  let rounds (point : Nat) : Bool :=
    if closed then low ≤ point * step ∧ point * step ≤ high
    else low < point * step ∧ point * step < high
  let lower := value / step
  let down := value - lower * step
  let up := (lower + 1) * step - value
  let nearest := if down < up ∨ (down = up ∧ lower % 2 = 0) then lower else lower + 1
  let other := if nearest = lower then lower + 1 else lower
  if rounds nearest then some ⟨nearest, exponent⟩
  else if rounds other then some ⟨other, exponent⟩
  else none

def search (number : Binary) : (count : Nat) → (exponent : Int) → Digits
  | 0, exponent => ⟨0, exponent⟩
  | count + 1, exponent =>
      match pointOnGrid number exponent with
      | some digits => digits
      | none => search number count (exponent - 1)

/-- The grids range from the largest numbers to the finest spacing. -/
def shortest (number : Binary) : Digits := search number 640 309

def zeros (count : Int) : List Char := List.replicate count.toNat '0'

def exponentText (exponent : Int) : List Char :=
  'e' :: (if exponent < 0 then '-' else '+') :: Nat.toDigits 10 exponent.natAbs

/-- Numbers from 10^-5 up to 10^16 are written without an exponent and with at least one decimal. -/
def Digits.text (digits : Digits) : List Char :=
  let written := Nat.toDigits 10 digits.significand
  let point := written.length + digits.exponent
  if 0 ≤ digits.exponent ∧ point ≤ 16 then
    written ++ zeros digits.exponent ++ ['.', '0']
  else if 0 < point ∧ point ≤ 16 then
    written.take point.toNat ++ ['.'] ++ written.drop point.toNat
  else if -5 < point ∧ point ≤ 0 then
    ['0', '.'] ++ zeros (-point) ++ written
  else
    let fraction := written.drop 1
    written.take 1 ++ (if fraction.isEmpty then [] else '.' :: fraction) ++ exponentText (point - 1)

example : (Digits.mk 1 15).text ++ [' '] ++ (Digits.mk 15 15).text =
    "1000000000000000.0 1.5e+16".toList := by decide +kernel

example : (Digits.mk 1 (-5)).text ++ [' '] ++ (Digits.mk 1 (-6)).text = "0.00001 1e-6".toList := by
  decide +kernel

def text (number : Float) : String :=
  let bits := number.toBits.toNat
  let sign := if bits < 1 <<< 63 then "" else "-"
  let magnitude := bits % (1 <<< 63)
  if magnitude = 0 then sign ++ "0.0"
  else sign ++ String.ofList (shortest (Binary.ofBits magnitude)).text

end GaloisCounter.Decimal
