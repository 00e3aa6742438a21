/-!
Numbers as JSON writes them, and the quantities they stand for.
-/

namespace GaloisCounter.Json

structure Numeral where
  negative : Bool
  integer : List Nat
  fraction : Option (List Nat)
  /-- Whether the exponent is negative, and its digits. -/
  exponent : Option (Bool × List Nat)
  deriving DecidableEq

/-- What a number is read as. Numbers with a fraction or an exponent, and integers that fit no word
of 64 bits, are floating point numbers. -/
inductive Quantity
  | natural (value : Nat)
  | negative (value : Int)
  | floating (value : Float)

namespace Numeral

def ofDigits (digits : List Nat) : Nat :=
  digits.foldl (fun value digit => value * 10 + digit) 0

/-- Appends digits to a significand as long as it fits a word of 64 bits. The digits from the first
that does not fit are left over. -/
def extend (significand : Nat) : List Nat → Nat × List Nat
  | [] => (significand, [])
  | digit :: rest =>
      let longer := significand * 10 + digit
      if longer < 1 <<< 64 then extend longer rest else (significand, digit :: rest)

/-! ## Floating point numbers -/

def powerOfTen (exponent : Nat) : Float := Float.ofScientific 1 false exponent

/-- Divides by a power of ten in steps that are themselves floating point numbers. -/
def divideByPower (value : Float) (exponent : Nat) : Float :=
  if exponent ≤ 308 then
    value / powerOfTen exponent
  else if value == 0 then
    value
  else
    divideByPower (value / powerOfTen 308) (exponent - 308)
termination_by exponent

/-- A significand times a power of ten, rounded after the significand and after the product. There
is no result if it is too large. -/
def scale (significand : Nat) (exponent : Int) : Option Float :=
  let value := (UInt64.ofNat significand).toFloat
  if exponent < 0 then
    some (divideByPower value (-exponent).toNat)
  else if exponent ≤ 308 then
    let product := value * powerOfTen exponent.toNat
    if product.isInf then none else some product
  else if significand = 0 then
    some value
  else
    none

/-- Moves the point by the written exponent. An exponent past 31 bits gives zero or no number. -/
def applyExponent (significand : Nat) (places : Int) : Option (Bool × List Nat) → Option Float
  | none => scale significand places
  | some (isNegative, digits) =>
      let amount := ofDigits digits
      if amount < 1 <<< 31 then
        scale significand (if isNegative then places - amount else places + amount)
      else if significand ≠ 0 ∧ !isNegative then
        none
      else
        some 0

/-- The magnitude as a floating point number. Digits that the significand has no room for only
count in the power of ten, or not at all behind the point. -/
def magnitude? (numeral : Numeral) : Option Float :=
  let (integer, excess) := extend 0 numeral.integer
  let (significand, places) := match numeral.fraction with
    | none => (integer, (excess.length : Int))
    | some fraction =>
        let (significand, dropped) := extend integer fraction
        (significand, (excess.length : Int) - (fraction.length - dropped.length : Nat))
  applyExponent significand places numeral.exponent

/-! ## Quantities -/

def isInteger (numeral : Numeral) : Bool := numeral.fraction.isNone && numeral.exponent.isNone

def quantity? (numeral : Numeral) : Option Quantity :=
  let value := ofDigits numeral.integer
  if numeral.isInteger ∧ !numeral.negative ∧ value < 1 <<< 64 then
    some (.natural value)
  else if numeral.isInteger ∧ numeral.negative ∧ 0 < value ∧ value ≤ 1 <<< 63 then
    some (.negative (-value))
  else
    numeral.magnitude?.map fun magnitude =>
      .floating (if numeral.negative then -magnitude else magnitude)

end Numeral

end GaloisCounter.Json
