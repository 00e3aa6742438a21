import GaloisCounter.Field.Element

/-!
Products with one fixed factor, four coefficients at a time.

The table holds the sixteen products of the factor with the polynomials of degree below four, and a
product walks over the 32 groups of four coefficients by Horner's rule.
-/

namespace GaloisCounter

/-- Entry `n` belongs to the polynomial whose coefficients are the bits of `n`, the constant term
being the most significant of the four. -/
structure Table where
  entries : Vector Element 16
  deriving DecidableEq

namespace Table

/-- The sum of the factor's products with x^0, …, x^3 that the four bits of `index` choose. -/
def entry (factor : Element) (index : Nat) : Element :=
  (List.range 4).foldl
    (fun sum degree =>
      if index.testBit (3 - degree) then sum ^^^ Nat.repeat Element.timesX degree factor else sum)
    0

def ofFactor (factor : Element) : Table where
  entries := Vector.ofFn fun index => entry factor index

/-- The four coefficients of x^(4 * group), …, x^(4 * group + 3) as an index into the table. -/
def group (element : Element) (position : Nat) : Fin 16 :=
  Fin.ofNat 16 (element >>> (124 - 4 * position)).toNat

/-- Groups are taken from the highest degree down. Between two of them the sum is multiplied by
x^4. -/
def multiply (table : Table) (element : Element) : Element :=
  (List.range 32).foldr
    (fun position sum =>
      Nat.repeat Element.timesX 4 sum ^^^ table.entries[group element position])
    0

def wiped : Table where
  entries := Vector.replicate 16 0

def description : String := "Gf128Table([REDACTED])"

end Table

end GaloisCounter
