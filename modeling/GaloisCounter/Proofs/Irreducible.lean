import GaloisCounter.Proofs.Product
import Mathlib.FieldTheory.Finite.Extension

/-!
The polynomial of the field is irreducible.

Rabin's criterion is evaluated on elements. Squaring x 128 times gives x again, so the degree of
every irreducible factor divides 128. Squaring it 64 times gives an element whose difference from x
has an inverse, so no such degree divides 64.
-/

namespace GaloisCounter

open Polynomial

namespace Element

/-! ## Squares -/

def square (element : Element) : Element := element.multiply element

theorem residue_repeat_square (count : Nat) (element : Element) :
    (Nat.repeat square count element).residue = element.residue ^ 2 ^ count := by
  induction count with
  | zero => rw [Nat.repeat, pow_zero, pow_one]
  | succ count induction =>
      rw [Nat.repeat, square, residue_multiply, induction, ← pow_two, ← pow_mul, ← pow_succ]

@[simp] theorem residue_one : one.residue = 1 := by
  have first (degree : Nat) : one.getMsbD degree = decide (degree = 0) := by
    by_cases small : degree < 128
    · revert degree
      decide
    · rw [BitVec.getMsbD_of_ge one degree (by omega)]
      exact (decide_eq_false (by omega)).symm
  simp [residue_eq_sum, first]

def indeterminate : Element := timesX one

theorem residue_indeterminate : indeterminate.residue = Residue.x := by
  rw [indeterminate, residue_timesX, residue_one, mul_one]

/-! ## The criterion, evaluated -/

/-- What x becomes by 64 squarings. -/
def halfway : Element := 0x6f9945a9e519a7229d4c1ad657f8a686#128

/-- The inverse of the difference between that and x. -/
def certificate : Element := 0x180da934bf53158251c13dbb149f5279#128

theorem repeat_square_indeterminate : Nat.repeat square 64 indeterminate = halfway := by
  decide +kernel

theorem repeat_square_halfway : Nat.repeat square 64 halfway = indeterminate := by
  decide +kernel

theorem multiply_certificate : (halfway ^^^ indeterminate).multiply certificate = one := by
  decide +kernel

end Element

namespace Residue

theorem x_pow_halfway : x ^ 2 ^ 64 = Element.halfway.residue := by
  rw [← Element.repeat_square_indeterminate, Element.residue_repeat_square,
    Element.residue_indeterminate]

theorem x_pow_whole : x ^ 2 ^ 128 = x := by
  calc x ^ 2 ^ (64 + 64)
      = (x ^ 2 ^ 64) ^ 2 ^ 64 := by rw [pow_add 2, pow_mul]
    _ = (Nat.repeat Element.square 64 Element.halfway).residue := by
      rw [x_pow_halfway, Element.residue_repeat_square]
    _ = x := by rw [Element.repeat_square_halfway, Element.residue_indeterminate]

end Residue

/-! ## Irreducibility -/

/-- The polynomial whose irreducible factors are those with a degree that divides `count`. -/
noncomputable def splitting (count : Nat) : (ZMod 2)[X] := X ^ 2 ^ count - X

theorem natDegree_dvd_iff_dvd_splitting {factor : (ZMod 2)[X]} (irreducible : Irreducible factor)
    (count : Nat) : factor.natDegree ∣ count ↔ factor ∣ splitting count := by
  rw [irreducible.natDegree_dvd_iff_dvd_X_pow_card_pow_sub_X, Nat.card_zmod, splitting]

theorem mk_splitting (count : Nat) :
    AdjoinRoot.mk fieldPolynomial (splitting count) = Residue.x ^ 2 ^ count - Residue.x := by
  rw [splitting, map_sub, map_pow, AdjoinRoot.mk_X, Residue.x]

theorem fieldPolynomial_dvd_splitting : fieldPolynomial ∣ splitting 128 := by
  rw [← AdjoinRoot.mk_eq_zero, mk_splitting, Residue.x_pow_whole, sub_self]

theorem isCoprime_of_mk_mul_eq_one {modulus value inverse : (ZMod 2)[X]}
    (product : AdjoinRoot.mk modulus value * AdjoinRoot.mk modulus inverse = 1) :
    IsCoprime modulus value := by
  have multiple : AdjoinRoot.mk modulus (value * inverse - 1) = 0 := by
    rw [map_sub, map_mul, product, map_one, sub_self]
  rcases AdjoinRoot.mk_eq_zero.mp multiple with ⟨cofactor, equal⟩
  exact ⟨-cofactor, inverse, by linear_combination equal⟩

theorem isCoprime_splitting : IsCoprime fieldPolynomial (splitting 64) := by
  have product := congrArg Element.residue Element.multiply_certificate
  rw [Element.residue_multiply, Element.residue_xor, Element.residue_indeterminate,
    Element.residue_one, ← Residue.x_pow_halfway, ← CharTwo.sub_eq_add, ← mk_splitting,
    Element.residue] at product
  exact isCoprime_of_mk_mul_eq_one product

/-- The degree of an irreducible factor divides 128, and does not divide 64. -/
theorem natDegree_of_irreducible_dvd {factor : (ZMod 2)[X]} (irreducible : Irreducible factor)
    (divides : factor ∣ fieldPolynomial) : factor.natDegree = 128 := by
  have whole : factor.natDegree ∣ 128 :=
    (natDegree_dvd_iff_dvd_splitting irreducible 128).mpr
      (divides.trans fieldPolynomial_dvd_splitting)
  have half : ¬factor.natDegree ∣ 64 := by
    rw [natDegree_dvd_iff_dvd_splitting irreducible]
    intro small
    exact irreducible.not_isUnit (isCoprime_splitting.isUnit_of_dvd' divides small)
  have power : 128 = 2 ^ 7 := rfl
  rw [power] at whole
  rcases (Nat.dvd_prime_pow Nat.prime_two).mp whole with ⟨exponent, bound, degree⟩
  have full : exponent = 7 := by
    by_contra less
    exact half (degree ▸ pow_dvd_pow 2 (show exponent ≤ 6 by omega))
  rw [degree, full]
  rfl

theorem irreducible_fieldPolynomial : Irreducible fieldPolynomial := by
  have positive : 0 < fieldPolynomial.natDegree := by
    rw [natDegree_fieldPolynomial]
    decide
  have notUnit := not_isUnit_of_natDegree_pos fieldPolynomial positive
  rcases exists_monic_irreducible_factor fieldPolynomial notUnit with
    ⟨factor, monic, irreducible, divides⟩
  have degree := natDegree_of_irreducible_dvd irreducible divides
  have same : fieldPolynomial = factor := by
    apply eq_of_monic_of_dvd_of_natDegree_le monic monic_fieldPolynomial divides
    rw [natDegree_fieldPolynomial, degree]
  exact same ▸ irreducible

theorem Residue.isDomain : IsDomain Residue :=
  AdjoinRoot.isDomain_of_prime irreducible_fieldPolynomial.prime

end GaloisCounter
