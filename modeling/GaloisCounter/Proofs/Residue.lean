import GaloisCounter.Field.Element
import Mathlib

/-!
Elements as polynomials over the two-element field, and as residues modulo the polynomial of the
field.

Residues form a commutative ring, so what the operations on elements compute is said and calculated
there. An element is determined by its residue.
-/

namespace GaloisCounter

open Polynomial

noncomputable def fieldPolynomial : (ZMod 2)[X] := X ^ 128 + X ^ 7 + X ^ 2 + X + 1

theorem natDegree_fieldPolynomial : fieldPolynomial.natDegree = 128 := by
  unfold fieldPolynomial
  compute_degree!

theorem monic_fieldPolynomial : fieldPolynomial.Monic := by
  unfold fieldPolynomial
  monicity!

/-- Polynomials over the two-element field, modulo the polynomial of the field. -/
abbrev Residue := AdjoinRoot fieldPolynomial

namespace Residue

noncomputable def x : Residue := AdjoinRoot.root fieldPolynomial

instance : CharP Residue 2 := by
  have injective : Function.Injective (AdjoinRoot.of fieldPolynomial) := by
    apply AdjoinRoot.of.injective_of_degree_ne_zero
    rw [degree_eq_natDegree monic_fieldPolynomial.ne_zero, natDegree_fieldPolynomial]
    decide
  exact charP_of_injective_ringHom injective 2

theorem x_pow_128 : x ^ 128 = x ^ 7 + x ^ 2 + x + 1 := by
  have defined : fieldPolynomial = X ^ 128 + X ^ 7 + X ^ 2 + X + 1 := by
    unfold fieldPolynomial
    rfl
  have expanded := congrArg (AdjoinRoot.mk fieldPolynomial) defined
  rw [AdjoinRoot.mk_self] at expanded
  simp only [map_add, map_pow, map_one, AdjoinRoot.mk_X] at expanded
  rw [← CharTwo.add_eq_zero, x]
  linear_combination -expanded

end Residue

namespace Element

/-! ## Polynomials -/

noncomputable def polynomial (element : Element) : (ZMod 2)[X] :=
  ∑ degree ∈ Finset.range 128, if element.getMsbD degree then X ^ degree else 0

/-- The element with the terms of a polynomial. Terms of degree 128 and above are dropped. -/
noncomputable def ofPolynomial (polynomial : (ZMod 2)[X]) : Element :=
  BitVec.ofFnBE fun degree => decide (polynomial.coeff degree = 1)

theorem coeff_polynomial (element : Element) (degree : Nat) :
    element.polynomial.coeff degree = if element.getMsbD degree then 1 else 0 := by
  have coeffTerm (term : Nat) :
      (if element.getMsbD term then X ^ term else (0 : (ZMod 2)[X])).coeff degree =
        if degree = term then if element.getMsbD term then 1 else 0 else 0 := by
    by_cases bit : element.getMsbD term <;> simp [bit, coeff_X_pow]
  rw [polynomial, finsetSum_coeff]
  simp only [coeffTerm, Finset.sum_ite_eq, Finset.mem_range]
  by_cases small : degree < 128
  · rw [if_pos small]
  · rw [if_neg small, BitVec.getMsbD_of_ge element degree (by omega)]
    simp

theorem degree_polynomial_lt (element : Element) : element.polynomial.degree < 128 := by
  apply (degree_lt_iff_coeff_zero _ _).mpr
  intro degree large
  rw [coeff_polynomial, BitVec.getMsbD_of_ge element degree large]
  simp

theorem ofPolynomial_polynomial (element : Element) :
    ofPolynomial element.polynomial = element := by
  apply BitVec.eq_of_getMsbD_eq
  intro degree small
  rw [ofPolynomial, BitVec.getMsbD_ofFnBE, dif_pos small, coeff_polynomial]
  cases element.getMsbD degree <;> decide

theorem polynomial_ofPolynomial {polynomial : (ZMod 2)[X]} (small : polynomial.degree < 128) :
    (ofPolynomial polynomial).polynomial = polynomial := by
  ext degree
  rw [coeff_polynomial, ofPolynomial, BitVec.getMsbD_ofFnBE]
  by_cases bound : degree < 128
  · rw [dif_pos bound]
    generalize polynomial.coeff degree = coefficient
    revert coefficient
    decide
  · rw [dif_neg bound, (degree_lt_iff_coeff_zero _ _).mp small degree (Nat.le_of_not_lt bound)]
    simp

theorem polynomial_xor (left right : Element) :
    (left ^^^ right).polynomial = left.polynomial + right.polynomial := by
  ext degree
  rw [coeff_add, coeff_polynomial, coeff_polynomial, coeff_polynomial, BitVec.getMsbD_xor]
  cases left.getMsbD degree <;> cases right.getMsbD degree <;> decide

/-! ## Residues -/

noncomputable def residue (element : Element) : Residue :=
  AdjoinRoot.mk fieldPolynomial element.polynomial

theorem modByMonic_polynomial (element : Element) :
    element.polynomial %ₘ fieldPolynomial = element.polynomial := by
  rw [modByMonic_eq_self_iff monic_fieldPolynomial,
    degree_eq_natDegree monic_fieldPolynomial.ne_zero, natDegree_fieldPolynomial]
  exact element.degree_polynomial_lt

theorem residue_injective : Function.Injective residue := by
  intro left right equal
  have remainders := congrArg (AdjoinRoot.modByMonicHom monic_fieldPolynomial) equal
  simp only [residue, AdjoinRoot.modByMonicHom_mk, modByMonic_polynomial] at remainders
  rw [← ofPolynomial_polynomial left, remainders, ofPolynomial_polynomial]

theorem residue_ofPolynomial_modByMonic (polynomial : (ZMod 2)[X]) :
    (ofPolynomial (polynomial %ₘ fieldPolynomial)).residue =
      AdjoinRoot.mk fieldPolynomial polynomial := by
  have small : (polynomial %ₘ fieldPolynomial).degree < 128 := by
    have bound := degree_modByMonic_lt polynomial monic_fieldPolynomial
    rwa [degree_eq_natDegree monic_fieldPolynomial.ne_zero, natDegree_fieldPolynomial] at bound
  rw [residue, polynomial_ofPolynomial small]
  exact AdjoinRoot.mk_leftInverse monic_fieldPolynomial (AdjoinRoot.mk fieldPolynomial polynomial)

theorem residue_eq_sum (element : Element) :
    element.residue =
      ∑ degree ∈ Finset.range 128, if element.getMsbD degree then Residue.x ^ degree else 0 := by
  rw [residue, polynomial, map_sum]
  apply Finset.sum_congr rfl
  intro degree _
  split
  · rw [map_pow, AdjoinRoot.mk_X, Residue.x]
  · exact map_zero _

@[simp] theorem residue_zero : residue 0#128 = 0 := by
  rw [residue_eq_sum]
  exact Finset.sum_eq_zero fun degree _ => by simp

@[simp] theorem residue_xor (left right : Element) :
    (left ^^^ right).residue = left.residue + right.residue := by
  rw [residue, polynomial_xor, map_add, residue, residue]

end Element

end GaloisCounter
