import GaloisCounter.Proofs.Irreducible
import GaloisCounter.Proofs.Universal

/-!
The laws of the field, and what they mean for the hash.

Every residue is the residue of exactly one element, so elements obey the laws of residues. Residues
are a field. A product with an element other than zero can therefore be undone, and with it every
step of a hash.
-/

namespace GaloisCounter

open Polynomial

namespace Element

/-! ## Products of polynomials -/

theorem coeff_polynomial_eq (element : Element) (degree : Fin 128) :
    element.polynomial.coeff degree = if element.getLsbD (127 - degree) then 1 else 0 := by
  rw [coeff_polynomial, BitVec.getMsbD, decide_eq_true degree.isLt, Bool.true_and]

theorem polynomial_multiply (left right : Element) :
    (left.multiply right).polynomial = left.polynomial * right.polynomial %ₘ fieldPolynomial := by
  have remainders := congrArg (AdjoinRoot.modByMonicHom monic_fieldPolynomial)
    (residue_multiply left right)
  rwa [residue, residue, residue, ← map_mul, AdjoinRoot.modByMonicHom_mk,
    AdjoinRoot.modByMonicHom_mk, modByMonic_polynomial] at remainders

theorem eq_modByMonic_iff {modulus : (ZMod 2)[X]} (monic : modulus.Monic)
    (dividend candidate : (ZMod 2)[X]) :
    candidate = dividend %ₘ modulus ↔
      candidate.degree < modulus.degree ∧ modulus ∣ candidate - dividend := by
  constructor
  · rintro rfl
    exact ⟨degree_modByMonic_lt dividend monic, dvd_modByMonic_sub dividend modulus⟩
  · rintro ⟨small, divides⟩
    rw [← modByMonic_eq_self_iff monic] at small
    rw [← small, modByMonic_eq_of_dvd_sub monic divides]

theorem eq_polynomial_multiply_iff (left right : Element) (candidate : (ZMod 2)[X]) :
    candidate = (left.multiply right).polynomial ↔
      candidate.degree < 128 ∧ fieldPolynomial ∣ candidate - left.polynomial * right.polynomial := by
  have degree : fieldPolynomial.degree = 128 := by
    rw [degree_eq_natDegree monic_fieldPolynomial.ne_zero, natDegree_fieldPolynomial]
    rfl
  rw [polynomial_multiply, eq_modByMonic_iff monic_fieldPolynomial, degree]

/-! ## Laws of the product -/

theorem multiply_comm (left right : Element) : left.multiply right = right.multiply left := by
  apply residue_injective
  rw [residue_multiply, residue_multiply, mul_comm]

theorem multiply_assoc (first second third : Element) :
    (first.multiply second).multiply third = first.multiply (second.multiply third) := by
  apply residue_injective
  rw [residue_multiply, residue_multiply, residue_multiply, residue_multiply, mul_assoc]

theorem multiply_xor (factor left right : Element) :
    factor.multiply (left ^^^ right) = factor.multiply left ^^^ factor.multiply right := by
  apply residue_injective
  rw [residue_multiply, residue_xor, residue_xor, residue_multiply, residue_multiply, mul_add]

theorem xor_multiply (left right factor : Element) :
    (left ^^^ right).multiply factor = left.multiply factor ^^^ right.multiply factor := by
  rw [multiply_comm, multiply_xor, multiply_comm factor, multiply_comm factor]

theorem multiply_one (element : Element) : element.multiply one = element := by
  apply residue_injective
  rw [residue_multiply, residue_one, mul_one]

theorem one_multiply (element : Element) : one.multiply element = element := by
  rw [multiply_comm, multiply_one]

/-- With the bit `127 - i` read as the coefficient of `X ^ i`, a product is the one polynomial of
degree below 128 that is congruent to the product of the polynomials. So the product obeys the laws
of a commutative ring over exclusive or. -/
theorem multiply_is_product_of_polynomials :
    (∀ (element : Element) (degree : Fin 128),
      element.polynomial.coeff degree = if element.getLsbD (127 - degree) then 1 else 0) ∧
    (∀ (left right : Element) (candidate : (ZMod 2)[X]),
      candidate = (left.multiply right).polynomial ↔
        candidate.degree < 128 ∧
          fieldPolynomial ∣ candidate - left.polynomial * right.polynomial) ∧
    (∀ left right : Element, left.multiply right = right.multiply left) ∧
    (∀ first second third : Element,
      (first.multiply second).multiply third = first.multiply (second.multiply third)) ∧
    (∀ factor left right : Element,
      factor.multiply (left ^^^ right) = factor.multiply left ^^^ factor.multiply right ∧
        (left ^^^ right).multiply factor = left.multiply factor ^^^ right.multiply factor) ∧
    (∀ element : Element,
      element.multiply (1#128 <<< 127) = element ∧ multiply (1#128 <<< 127) element = element) :=
  ⟨coeff_polynomial_eq, eq_polynomial_multiply_iff, multiply_comm, multiply_assoc,
    fun factor left right => ⟨multiply_xor factor left right, xor_multiply left right factor⟩,
    fun element => ⟨multiply_one element, one_multiply element⟩⟩

/-! ## Inverses -/

theorem residue_surjective : Function.Surjective residue := by
  intro target
  rcases AdjoinRoot.mk_surjective target with ⟨polynomial, rfl⟩
  exact ⟨_, residue_ofPolynomial_modByMonic polynomial⟩

theorem residue_eq_zero_iff (element : Element) : element.residue = 0 ↔ element = 0 := by
  rw [← residue_zero, residue_injective.eq_iff]
  exact Iff.rfl

theorem multiply_zero (element : Element) : element.multiply 0 = 0 := by
  apply residue_injective
  rw [residue_multiply, (residue_eq_zero_iff 0).mpr rfl, mul_zero]

theorem exists_inverse {factor : Element} (nonzero : factor ≠ 0) :
    ∃ inverse : Element, factor.multiply inverse = one := by
  have irreducible : Fact (Irreducible fieldPolynomial) := ⟨irreducible_fieldPolynomial⟩
  rcases residue_surjective factor.residue⁻¹ with ⟨inverse, inverted⟩
  refine ⟨inverse, residue_injective ?_⟩
  rw [residue_multiply, inverted, residue_one]
  exact mul_inv_cancel₀ ((residue_eq_zero_iff factor).not.mpr nonzero)

theorem one_ne_zero : one ≠ 0 := by decide

theorem exists_inverse_iff (factor : Element) :
    (∃ inverse : Element, factor.multiply inverse = one) ↔ factor ≠ 0 := by
  constructor
  · rintro ⟨inverse, product⟩ rfl
    rw [multiply_comm, multiply_zero] at product
    exact one_ne_zero product.symm
  · exact exists_inverse

theorem injective_multiply_iff (factor : Element) :
    (Function.Injective fun element : Element => element.multiply factor) ↔ factor ≠ 0 := by
  constructor
  · rintro injective rfl
    exact one_ne_zero (injective ((multiply_zero one).trans (multiply_zero 0).symm))
  · intro nonzero
    rcases exists_inverse nonzero with ⟨inverse, product⟩
    apply Function.LeftInverse.injective (g := fun element => element.multiply inverse)
    intro element
    dsimp only
    rw [multiply_assoc, product, multiply_one]

theorem bijective_multiply_iff (factor : Element) :
    (Function.Bijective fun element : Element => element.multiply factor) ↔ factor ≠ 0 := by
  constructor
  · intro bijective
    exact (injective_multiply_iff factor).mp bijective.injective
  · intro nonzero
    refine ⟨(injective_multiply_iff factor).mpr nonzero, fun target => ?_⟩
    rcases exists_inverse nonzero with ⟨inverse, product⟩
    refine ⟨target.multiply inverse, ?_⟩
    dsimp only
    rw [multiply_assoc, multiply_comm inverse, product, multiply_one]

/-! ## Steps of a hash -/

theorem bijective_xor_left (summand : Element) :
    Function.Bijective fun element : Element => summand ^^^ element := by
  apply Function.Involutive.bijective
  intro element
  dsimp only
  rw [← BitVec.xor_assoc, BitVec.xor_self, BitVec.zero_xor]

theorem bijective_xor_multiply_iff (summand factor : Element) :
    (Function.Bijective fun element : Element => (summand ^^^ element).multiply factor) ↔
      factor ≠ 0 := by
  rw [← bijective_multiply_iff]
  exact Function.Bijective.of_comp_iff (fun element : Element => element.multiply factor)
    (bijective_xor_left summand)

theorem bijective_ofBlock : Function.Bijective ofBlock :=
  Function.bijective_iff_has_inverse.mpr ⟨toBlock, toBlock_ofBlock, ofBlock_toBlock⟩

theorem ofBlock_ne_zero_iff (block : Block) : ofBlock block ≠ 0 ↔ block ≠ Block.zero := by
  have none : ofBlock Block.zero = 0 := by decide +kernel
  rw [← none, bijective_ofBlock.injective.ne_iff]

end Element

/-! ## Products by table -/

/-- Four coefficients at a time or one at a time, a product is the same. -/
theorem Table.multiply_ofFactor (factor element : Element) :
    (ofFactor factor).multiply element = element.multiply factor := by
  apply Element.residue_injective
  rw [residue_multiply, Element.residue_multiply]

/-! ## Hashes -/

namespace GHash

def holding (subkey : Block) (backend : Backend) (accumulator : Element) : GHash :=
  { start subkey backend with accumulator }

variable (subkey : Block) (backend : Backend)

theorem accumulator_absorb (accumulator : Element) (block : Block) :
    ((holding subkey backend accumulator).absorb block).accumulator =
      (Element.ofBlock block ^^^ accumulator).multiply (Element.ofBlock subkey) := by
  apply Element.residue_injective
  have keyed : (holding subkey backend accumulator).multiplier =
      Multiplier.ofSubkey (Element.ofBlock subkey) backend := rfl
  rw [residue_absorb keyed, Element.residue_multiply, Element.residue_xor, add_comm]
  rfl

theorem bijective_absorb_accumulator_iff (block : Block) :
    (Function.Bijective fun accumulator =>
      ((holding subkey backend accumulator).absorb block).accumulator) ↔ subkey ≠ Block.zero := by
  simp only [accumulator_absorb]
  rw [Element.bijective_xor_multiply_iff, Element.ofBlock_ne_zero_iff]

theorem bijective_absorb_block_iff (accumulator : Element) :
    (Function.Bijective fun block =>
      ((holding subkey backend accumulator).absorb block).accumulator) ↔ subkey ≠ Block.zero := by
  simp only [accumulator_absorb, BitVec.xor_comm _ accumulator]
  rw [← Element.ofBlock_ne_zero_iff, ← Element.bijective_xor_multiply_iff accumulator]
  exact Function.Bijective.of_comp_iff
    (fun element : Element => (accumulator ^^^ element).multiply (Element.ofBlock subkey))
    Element.bijective_ofBlock

theorem bijective_absorbAll {subkey : Block} (usable : subkey ≠ Block.zero) (blocks : List Block) :
    Function.Bijective fun accumulator =>
      ((holding subkey backend accumulator).absorbAll blocks).accumulator := by
  -- Each block permutes the accumulators.
  induction blocks with
  | nil => exact Function.bijective_id
  | cons block rest induction =>
      exact induction.comp ((bijective_absorb_accumulator_iff subkey backend block).mpr usable)

/-- Exactly the factors other than zero have an inverse, and exactly with them a product can be
undone. So exactly under the subkeys other than zero a step of the hash permutes the accumulators
for every block, and tells blocks apart for every accumulator, and so do sequences of steps. -/
theorem nothing_is_lost_iff_nonzero :
    (∀ factor : Element,
      (factor ≠ 0 ↔ ∃ inverse : Element, factor.multiply inverse = Element.one) ∧
      (factor ≠ 0 ↔ Function.Bijective fun element : Element => element.multiply factor)) ∧
    ∀ (subkey : Block) (backend : Backend),
      (subkey ≠ Block.zero ↔ ∀ block, Function.Bijective fun accumulator =>
        ((holding subkey backend accumulator).absorb block).accumulator) ∧
      (subkey ≠ Block.zero ↔ ∀ accumulator, Function.Bijective fun block =>
        ((holding subkey backend accumulator).absorb block).accumulator) ∧
      (subkey ≠ Block.zero ↔ ∀ blocks, Function.Bijective fun accumulator =>
        ((holding subkey backend accumulator).absorbAll blocks).accumulator) := by
  refine ⟨fun factor => ⟨(Element.exists_inverse_iff factor).symm,
    (Element.bijective_multiply_iff factor).symm⟩, fun subkey backend => ⟨?_, ?_, ?_⟩⟩
  · simp only [bijective_absorb_accumulator_iff, forall_const]
  · simp only [bijective_absorb_block_iff, forall_const]
  · constructor
    · exact bijective_absorbAll backend
    · intro permutes
      exact (bijective_absorb_accumulator_iff subkey backend Block.zero).mp (permutes [Block.zero])

end GHash

end GaloisCounter
