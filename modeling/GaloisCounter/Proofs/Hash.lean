import GaloisCounter.Counter
import GaloisCounter.Proofs.Blocks
import GaloisCounter.Proofs.Product
import GaloisCounter.Proofs.Standard

/-!
The running hash is the hash of the standard, with either way of multiplying.

The accumulator follows Horner's rule: its residue is the sum of products for the blocks that were
absorbed.
-/

namespace GaloisCounter

/-! ## Sums of products -/

namespace Standard

open Polynomial

theorem sum_nil (subkey : Block) : sum subkey [] = 0 := by
  rw [sum]
  exact Fin.sum_univ_zero _

/-- The first block has the highest power. The values are left open so that they are not computed
when sums are compared. -/
theorem sum_powers_cons {Ring : Type} [CommSemiring Ring] (value : Block → Ring) (factor : Ring)
    (block : Block) (rest : List Block) :
    (∑ index : Fin (block :: rest).length,
      value ((block :: rest).get index) * factor ^ ((block :: rest).length - index)) =
      value block * factor ^ (rest.length + 1) +
        ∑ index : Fin rest.length, value (rest.get index) * factor ^ (rest.length - index) := by
  refine (Fin.sum_univ_succ _).trans (congrArg₂ (· + ·) rfl ?_)
  apply Finset.sum_congr rfl
  intro index _
  have power : (block :: rest).length - index.succ = rest.length - index := by
    rw [List.length_cons, Fin.val_succ]
    omega
  rw [power]
  rfl

theorem sum_cons (subkey block : Block) (rest : List Block) :
    sum subkey (block :: rest) =
      (Element.ofBlock block).polynomial *
        (Element.ofBlock subkey).polynomial ^ (rest.length + 1) + sum subkey rest :=
  sum_powers_cons (fun block => (Element.ofBlock block).polynomial) _ block rest

end Standard

namespace Multiplier

theorem residue_multiply (factor : Element) (backend : Backend) (element : Element) :
    ((ofSubkey factor backend).multiply element).residue = element.residue * factor.residue := by
  cases backend with
  | bitwise => exact element.residue_multiply factor
  | table => exact Table.residue_multiply factor element

end Multiplier

namespace GHash

variable {hash : GHash} {subkey : Block} {backend : Backend}

section

variable (keyed : hash.multiplier = Multiplier.ofSubkey (Element.ofBlock subkey) backend)

include keyed

theorem residue_absorb (block : Block) :
    (hash.absorb block).accumulator.residue =
      (hash.accumulator.residue + (Element.ofBlock block).residue) *
        (Element.ofBlock subkey).residue := by
  rw [absorb, keyed, Multiplier.residue_multiply, Element.residue_xor]

/-- Every further block multiplies what was there by the subkey once more. -/
theorem residue_absorbAll (blocks : List Block) :
    (hash.absorbAll blocks).accumulator.residue =
      hash.accumulator.residue * (Element.ofBlock subkey).residue ^ blocks.length +
        AdjoinRoot.mk fieldPolynomial (Standard.sum subkey blocks) := by
  induction blocks generalizing hash with
  | nil =>
      rw [Standard.sum_nil, map_zero, List.length_nil, pow_zero, mul_one, add_zero]
      rfl
  | cons block rest induction =>
      have absorbed : hash.absorbAll (block :: rest) = (hash.absorb block).absorbAll rest := rfl
      have next : (hash.absorb block).multiplier =
          Multiplier.ofSubkey (Element.ofBlock subkey) backend := keyed
      rw [absorbed, induction next, residue_absorb keyed, Standard.sum_cons, map_add, map_mul,
        map_pow, List.length_cons]
      simp only [Element.residue]
      ring

end

theorem value_absorbAll_start (subkey : Block) (backend : Backend) (bytes : Bytes) :
    ((start subkey backend).absorbAll (Standard.blocks bytes)).value =
      Standard.hash subkey bytes := by
  have keyed : (start subkey backend).multiplier =
      Multiplier.ofSubkey (Element.ofBlock subkey) backend := rfl
  rw [value, Standard.hash]
  congr 1
  apply Element.residue_injective
  rw [Element.residue_ofPolynomial_modByMonic, residue_absorbAll keyed]
  change Element.residue 0#128 * _ + _ = _
  rw [Element.residue_zero, zero_mul, zero_add]

end GHash

end GaloisCounter
