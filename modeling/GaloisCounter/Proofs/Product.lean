import GaloisCounter.Field.Table
import GaloisCounter.Proofs.Residue

/-!
Products of elements are products of their residues, bit by bit and by table alike.
-/

namespace GaloisCounter

open Finset (range sum_range_succ sum_range_succ')

namespace Element

/-! ## The product with x -/

theorem getMsbD_reduction (degree : Nat) :
    reduction.getMsbD degree = decide (degree = 0 ∨ degree = 1 ∨ degree = 2 ∨ degree = 7) := by
  by_cases small : degree < 128
  · revert degree
    decide
  · rw [BitVec.getMsbD_of_ge reduction degree (by omega)]
    exact (decide_eq_false (by omega)).symm

theorem residue_reduction : reduction.residue = Residue.x ^ 128 := by
  have four : ({0, 1, 2, 7} : Finset Nat) ⊆ range 128 := by decide
  rw [residue_eq_sum, ← Finset.sum_subset four]
  · rw [Residue.x_pow_128]
    simp only [getMsbD_reduction]
    simp
    ring
  · intro degree _ other
    simp only [Finset.mem_insert, Finset.mem_singleton] at other
    rw [getMsbD_reduction, decide_eq_false other]
    rfl

theorem residue_shift (element : Element) :
    residue (element >>> 1) + (if element.getMsbD 127 then Residue.x ^ 128 else 0) =
      Residue.x * element.residue := by
  have shifted (degree : Nat) (small : degree < 127) :
      (element >>> 1).getMsbD (degree + 1) = element.getMsbD degree := by
    rw [BitVec.getMsbD_ushiftRight]
    simp
    omega
  have first : (element >>> 1).getMsbD 0 = false := by
    rw [BitVec.getMsbD_ushiftRight]
    simp
  rw [residue_eq_sum (element >>> 1), residue_eq_sum element, sum_range_succ' _ 127,
    sum_range_succ _ 127, first, mul_add, Finset.mul_sum]
  have others : ∀ degree ∈ range 127,
      (if (element >>> 1).getMsbD (degree + 1) then Residue.x ^ (degree + 1) else 0) =
        Residue.x * (if element.getMsbD degree then Residue.x ^ degree else 0) := by
    intro degree member
    rw [shifted degree (Finset.mem_range.mp member), mul_ite, mul_zero, pow_succ']
  rw [Finset.sum_congr rfl others, mul_ite, mul_zero, ← pow_succ']
  simp

@[simp] theorem residue_timesX (element : Element) :
    element.timesX.residue = Residue.x * element.residue := by
  rw [timesX, ← residue_shift]
  by_cases carry : element.getMsbD 127
  · rw [if_pos carry, if_pos carry, residue_xor, residue_reduction]
  · rw [if_neg carry, if_neg carry, add_zero]

theorem residue_repeat_timesX (count : Nat) (element : Element) :
    (Nat.repeat timesX count element).residue = Residue.x ^ count * element.residue := by
  induction count with
  | zero => rw [Nat.repeat, pow_zero, one_mul]
  | succ count induction => rw [Nat.repeat, residue_timesX, induction, pow_succ', mul_assoc]

/-! ## Bit by bit -/

noncomputable def lowerTerms (element : Element) (count : Nat) : Residue :=
  ∑ degree ∈ range count, if element.getMsbD degree then Residue.x ^ degree else 0

theorem lowerTerms_succ (element : Element) (count : Nat) :
    element.lowerTerms (count + 1) =
      element.lowerTerms count + if element.getMsbD count then Residue.x ^ count else 0 :=
  sum_range_succ _ count

theorem lowerTerms_128 (element : Element) : element.lowerTerms 128 = element.residue :=
  (residue_eq_sum element).symm

/-- After some steps the sum holds the product with the terms that were met, and the multiple has
as many factors x. -/
theorem residue_multiplySteps (left right : Element) (count : Nat) :
    let state := (List.range count).foldl (multiplyStep left) (0, right)
    state.1.residue = left.lowerTerms count * right.residue ∧
      state.2.residue = Residue.x ^ count * right.residue := by
  induction count with
  | zero => simp [lowerTerms]
  | succ count induction =>
      obtain ⟨sum, multiple⟩ := induction
      rw [List.range_succ, List.foldl_append, List.foldl_cons, List.foldl_nil]
      constructor
      · rw [multiplyStep, lowerTerms_succ, add_mul, ← sum]
        by_cases bit : left.getMsbD count
        · rw [if_pos bit, if_pos bit, residue_xor, multiple]
        · rw [if_neg bit, if_neg bit, zero_mul, add_zero]
      · rw [multiplyStep, residue_timesX, multiple, pow_succ', mul_assoc]

@[simp] theorem residue_multiply (left right : Element) :
    (left.multiply right).residue = left.residue * right.residue := by
  rw [multiply, (residue_multiplySteps left right 128).1, lowerTerms_128]

end Element

/-! ## By table -/

namespace Table

theorem residue_entry (factor : Element) (index : Nat) :
    (entry factor index).residue =
      (∑ degree ∈ range 4, if index.testBit (3 - degree) then Residue.x ^ degree else 0) *
        factor.residue := by
  have steps (count : Nat) :
      ((List.range count).foldl
        (fun sum degree =>
          if index.testBit (3 - degree) then sum ^^^ Nat.repeat Element.timesX degree factor
          else sum)
        0 : Element).residue =
        (∑ degree ∈ range count, if index.testBit (3 - degree) then Residue.x ^ degree else 0) *
          factor.residue := by
    induction count with
    | zero => simp
    | succ count induction =>
        rw [List.range_succ, List.foldl_append, List.foldl_cons, List.foldl_nil, sum_range_succ,
          add_mul, ← induction]
        by_cases bit : index.testBit (3 - count)
        · rw [if_pos bit, if_pos bit, Element.residue_xor, Element.residue_repeat_timesX]
        · rw [if_neg bit, if_neg bit, zero_mul, add_zero]
  exact steps 4

theorem testBit_group (element : Element) {position degree : Nat} (inside : position < 32)
    (small : degree < 4) :
    (group element position).val.testBit (3 - degree) =
      element.getMsbD (4 * position + degree) := by
  have bound : 3 - degree < 4 := by omega
  have index : 124 - 4 * position + (3 - degree) = 127 - (4 * position + degree) := by omega
  have within : 4 * position + degree < 128 := by omega
  rw [group, Fin.val_ofNat, show 16 = 2 ^ 4 from rfl, Nat.testBit_mod_two_pow, decide_eq_true bound,
    Bool.true_and, BitVec.toNat_ushiftRight, Nat.testBit_shiftRight, index, BitVec.getMsbD,
    decide_eq_true within, Bool.true_and, BitVec.getLsbD]

theorem residue_group (factor element : Element) {position : Nat} (inside : position < 32) :
    Residue.x ^ (4 * position) * (entry factor (group element position)).residue =
      (element.lowerTerms (4 * (position + 1)) - element.lowerTerms (4 * position)) *
        factor.residue := by
  have terms : element.lowerTerms (4 * (position + 1)) =
      element.lowerTerms (4 * position) + ∑ degree ∈ range 4,
        if element.getMsbD (4 * position + degree) then Residue.x ^ (4 * position + degree)
        else 0 := by
    rw [Element.lowerTerms, mul_add, Finset.sum_range_add]
    rfl
  rw [terms, add_sub_cancel_left, residue_entry, ← mul_assoc, Finset.mul_sum]
  congr 1
  apply Finset.sum_congr rfl
  intro degree member
  rw [testBit_group element inside (Finset.mem_range.mp member), mul_ite, mul_zero, pow_add]

/-- What Horner's rule adds below the groups that were already taken. -/
theorem residue_multiplyGroups (factor element : Element) (sum : Element) {count : Nat}
    (inside : count ≤ 32) :
    ((List.range count).foldr
      (fun position sum =>
        Nat.repeat Element.timesX 4 sum ^^^
          (ofFactor factor).entries[group element position])
      sum : Element).residue =
      element.lowerTerms (4 * count) * factor.residue + Residue.x ^ (4 * count) * sum.residue := by
  induction count generalizing sum with
  | zero => simp [Element.lowerTerms]
  | succ count induction =>
      have below : count < 32 := by omega
      have looked : (ofFactor factor).entries[group element count] =
          entry factor (group element count) := by
        simp [ofFactor]
      rw [List.range_succ, List.foldr_append, List.foldr_cons, List.foldr_nil,
        induction _ (by omega), Element.residue_xor, Element.residue_repeat_timesX, mul_add,
        looked, residue_group factor element below]
      ring

@[simp] theorem residue_multiply (factor element : Element) :
    ((ofFactor factor).multiply element).residue = element.residue * factor.residue := by
  rw [multiply, residue_multiplyGroups factor element 0 (Nat.le_refl 32), Element.lowerTerms_128]
  simp

end Table

end GaloisCounter
