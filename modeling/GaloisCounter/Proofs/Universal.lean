import GaloisCounter.Proofs.Encoding
import GaloisCounter.Proofs.Irreducible

/-!
The hash is almost universal: for two messages, few subkeys give hashes with a chosen difference.

A message is hashed as a polynomial in the subkey. The polynomials of two messages are different,
and those subkeys are roots of their difference, so there are no more of them than its degree.
-/

namespace GaloisCounter

open Polynomial

/-! ## Sums of blocks -/

namespace Bytes

theorem xor_concat (leftNumber rightNumber : Nat) (left right : UInt8) :
    (leftNumber ^^^ rightNumber) * 256 + (left ^^^ right).toNat =
      (leftNumber * 256 + left.toNat) ^^^ (rightNumber * 256 + right.toNat) := by
  have split (number : Nat) : number * 256 = 2 ^ 8 * number := Nat.mul_comm number 256
  apply Nat.eq_of_testBit_eq
  intro index
  rw [split, split, split, Nat.testBit_xor, Nat.testBit_two_pow_mul_add _ (UInt8.toNat_lt _),
    Nat.testBit_two_pow_mul_add _ (UInt8.toNat_lt _),
    Nat.testBit_two_pow_mul_add _ (UInt8.toNat_lt _), UInt8.toNat_xor, Nat.testBit_xor,
    Nat.testBit_xor]
  split <;> rfl

theorem bigEndian_zipWith_xor {left right : Bytes} (same : left.length = right.length) :
    bigEndian (left.zipWith (· ^^^ ·) right) = bigEndian left ^^^ bigEndian right := by
  induction left using List.reverseRecOn generalizing right with
  | nil =>
      rw [List.eq_nil_of_length_eq_zero same.symm]
      rfl
  | append_singleton left byte induction =>
      rcases List.eq_nil_or_concat' right with rfl | ⟨rest, last, rfl⟩
      · simp at same
      · have lengths : left.length = rest.length := by simpa using same
        rw [List.zipWith_append lengths, List.zipWith_cons_cons, List.zipWith_nil_left,
          bigEndian_concat, bigEndian_concat, bigEndian_concat, induction lengths, xor_concat]

end Bytes

theorem Element.ofBlock_xor (left right : Block) :
    ofBlock (left.xor right) = ofBlock left ^^^ ofBlock right := by
  have same : left.toList.length = right.toList.length := by simp
  rw [ofBlock, Block.toList_xor, Bytes.bigEndian_zipWith_xor same, BitVec.ofNat_xor]
  rfl

namespace Residue

noncomputable def ofBlock (block : Block) : Residue := (Element.ofBlock block).residue

theorem ofBlock_injective : Function.Injective ofBlock := by
  intro left right equal
  rw [← Element.toBlock_ofBlock left, Element.residue_injective equal, Element.toBlock_ofBlock]

theorem ofBlock_xor (left right : Block) :
    ofBlock (left.xor right) = ofBlock left + ofBlock right := by
  rw [ofBlock, Element.ofBlock_xor, Element.residue_xor, ofBlock, ofBlock]

end Residue

namespace GHash

/-! ## Polynomials -/

/-- The polynomial B1 • X^n + … + Bn • X for the blocks B1, …, Bn. -/
noncomputable def polynomial (blocks : List Block) : Residue[X] :=
  ∑ index : Fin blocks.length,
    C (Residue.ofBlock (blocks.get index)) * X ^ (blocks.length - index)

theorem polynomial_nil : polynomial [] = 0 := Fin.sum_univ_zero _

theorem polynomial_cons (block : Block) (rest : List Block) :
    polynomial (block :: rest) =
      C (Residue.ofBlock block) * X ^ (rest.length + 1) + polynomial rest :=
  Standard.sum_powers_cons (fun block => C (Residue.ofBlock block)) X block rest

theorem polynomial_concat (blocks : List Block) (last : Block) :
    polynomial (blocks ++ [last]) = (polynomial blocks + C (Residue.ofBlock last)) * X := by
  induction blocks with
  | nil =>
      rw [List.nil_append, polynomial_cons, polynomial_nil]
      simp
  | cons block rest induction =>
      rw [List.cons_append, polynomial_cons, polynomial_cons, induction, List.length_append,
        List.length_singleton]
      ring

theorem coeff_zero_polynomial (blocks : List Block) : (polynomial blocks).coeff 0 = 0 := by
  induction blocks using List.reverseRecOn with
  | nil => rw [polynomial_nil, coeff_zero]
  | append_singleton blocks last _ => rw [polynomial_concat, coeff_mul_X_zero]

theorem natDegree_polynomial_le (blocks : List Block) :
    (polynomial blocks).natDegree ≤ blocks.length := by
  induction blocks with
  | nil => simp [polynomial_nil]
  | cons block rest induction =>
      rw [polynomial_cons, List.length_cons]
      exact natDegree_add_le_of_degree_le (natDegree_C_mul_X_pow_le _ _)
        (Nat.le_succ_of_le induction)

theorem polynomial_concat_injective {blocks others : List Block} {last other : Block}
    (equal : polynomial (blocks ++ [last]) = polynomial (others ++ [other])) :
    polynomial blocks = polynomial others ∧ last = other := by
  rw [polynomial_concat, polynomial_concat] at equal
  have sums := isRegular_X.right equal
  have constants := congrArg (fun value => coeff value 0) sums
  simp only [coeff_add, coeff_zero_polynomial, coeff_C_zero, zero_add] at constants
  rw [constants] at sums
  exact ⟨add_right_cancel sums, Residue.ofBlock_injective constants⟩

theorem polynomial_injective {blocks others : List Block} (same : blocks.length = others.length)
    (equal : polynomial blocks = polynomial others) : blocks = others := by
  induction blocks using List.reverseRecOn generalizing others with
  | nil => exact (List.eq_nil_of_length_eq_zero same.symm).symm
  | append_singleton blocks last induction =>
      rcases List.eq_nil_or_concat' others with rfl | ⟨rest, other, rfl⟩
      · simp at same
      · rcases polynomial_concat_injective equal with ⟨rests, lasts⟩
        rw [induction (by simpa using same) rests, lasts]

theorem eval_polynomial (subkey : Block) (blocks : List Block) :
    (polynomial blocks).eval (Residue.ofBlock subkey) =
      AdjoinRoot.mk fieldPolynomial (Standard.sum subkey blocks) := by
  rw [polynomial, Standard.sum, eval_finsetSum, map_sum]
  apply Finset.sum_congr rfl
  intro index _
  rw [eval_mul, eval_C, eval_pow, eval_X, map_mul, map_pow]
  rfl

theorem ofBlock_value_absorbAll (subkey : Block) (backend : Backend) (blocks : List Block) :
    Residue.ofBlock ((start subkey backend).absorbAll blocks).value =
      (polynomial blocks).eval (Residue.ofBlock subkey) := by
  have keyed : (start subkey backend).multiplier =
      Multiplier.ofSubkey (Element.ofBlock subkey) backend := rfl
  rw [Residue.ofBlock, value, Element.ofBlock_toBlock, residue_absorbAll keyed, eval_polynomial]
  change Element.residue 0#128 * _ + _ = _
  rw [Element.residue_zero, zero_mul, zero_add]

/-! ## Differences -/

/-- Two hashes differ by a block at the roots of this polynomial. -/
noncomputable def differencePolynomial (first second : List Block) (difference : Block) :
    Residue[X] :=
  polynomial first - polynomial second - C (Residue.ofBlock difference)

section

variable {first second : List Block}

theorem differencePolynomial_ne_zero (different : polynomial first ≠ polynomial second)
    (difference : Block) : differencePolynomial first second difference ≠ 0 := by
  intro zero
  have sum := sub_eq_zero.mp zero
  -- Neither polynomial has a constant term, so the difference would have to be zero.
  have constant := congrArg (fun value => coeff value 0) sum
  simp only [coeff_sub, coeff_zero_polynomial, coeff_C_zero, sub_zero] at constant
  rw [← constant, C_0] at sum
  exact different (sub_eq_zero.mp sum)

theorem natDegree_differencePolynomial_le (first second : List Block) (difference : Block) :
    (differencePolynomial first second difference).natDegree ≤ max first.length second.length := by
  rw [differencePolynomial, natDegree_sub_C]
  exact natDegree_sub_le_of_le (natDegree_polynomial_le first) (natDegree_polynomial_le second)

theorem eval_differencePolynomial (subkey : Block) (backend : Backend) :
    (differencePolynomial first second
      (((start subkey backend).absorbAll first).value.xor
        ((start subkey backend).absorbAll second).value)).eval (Residue.ofBlock subkey) = 0 := by
  rw [differencePolynomial, eval_sub, eval_sub, eval_C, Residue.ofBlock_xor,
    ofBlock_value_absorbAll, ofBlock_value_absorbAll, CharTwo.sub_eq_add, CharTwo.sub_eq_add,
    CharTwo.add_self_eq_zero]

theorem encard_le_natDegree {value : Residue[X]} (nonzero : value ≠ 0) {subkeys : Set Block}
    (roots : ∀ subkey ∈ subkeys, value.eval (Residue.ofBlock subkey) = 0) :
    subkeys.encard ≤ value.natDegree := by
  classical
  have domain := Residue.isDomain
  have inside : Residue.ofBlock '' subkeys ⊆ value.roots.toFinset := by
    rintro _ ⟨subkey, member, rfl⟩
    rw [Finset.mem_coe, Multiset.mem_toFinset, mem_roots nonzero]
    exact roots subkey member
  calc subkeys.encard
      = (Residue.ofBlock '' subkeys).encard := (Residue.ofBlock_injective.encard_image _).symm
    _ ≤ (value.roots.toFinset : Set Residue).encard := Set.encard_le_encard inside
    _ = (value.roots.toFinset.card : ℕ∞) := Set.encard_coe_eq_coe_finsetCard _
    _ ≤ value.natDegree := by
      exact_mod_cast value.roots.toFinset_card_le.trans (card_roots' value)

theorem encard_subkeys_le (different : polynomial first ≠ polynomial second) (backend : Backend)
    (difference : Block) :
    {subkey : Block | ((start subkey backend).absorbAll first).value.xor
      ((start subkey backend).absorbAll second).value = difference}.encard ≤
      (max first.length second.length : Nat) := by
  have degree := natDegree_differencePolynomial_le first second difference
  refine (encard_le_natDegree (differencePolynomial_ne_zero different difference) ?_).trans
    (Nat.cast_le.mpr degree)
  rintro subkey rfl
  exact eval_differencePolynomial subkey backend

end

/-! ## Messages -/

noncomputable def messagePolynomial (aad ciphertext : Bytes) : Residue[X] :=
  polynomial (messageBlocks aad ciphertext)

section

variable {aad ciphertext otherAad otherCiphertext : Bytes} (aadFits : Bytes.BitsFit aad)
  (ciphertextFits : Bytes.BitsFit ciphertext) (otherAadFits : Bytes.BitsFit otherAad)
  (otherCiphertextFits : Bytes.BitsFit otherCiphertext)

include aadFits ciphertextFits otherAadFits otherCiphertextFits

/-- The coefficient of X tells the lengths. With them the other coefficients tell the strings. -/
theorem messagePolynomial_injective
    (equal : messagePolynomial aad ciphertext = messagePolynomial otherAad otherCiphertext) :
    aad = otherAad ∧ ciphertext = otherCiphertext := by
  rcases polynomial_concat_injective equal with ⟨texts, finals⟩
  rcases finalBlock_injective aadFits ciphertextFits otherAadFits otherCiphertextFits finals with
    ⟨aadLength, ciphertextLength⟩
  exact textBlocks_injective aadLength ciphertextLength
    (polynomial_injective (length_textBlocks_eq aadLength ciphertextLength) texts)

end

/-- Two messages whose lengths fit 64 bits are hashed as different polynomials, and their hashes
have a given difference for at most as many subkeys as the longer of them has blocks. -/
theorem almost_xor_universal (backend : Backend) (aad ciphertext otherAad otherCiphertext : Bytes)
    (aadFits : Bytes.BitsFit aad) (ciphertextFits : Bytes.BitsFit ciphertext)
    (otherAadFits : Bytes.BitsFit otherAad) (otherCiphertextFits : Bytes.BitsFit otherCiphertext)
    (different : (aad, ciphertext) ≠ (otherAad, otherCiphertext)) :
    let hash (subkey : Block) (aad ciphertext : Bytes) : Block :=
      ((((start subkey backend).absorbPadded aad).absorbPadded ciphertext).absorbLengths
        (UInt64.ofNat aad.length * 8) (UInt64.ofNat ciphertext.length * 8)).value
    let count (aad ciphertext : Bytes) : Nat :=
      (aad.length + 15) / 16 + (ciphertext.length + 15) / 16 + 1
    (∀ subkey aad ciphertext, Residue.ofBlock (hash subkey aad ciphertext) =
      (messagePolynomial aad ciphertext).eval (Residue.ofBlock subkey)) ∧
    messagePolynomial aad ciphertext ≠ messagePolynomial otherAad otherCiphertext ∧
    ∀ difference : Block,
      {subkey : Block | (hash subkey aad ciphertext).xor (hash subkey otherAad otherCiphertext) =
        difference}.encard ≤
        (max (count aad ciphertext) (count otherAad otherCiphertext) : Nat) := by
  intro hash count
  have absorbed (subkey : Block) (aad ciphertext : Bytes) : hash subkey aad ciphertext =
      ((start subkey backend).absorbAll (messageBlocks aad ciphertext)).value :=
    congrArg value (absorb_message subkey backend aad ciphertext)
  have apart : messagePolynomial aad ciphertext ≠ messagePolynomial otherAad otherCiphertext := by
    intro equal
    rcases messagePolynomial_injective aadFits ciphertextFits otherAadFits otherCiphertextFits equal
      with ⟨sameAad, sameCiphertext⟩
    exact different (Prod.ext sameAad sameCiphertext)
  refine ⟨?_, apart, ?_⟩
  · intro subkey aad ciphertext
    rw [absorbed, ofBlock_value_absorbAll, messagePolynomial]
  · intro difference
    have few := encard_subkeys_le apart backend difference
    simp only [length_messageBlocks, ← absorbed] at few
    exact few

/-- A byte that moves from the associated data to the ciphertext changes the hash for all but three
subkeys at most. -/
theorem almost_xor_universal_moved_byte :
    Bytes.BitsFit [1, 0] ∧ Bytes.BitsFit [2] ∧ Bytes.BitsFit [1] ∧ Bytes.BitsFit [0, 2] ∧
    (([1, 0], [2]) : Bytes × Bytes) ≠ ([1], [0, 2]) ∧
    messagePolynomial [1, 0] [2] ≠ messagePolynomial [1] [0, 2] ∧
    {subkey : Block |
      ((((start subkey .table).absorbPadded [1, 0]).absorbPadded [2]).absorbLengths 16 8).value.xor
        ((((start subkey .table).absorbPadded [1]).absorbPadded [0, 2]).absorbLengths 8 16).value =
          Block.zero}.encard ≤ 3 := by
  have fits (bytes : Bytes) (short : bytes.length ≤ 2) : Bytes.BitsFit bytes :=
    Nat.le_trans short (by decide)
  have aadFits := fits [1, 0] (by decide)
  have ciphertextFits := fits [2] (by decide)
  have otherAadFits := fits [1] (by decide)
  have otherCiphertextFits := fits [0, 2] (by decide)
  have different : (([1, 0], [2]) : Bytes × Bytes) ≠ ([1], [0, 2]) := by decide
  have universal := almost_xor_universal .table [1, 0] [2] [1] [0, 2] aadFits ciphertextFits
    otherAadFits otherCiphertextFits different
  exact ⟨aadFits, ciphertextFits, otherAadFits, otherCiphertextFits, different, universal.2.1,
    universal.2.2 Block.zero⟩

end GHash

end GaloisCounter
