import GaloisCounter.Proofs.Conformance
import GaloisCounter.Proofs.FieldLaws

/-!
Hashing is evaluating a polynomial at the subkey, in the field itself.

A hash is given whole blocks, byte strings that it pads, and lengths, in any order. Each of these
inputs stands for some blocks. What the hash comes to is the sum of the products of all these blocks
with powers of the subkey, so it can be cut between whole blocks, and sums of inputs give sums of
hashes.
-/

namespace GaloisCounter

open Polynomial

namespace Element

/-! ## Powers and sums -/

def power (element : Element) : Nat → Element
  | 0 => one
  | exponent + 1 => (element.power exponent).multiply element

def sum (elements : List Element) : Element := elements.foldr (· ^^^ ·) 0

theorem residue_power (element : Element) (exponent : Nat) :
    (element.power exponent).residue = element.residue ^ exponent := by
  induction exponent with
  | zero => rw [power, residue_one, pow_zero]
  | succ exponent induction => rw [power, residue_multiply, induction, pow_succ]

end Element

namespace GHash

/-! ## Inputs -/

inductive Input
  | block (block : Block)
  | padded (bytes : Bytes)
  | lengths (aadBits textBits : UInt64)

def absorbInput (hash : GHash) : Input → GHash
  | .block block => hash.absorb block
  | .padded bytes => hash.absorbPadded bytes
  | .lengths aadBits textBits => hash.absorbLengths aadBits textBits

def absorbInputs (hash : GHash) (inputs : List Input) : GHash := inputs.foldl absorbInput hash

namespace Input

/-- The blocks that an input stands for. A byte string is followed by zeros up to the next block
boundary, and lengths are written with 64 bits each. -/
def blocks : Input → List Block
  | .block given => [given]
  | .padded bytes => Standard.blocks (Standard.pad bytes)
  | .lengths aadBits textBits =>
      Standard.blocks (Bytes.toBigEndian 8 aadBits.toNat ++ Bytes.toBigEndian 8 textBits.toNat)

@[simp] theorem blocks_block (given : Block) : (block given).blocks = [given] := rfl

@[simp] theorem blocks_padded (bytes : Bytes) : (padded bytes).blocks = Block.padded bytes := by
  rw [blocks, Standard.pad_eq, Standard.blocks_flatMap_toList]

@[simp] theorem blocks_lengths (aadBits textBits : UInt64) :
    (lengths aadBits textBits).blocks = [lengthBlock aadBits textBits] := by
  have written := Standard.blocks_flatMap_toList [lengthBlock aadBits textBits]
  rwa [List.flatMap_singleton, Standard.toList_lengthBlock] at written

end Input

theorem absorbInput_eq (hash : GHash) (input : Input) :
    hash.absorbInput input = hash.absorbAll input.blocks := by
  cases input with
  | block block => rfl
  | padded bytes => rw [Input.blocks_padded, absorbInput, absorbPadded]
  | lengths aadBits textBits =>
      rw [Input.blocks_lengths]
      rfl

theorem absorbInputs_eq (hash : GHash) (inputs : List Input) :
    hash.absorbInputs inputs = hash.absorbAll (inputs.flatMap Input.blocks) := by
  induction inputs generalizing hash with
  | nil => rfl
  | cons input rest induction =>
      rw [List.flatMap_cons, absorbAll_append, ← absorbInput_eq, ← induction]
      rfl

/-! ## The value of the polynomial -/

/-- The sum of B1 • H^n, B2 • H^(n - 1), …, Bn • H for the blocks B1, …, Bn and the subkey H, with
the operations of the field. -/
def evaluation (subkey : Block) (blocks : List Block) : Element :=
  Element.sum (blocks.mapIdx fun index block =>
    (Element.ofBlock block).multiply ((Element.ofBlock subkey).power (blocks.length - index)))

theorem evaluation_cons (subkey block : Block) (rest : List Block) :
    evaluation subkey (block :: rest) =
      (Element.ofBlock block).multiply ((Element.ofBlock subkey).power (rest.length + 1)) ^^^
        evaluation subkey rest := by
  rw [evaluation, List.mapIdx_cons]
  simp only [List.length_cons, Nat.add_sub_add_right]
  rfl

theorem residue_evaluation (subkey : Block) (blocks : List Block) :
    (evaluation subkey blocks).residue = (polynomial blocks).eval (Residue.ofBlock subkey) := by
  induction blocks with
  | nil =>
      rw [polynomial_nil, eval_zero]
      exact Element.residue_zero
  | cons block rest induction =>
      rw [evaluation_cons, Element.residue_xor, Element.residue_multiply, Element.residue_power,
        induction, polynomial_cons, eval_add, eval_mul, eval_C, eval_pow, eval_X]
      rfl

theorem value_absorbAll_eq_evaluation (subkey : Block) (backend : Backend) (blocks : List Block) :
    ((start subkey backend).absorbAll blocks).value = (evaluation subkey blocks).toBlock := by
  apply Residue.ofBlock_injective
  rw [ofBlock_value_absorbAll, ← residue_evaluation, Residue.ofBlock, Element.ofBlock_toBlock]

/-! ## Sums of inputs -/

end GHash

namespace Bytes

theorem toBigEndian_xor (width first second : Nat) :
    toBigEndian width (first ^^^ second) =
      (toBigEndian width first).zipWith (· ^^^ ·) (toBigEndian width second) := by
  induction width generalizing first second with
  | zero => rfl
  | succ width induction =>
      have quotient : (first ^^^ second) / 256 = first / 256 ^^^ second / 256 := by
        have shift (number : Nat) : number / 256 = number >>> 8 :=
          (Nat.shiftRight_eq_div_pow number 8).symm
        rw [shift, shift, shift, Nat.shiftRight_xor_distrib]
      rw [toBigEndian, quotient, induction, UInt8.ofNat_xor, toBigEndian, toBigEndian,
        List.zipWith_append (by simp)]
      rfl

end Bytes

namespace Block

theorem ofBytes_zipWith_xor {first second : Bytes} (same : first.length = second.length) :
    ofBytes (first.zipWith (· ^^^ ·) second) = (ofBytes first).xor (ofBytes second) := by
  ext index bound
  by_cases inside : index < first.length
  · have otherInside : index < second.length := by omega
    simp [ofBytes, xor, inside, otherInside]
  · have outside : first.length ≤ index := by omega
    have otherOutside : second.length ≤ index := by omega
    simp [ofBytes, xor, outside, otherOutside]

theorem padded_zipWith_xor {first second : Bytes} (same : first.length = second.length) :
    padded (first.zipWith (· ^^^ ·) second) = (padded first).zipWith xor (padded second) := by
  fun_induction padded first generalizing second with
  | case1 =>
      rw [List.eq_nil_of_length_eq_zero same.symm]
      simp [padded]
  | case2 byte rest induction =>
      have some : second ≠ [] := by
        rintro rfl
        cases same
      have totalSome : (byte :: rest).zipWith (· ^^^ ·) second ≠ [] := by
        simp [List.zipWith_eq_nil_iff, some]
      have later : ((byte :: rest).drop 16).length = (second.drop 16).length := by
        rw [List.length_drop, List.length_drop, same]
      rw [padded_of_ne_nil totalSome, padded_of_ne_nil some, List.drop_zipWith, induction later,
        ofBytes_zipWith_xor same, List.zipWith_cons_cons]

theorem length_padded_eq {first second : Bytes} (same : first.length = second.length) :
    (padded first).length = (padded second).length := by
  rw [length_padded, length_padded, same]

end Block

namespace GHash

theorem lengthBlock_xor (aadBits textBits otherAadBits otherTextBits : UInt64) :
    lengthBlock (aadBits ^^^ otherAadBits) (textBits ^^^ otherTextBits) =
      (lengthBlock aadBits textBits).xor (lengthBlock otherAadBits otherTextBits) := by
  rw [lengthBlock, UInt64.toNat_xor, UInt64.toNat_xor, Bytes.toBigEndian_xor, Bytes.toBigEndian_xor,
    ← List.zipWith_append (by simp), Block.ofBytes_zipWith_xor (by simp)]
  rfl

/-- The inputs of the third sequence are the sums of those of the first two, which are of the same
kinds and lengths. -/
inductive Sums : List Input → List Input → List Input → Prop
  | nil : Sums [] [] []
  | block {first second total : List Input} (one other : Block) (rest : Sums first second total) :
      Sums (.block one :: first) (.block other :: second) (.block (one.xor other) :: total)
  | padded {first second total : List Input} {one other : Bytes} (same : one.length = other.length)
      (rest : Sums first second total) :
      Sums (.padded one :: first) (.padded other :: second)
        (.padded (one.zipWith (· ^^^ ·) other) :: total)
  | lengths {first second total : List Input} (aadBits textBits otherAadBits otherTextBits : UInt64)
      (rest : Sums first second total) :
      Sums (.lengths aadBits textBits :: first) (.lengths otherAadBits otherTextBits :: second)
        (.lengths (aadBits ^^^ otherAadBits) (textBits ^^^ otherTextBits) :: total)

section

variable {first second total : List Input}

theorem Sums.blocks_eq (sums : Sums first second total) :
    (first.flatMap Input.blocks).length = (second.flatMap Input.blocks).length ∧
      total.flatMap Input.blocks =
        (first.flatMap Input.blocks).zipWith Block.xor (second.flatMap Input.blocks) := by
  induction sums with
  | nil => exact ⟨rfl, rfl⟩
  | block one other rest induction =>
      simp [induction.1, induction.2]
  | @padded first second total one other same rest induction =>
      have length := Block.length_padded_eq same
      simp [induction.1, induction.2, length, Block.padded_zipWith_xor same, List.zipWith_append]
  | lengths aadBits textBits otherAadBits otherTextBits rest induction =>
      simp [induction.1, induction.2, lengthBlock_xor]

theorem polynomial_zipWith_xor {blocks others : List Block}
    (same : blocks.length = others.length) :
    polynomial (blocks.zipWith Block.xor others) = polynomial blocks + polynomial others := by
  induction blocks generalizing others with
  | nil =>
      rw [List.eq_nil_of_length_eq_zero same.symm, List.zipWith_nil_left, polynomial_nil, add_zero]
  | cons block rest induction =>
      cases others with
      | nil => cases same
      | cons other others =>
          have restSame : rest.length = others.length := Nat.succ.inj same
          rw [List.zipWith_cons_cons, polynomial_cons, polynomial_cons, polynomial_cons,
            induction restSame, Residue.ofBlock_xor, C_add, List.length_zipWith, restSame,
            Nat.min_self]
          ring

theorem value_absorbInputs_of_sums (subkey : Block) (backend : Backend)
    (sums : Sums first second total) :
    ((start subkey backend).absorbInputs total).value =
      ((start subkey backend).absorbInputs first).value.xor
        ((start subkey backend).absorbInputs second).value := by
  rcases sums.blocks_eq with ⟨same, blocks⟩
  apply Residue.ofBlock_injective
  rw [Residue.ofBlock_xor, absorbInputs_eq, absorbInputs_eq, absorbInputs_eq,
    ofBlock_value_absorbAll, ofBlock_value_absorbAll, ofBlock_value_absorbAll, blocks,
    polynomial_zipWith_xor same, eval_add]

end

theorem absorbPadded_append {first : Bytes} (whole : 16 ∣ first.length) (hash : GHash)
    (second : Bytes) :
    (hash.absorbPadded first).absorbPadded second = hash.absorbPadded (first ++ second) := by
  have aligned : first.length % 16 = 0 := Nat.mod_eq_zero_of_dvd whole
  rw [absorbPadded, absorbPadded, absorbPadded, Block.padded_append_of_whole aligned,
    absorbAll_append]

theorem isLeast_padding (length : Nat) :
    IsLeast {count | 16 ∣ length + count} ((16 - length % 16) % 16) := by
  constructor
  · rw [Set.mem_ofPred_eq]
    omega
  · intro count aligned
    rw [Set.mem_ofPred_eq] at aligned
    omega

/-- Whatever a fresh hash is given, its value is the sum of the products of all blocks given with
powers of the subkey. Byte strings count as the blocks of what they are padded to, by as few zeros
as possible. So a hash can be cut behind whole blocks, and the hash of sums is the sum of the
hashes. -/
theorem value_is_polynomial_at_subkey (subkey : Block) (backend : Backend) :
    (∀ inputs : List Input,
      ((start subkey backend).absorbInputs inputs).value =
        (evaluation subkey (inputs.flatMap Input.blocks)).toBlock) ∧
    (∀ bytes : Bytes, ∃ count, IsLeast {count | 16 ∣ bytes.length + count} count ∧
      (Input.padded bytes).blocks.flatMap Vector.toList = bytes ++ List.replicate count 0) ∧
    (∀ aadBits textBits : UInt64, (Input.lengths aadBits textBits).blocks.flatMap Vector.toList =
      Bytes.toBigEndian 8 aadBits.toNat ++ Bytes.toBigEndian 8 textBits.toNat) ∧
    (∀ (hash : GHash) (first second : Bytes), 16 ∣ first.length →
      (hash.absorbPadded first).absorbPadded second = hash.absorbPadded (first ++ second)) ∧
    ∀ first second total : List Input, Sums first second total →
      ((start subkey backend).absorbInputs total).value =
        ((start subkey backend).absorbInputs first).value.xor
          ((start subkey backend).absorbInputs second).value := by
  refine ⟨?_, ?_, ?_, ?_, ?_⟩
  · intro inputs
    rw [absorbInputs_eq, value_absorbAll_eq_evaluation]
  · intro bytes
    refine ⟨_, isLeast_padding bytes.length, ?_⟩
    rw [Input.blocks_padded, ← Standard.pad_eq, Standard.pad]
  · intro aadBits textBits
    rw [Input.blocks_lengths, List.flatMap_singleton, Standard.toList_lengthBlock]
  · intro hash first second whole
    exact absorbPadded_append whole hash second
  · intro first second total sums
    exact value_absorbInputs_of_sums subkey backend sums

theorem value_is_polynomial_at_subkey_four_blocks :
    let hash := start (Block.ofBytes [1, 2]) .table
    let whole := List.replicate 16 3
    let first : List Input :=
      [.block (Block.ofBytes [4]), .padded (List.replicate 17 1), .padded [], .lengths 8 136]
    let second : List Input :=
      [.block (Block.ofBytes [1]), .padded (List.replicate 17 2), .padded [], .lengths 16 1]
    let total : List Input :=
      [.block (Block.ofBytes [5]), .padded (List.replicate 17 3), .padded [], .lengths 24 137]
    16 ∣ whole.length ∧
      (hash.absorbPadded whole).absorbPadded [6] = hash.absorbPadded (whole ++ [6]) ∧
      Sums first second total ∧
      (hash.absorbInputs total).value =
        (hash.absorbInputs first).value.xor (hash.absorbInputs second).value := by
  intro hash whole first second total
  have blocks : Block.ofBytes [5] = (Block.ofBytes [4]).xor (Block.ofBytes [1]) := by decide
  have aligned : 16 ∣ whole.length := by decide
  have sums : Sums first second total := by
    simp only [total, blocks]
    exact .block _ _ (.padded rfl (.padded rfl (.lengths 8 136 16 1 .nil)))
  have evaluates := value_is_polynomial_at_subkey (Block.ofBytes [1, 2]) .table
  exact ⟨aligned, evaluates.2.2.2.1 hash whole [6] aligned, sums,
    evaluates.2.2.2.2 first second total sums⟩

end GHash

end GaloisCounter
