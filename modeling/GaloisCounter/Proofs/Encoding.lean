import GaloisCounter.Proofs.Conformance

/-!
The blocks that are hashed for a message determine the message.

Padding alone does not tell where a string ends, and two strings after each other do not tell where
the second begins. The block of the lengths, which comes last, tells both.
-/

namespace GaloisCounter

/-! ## Numbers of 64 bits -/

namespace Bytes

theorem capacity_eight : capacity 8 = UInt64.size := by decide

theorem toBigEndian_toNat_injective {left right : UInt64}
    (equal : toBigEndian 8 left.toNat = toBigEndian 8 right.toNat) : left = right := by
  have numbers := congrArg bigEndian equal
  have leftSmall := left.toNat_lt_size
  have rightSmall := right.toNat_lt_size
  rw [bigEndian_toBigEndian, bigEndian_toBigEndian, capacity_eight, Nat.mod_eq_of_lt leftSmall,
    Nat.mod_eq_of_lt rightSmall] at numbers
  exact UInt64.toNat_inj.mp numbers

theorem length_of_bits_eq {first second : Bytes} (firstFits : BitsFit first)
    (secondFits : BitsFit second)
    (equal : UInt64.ofNat first.length * 8 = UInt64.ofNat second.length * 8) :
    first.length = second.length := by
  have numbers := congrArg UInt64.toNat equal
  rw [toNat_bits firstFits, toNat_bits secondFits] at numbers
  omega

end Bytes

/-! ## Strings and lengths -/

theorem Block.padded_injective {first second : Bytes} (same : first.length = second.length)
    (equal : padded first = padded second) : first = second := by
  have written := congrArg (List.flatMap Vector.toList) equal
  rw [← Standard.pad_eq, ← Standard.pad_eq, Standard.pad, Standard.pad] at written
  exact (List.append_inj written same).1

namespace GHash

theorem lengthBlock_injective {aadBits textBits otherAadBits otherTextBits : UInt64}
    (equal : lengthBlock aadBits textBits = lengthBlock otherAadBits otherTextBits) :
    aadBits = otherAadBits ∧ textBits = otherTextBits := by
  have written := congrArg Vector.toList equal
  rw [Standard.toList_lengthBlock, Standard.toList_lengthBlock] at written
  have parts := List.append_inj written (by simp)
  exact ⟨Bytes.toBigEndian_toNat_injective parts.1, Bytes.toBigEndian_toNat_injective parts.2⟩

/-! ## Messages -/

def textBlocks (aad ciphertext : Bytes) : List Block :=
  Block.padded aad ++ Block.padded ciphertext

def finalBlock (aad ciphertext : Bytes) : Block :=
  lengthBlock (UInt64.ofNat aad.length * 8) (UInt64.ofNat ciphertext.length * 8)

def messageBlocks (aad ciphertext : Bytes) : List Block :=
  textBlocks aad ciphertext ++ [finalBlock aad ciphertext]

theorem absorb_message (subkey : Block) (backend : Backend) (aad ciphertext : Bytes) :
    (((start subkey backend).absorbPadded aad).absorbPadded ciphertext).absorbLengths
        (UInt64.ofNat aad.length * 8) (UInt64.ofNat ciphertext.length * 8) =
      (start subkey backend).absorbAll (messageBlocks aad ciphertext) := by
  rw [messageBlocks, textBlocks, absorbAll_append, absorbAll_append]
  rfl

theorem length_messageBlocks (aad ciphertext : Bytes) :
    (messageBlocks aad ciphertext).length =
      (aad.length + 15) / 16 + (ciphertext.length + 15) / 16 + 1 := by
  rw [messageBlocks, textBlocks, List.length_append, List.length_append, Block.length_padded,
    Block.length_padded, List.length_singleton]

section

variable {aad ciphertext otherAad otherCiphertext : Bytes}

theorem finalBlock_injective (aadFits : Bytes.BitsFit aad)
    (ciphertextFits : Bytes.BitsFit ciphertext) (otherAadFits : Bytes.BitsFit otherAad)
    (otherCiphertextFits : Bytes.BitsFit otherCiphertext)
    (equal : finalBlock aad ciphertext = finalBlock otherAad otherCiphertext) :
    aad.length = otherAad.length ∧ ciphertext.length = otherCiphertext.length := by
  rcases lengthBlock_injective equal with ⟨aadBits, textBits⟩
  exact ⟨Bytes.length_of_bits_eq aadFits otherAadFits aadBits,
    Bytes.length_of_bits_eq ciphertextFits otherCiphertextFits textBits⟩

theorem length_textBlocks_eq (aadLength : aad.length = otherAad.length)
    (ciphertextLength : ciphertext.length = otherCiphertext.length) :
    (textBlocks aad ciphertext).length = (textBlocks otherAad otherCiphertext).length := by
  rw [textBlocks, textBlocks, List.length_append, List.length_append, Block.length_padded,
    Block.length_padded, Block.length_padded, Block.length_padded, aadLength, ciphertextLength]

theorem textBlocks_injective (aadLength : aad.length = otherAad.length)
    (ciphertextLength : ciphertext.length = otherCiphertext.length)
    (equal : textBlocks aad ciphertext = textBlocks otherAad otherCiphertext) :
    aad = otherAad ∧ ciphertext = otherCiphertext := by
  have parts := List.append_inj equal
    (by rw [Block.length_padded, Block.length_padded, aadLength])
  exact ⟨Block.padded_injective aadLength parts.1,
    Block.padded_injective ciphertextLength parts.2⟩

end

end GHash

end GaloisCounter
