import GaloisCounter.Proofs.OneShot
import GaloisCounter.Proofs.Universal

/-!
A sealed message that was changed within one block does not open.

Such a change leaves all terms of the hashed polynomial but one. The value of that term's difference
at a subkey other than zero is not zero, so the hashes differ, and so do tags as long as a block.
A change of the tag alone needs no argument about the hash.
-/

namespace GaloisCounter

/-! ## Changes within one block -/

namespace Bytes

/-- Two byte strings of one length differ, and only from one position up to another. -/
structure DiffersWithin (start stop : Nat) (first second : Bytes) : Prop where
  length : first.length = second.length
  before : first.take start = second.take start
  after : first.drop stop = second.drop stop
  different : first ≠ second

namespace DiffersWithin

variable {start stop count : Nat} {first second : Bytes}

theorem drop_eq (differs : DiffersWithin start stop first second) (beyond : stop ≤ count) :
    first.drop count = second.drop count := by
  have split : count = stop + (count - stop) := by omega
  rw [split, ← List.drop_drop, differs.after, List.drop_drop]

theorem take (differs : DiffersWithin start (min stop count) first second) :
    DiffersWithin start stop (first.take count) (second.take count) where
  length := by rw [List.length_take, List.length_take, differs.length]
  before := by
    rw [List.take_take, List.take_take, min_comm, ← List.take_take, differs.before,
      List.take_take]
  after := by
    by_cases short : stop ≤ count
    · rw [min_eq_left short] at differs
      rw [List.drop_take, List.drop_take, differs.after]
    · rw [List.drop_of_length_le (by rw [List.length_take]; omega),
        List.drop_of_length_le (by rw [List.length_take]; omega)]
  different := by
    intro same
    apply differs.different
    rw [← List.take_append_drop count first, same, differs.drop_eq (min_le_right stop count),
      List.take_append_drop]

end DiffersWithin

end Bytes

namespace Block

def DifferOnce (blocks others : List Block) : Prop :=
  ∃ before block other after, block ≠ other ∧
    blocks = before ++ block :: after ∧ others = before ++ other :: after

namespace DifferOnce

variable {blocks others : List Block}

theorem append_left (differ : DifferOnce blocks others) (front : List Block) :
    DifferOnce (front ++ blocks) (front ++ others) := by
  rcases differ with ⟨before, block, other, after, different, rfl, rfl⟩
  exact ⟨front ++ before, block, other, after, different, by simp, by simp⟩

theorem append_right (differ : DifferOnce blocks others) (back : List Block) :
    DifferOnce (blocks ++ back) (others ++ back) := by
  rcases differ with ⟨before, block, other, after, different, rfl, rfl⟩
  exact ⟨before, block, other, after ++ back, different, by simp, by simp⟩

end DifferOnce

/-- A difference within an aligned block stays in one block, also if the padding completes it. -/
theorem differOnce_padded {first second : Bytes} {index : Nat}
    (differs : Bytes.DiffersWithin (16 * index) (16 * index + 16) first second) :
    DifferOnce (padded first) (padded second) := by
  have beyond : 16 * index < first.length := by
    by_contra short
    apply differs.different
    rw [← List.take_of_length_le (Nat.le_of_not_lt short), differs.before,
      List.take_of_length_le (by have := differs.length; omega)]
  have cut (bytes : Bytes) (long : 16 * index < bytes.length) :
      padded bytes = padded (bytes.take (16 * index)) ++
        ofBytes (bytes.drop (16 * index)) :: padded (bytes.drop (16 * index + 16)) := by
    have whole : (bytes.take (16 * index)).length % 16 = 0 := by
      rw [List.length_take, Nat.min_eq_left (Nat.le_of_lt long), Nat.mul_mod_right]
    have some : bytes.drop (16 * index) ≠ [] := by
      rw [Ne, List.drop_eq_nil_iff]
      omega
    have parts := padded_append_of_whole whole (bytes.drop (16 * index))
    rw [List.take_append_drop] at parts
    rw [parts, padded_of_ne_nil some, List.drop_drop]
  have firstBlocks := cut first beyond
  have secondBlocks := cut second (differs.length ▸ beyond)
  rw [← differs.before, ← differs.after] at secondBlocks
  refine ⟨_, _, _, _, ?_, firstBlocks, secondBlocks⟩
  intro same
  rw [← same, ← firstBlocks] at secondBlocks
  exact differs.different (padded_injective differs.length secondBlocks.symm)

end Block

/-! ## Hashes and tags -/

namespace GHash

open Polynomial

theorem polynomial_sub_of_one_block (before after : List Block) (block other : Block) :
    polynomial (before ++ block :: after) - polynomial (before ++ other :: after) =
      C (Residue.ofBlock block - Residue.ofBlock other) * X ^ (after.length + 1) := by
  induction before with
  | nil =>
      rw [List.nil_append, List.nil_append, polynomial_cons, polynomial_cons, C_sub]
      ring
  | cons first before induction =>
      have same : (before ++ block :: after).length = (before ++ other :: after).length := by simp
      rw [List.cons_append, List.cons_append, polynomial_cons, polynomial_cons, same, ← induction]
      ring

theorem value_absorbAll_ne {subkey : Block} (usable : subkey ≠ Block.zero) (backend : Backend)
    {blocks others : List Block} (differ : Block.DifferOnce blocks others) :
    ((start subkey backend).absorbAll blocks).value ≠
      ((start subkey backend).absorbAll others).value := by
  rcases differ with ⟨before, block, other, after, different, rfl, rfl⟩
  intro equal
  have domain := Residue.isDomain
  have nonzero : Residue.ofBlock subkey ≠ 0 := by
    intro zero
    have none : Residue.ofBlock Block.zero = 0 := Element.residue_zero
    exact usable (Residue.ofBlock_injective (zero.trans none.symm))
  have values := congrArg Residue.ofBlock equal
  rw [ofBlock_value_absorbAll, ofBlock_value_absorbAll, ← sub_eq_zero, ← eval_sub,
    polynomial_sub_of_one_block, eval_mul, eval_C, eval_pow, eval_X] at values
  rcases mul_eq_zero.mp values with same | power
  · exact different (Residue.ofBlock_injective (sub_eq_zero.mp same))
  · exact pow_ne_zero _ nonzero power

section

variable {index : Nat}

theorem differOnce_of_aad {aad other : Bytes}
    (differs : Bytes.DiffersWithin (16 * index) (16 * index + 16) aad other)
    (ciphertext : Bytes) :
    Block.DifferOnce (messageBlocks aad ciphertext) (messageBlocks other ciphertext) := by
  have finals : finalBlock other ciphertext = finalBlock aad ciphertext := by
    rw [finalBlock, finalBlock, differs.length]
  rw [messageBlocks, messageBlocks, finals]
  exact ((Block.differOnce_padded differs).append_right _).append_right _

theorem differOnce_of_ciphertext {ciphertext other : Bytes}
    (differs : Bytes.DiffersWithin (16 * index) (16 * index + 16) ciphertext other)
    (aad : Bytes) :
    Block.DifferOnce (messageBlocks aad ciphertext) (messageBlocks aad other) := by
  have finals : finalBlock aad other = finalBlock aad ciphertext := by
    rw [finalBlock, finalBlock, differs.length]
  rw [messageBlocks, messageBlocks, finals]
  exact ((Block.differOnce_padded differs).append_left _).append_right _

end

end GHash

theorem Tag.bytes_ofBlock_ne {length : TagLength} (full : length.bytes = 16) (mask : Block)
    {hash other : Block} (different : hash ≠ other) :
    (ofBlock (mask.xor hash) length).bytes ≠ (ofBlock (mask.xor other) length).bytes := by
  have whole (block : Block) : (ofBlock block length).bytes = block.toList := by
    apply List.take_of_length_le
    rw [full, Block.length_toList]
  rw [whole, whole]
  intro equal
  have sums := congrArg Residue.ofBlock (Vector.toList_inj.mp equal)
  rw [Residue.ofBlock_xor, Residue.ofBlock_xor] at sums
  exact different (Residue.ofBlock_injective (add_left_cancel sums))

namespace Message

variable {Key : Type} [BlockCipher Key] (message : Message Key)

theorem hash_eq_messageBlocks (ciphertext : Bytes) :
    message.hash ciphertext =
      ((GHash.start (BlockCipher.encrypt message.key Block.zero) message.config.backend).absorbAll
        (GHash.messageBlocks message.aad ciphertext)).value := by
  rw [← GHash.absorb_message]
  rfl

/-- The tag of a message changes with every block of it, be it of the ciphertext or of the
associated data. -/
theorem bytes_tag_ne (usable : BlockCipher.encrypt message.key Block.zero ≠ Block.zero)
    (full : message.config.tagLength.bytes = 16) {aad ciphertext other : Bytes}
    (differ : Block.DifferOnce (GHash.messageBlocks message.aad ciphertext)
      (GHash.messageBlocks aad other)) :
    (message.tag ciphertext).bytes ≠ (Message.tag { message with aad } other).bytes := by
  apply Tag.bytes_ofBlock_ne full
  rw [hash_eq_messageBlocks, hash_eq_messageBlocks]
  exact GHash.value_absorbAll_ne usable message.config.backend differ

end Message

/-! ## Sealed messages -/

namespace Gcm

variable {Key : Type} [BlockCipher Key] (gcm : Gcm Key) {iv aad ciphertext : Bytes}

def sealed (iv aad ciphertext : Bytes) : Bytes :=
  ciphertext ++ ((gcm.message .decrypt iv aad).tag ciphertext).bytes

theorem length_sealed (iv aad ciphertext : Bytes) :
    (gcm.sealed iv aad ciphertext).length =
      ciphertext.length + gcm.config.tagLength.bytes := by
  rw [sealed, List.length_append, Tag.sized]
  rfl

theorem sealed_of_encrypt {text result : Bytes}
    (sealing : (gcm.encrypt iv aad text).value = .ok result) :
    ∃ ciphertext, ciphertext.length = text.length ∧
      gcm.config.validateMessage iv aad ciphertext.length = .ok () ∧
      result = gcm.sealed iv aad ciphertext := by
  rcases gcm.encrypt_eq_ok_iff.mp sealing with ⟨ciphertext, _, detached, rfl⟩
  rcases gcm.encryptDetached_eq_ok_iff.mp detached with ⟨valid, masked, rfl⟩
  have length : ciphertext.length = text.length := by rw [masked, Message.length_mask]
  exact ⟨ciphertext, length, length ▸ valid, rfl⟩

variable (valid : gcm.config.validateMessage iv aad ciphertext.length = .ok ())

include valid

theorem decrypt_of_tag_ne {tag : Bytes} (sized : tag.length = gcm.config.tagLength.bytes)
    (wrong : tag ≠ ((gcm.message .decrypt iv aad).tag ciphertext).bytes) :
    (gcm.decrypt iv aad (ciphertext ++ tag)).value =
      .error (.notAuthentic "finalize_decryption" "tag mismatch") := by
  rw [gcm.decrypt_append iv aad ciphertext sized, value_decryptDetached, valid,
    gcm.checkTag_eq_ok_iff.mpr sized]
  exact if_neg wrong

theorem decrypt_of_changed_tag {tampered : Bytes}
    (differs : Bytes.DiffersWithin ciphertext.length (gcm.sealed iv aad ciphertext).length
      (gcm.sealed iv aad ciphertext) tampered) :
    (gcm.decrypt iv aad tampered).value =
      .error (.notAuthentic "finalize_decryption" "tag mismatch") := by
  have length := differs.length
  have kept := differs.before
  have different := differs.different
  rw [length_sealed] at length
  rw [sealed, List.take_left] at kept
  rw [← List.take_append_drop ciphertext.length tampered, ← kept] at different ⊢
  apply gcm.decrypt_of_tag_ne valid
  · rw [List.length_drop, ← length, Nat.add_sub_cancel_left]
  · intro equal
    exact different (by rw [equal, sealed])

variable (usable : BlockCipher.encrypt gcm.key Block.zero ≠ Block.zero)
  (full : gcm.config.tagLength.bytes = 16) {tampered : Bytes} {index : Nat}

include usable full

theorem decrypt_of_changed_ciphertext
    (differs : Bytes.DiffersWithin (16 * index) (min (16 * index + 16) ciphertext.length)
      (gcm.sealed iv aad ciphertext) tampered) :
    (gcm.decrypt iv aad tampered).value =
      .error (.notAuthentic "finalize_decryption" "tag mismatch") := by
  have changed := differs.take
  have kept := differs.drop_eq (min_le_right _ _)
  rw [sealed, List.take_left] at changed
  rw [sealed, List.drop_left] at kept
  -- The new ciphertext comes with the tag of the old one.
  rw [← List.take_append_drop ciphertext.length tampered, ← kept]
  apply gcm.decrypt_of_tag_ne (changed.length ▸ valid) (Tag.sized _)
  exact (gcm.message .decrypt iv aad).bytes_tag_ne usable full
    (GHash.differOnce_of_ciphertext changed aad)

theorem decrypt_of_changed_aad
    (differs : Bytes.DiffersWithin (16 * index) (16 * index + 16) aad tampered) :
    (gcm.decrypt iv tampered (gcm.sealed iv aad ciphertext)).value =
      .error (.notAuthentic "finalize_decryption" "tag mismatch") := by
  rw [Config.validateMessage, gcm.config.validateStart_eq_of_length_eq rfl differs.length]
    at valid
  apply gcm.decrypt_of_tag_ne valid (Tag.sized _)
  exact (gcm.message .decrypt iv aad).bytes_tag_ne usable full
    (GHash.differOnce_of_aad differs ciphertext)

omit valid usable full

/-- A sealed message does not open once its tag is changed. If the subkey is not zero and the tag is
as long as a block, it does not open either once one block is changed, of the ciphertext or of the
associated data. -/
theorem tampering_is_detected (gcm : Gcm Key) (iv aad text sealed : Bytes)
    (sealing : (gcm.encrypt iv aad text).value = .ok sealed) :
    let mismatch : Except Error Bytes :=
      .error (.notAuthentic "finalize_decryption" "tag mismatch")
    sealed.length = text.length + gcm.config.tagLength.bytes ∧
    (BlockCipher.encrypt gcm.key Block.zero ≠ Block.zero → gcm.config.tagLength.bytes = 16 →
      (∀ tampered index,
        Bytes.DiffersWithin (16 * index) (min (16 * index + 16) text.length) sealed tampered →
        (gcm.decrypt iv aad tampered).value = mismatch) ∧
      (∀ tampered index,
        Bytes.DiffersWithin (16 * index) (16 * index + 16) aad tampered →
        (gcm.decrypt iv tampered sealed).value = mismatch)) ∧
    (∀ tampered, Bytes.DiffersWithin text.length sealed.length sealed tampered →
      (gcm.decrypt iv aad tampered).value = mismatch) := by
  intro mismatch
  rcases gcm.sealed_of_encrypt sealing with ⟨ciphertext, length, valid, rfl⟩
  rw [← length]
  refine ⟨gcm.length_sealed iv aad ciphertext, fun usable full => ⟨?_, ?_⟩, ?_⟩
  · intro tampered index differs
    exact gcm.decrypt_of_changed_ciphertext valid usable full differs
  · intro tampered index differs
    exact gcm.decrypt_of_changed_aad valid usable full differs
  · intro tampered differs
    exact gcm.decrypt_of_changed_tag valid differs

theorem tampering_is_detected_eighteen_bytes :
    let gcm : Gcm (Block → Block) := ⟨fun block => block.xor (Vector.replicate 16 7), {}⟩
    let iv := List.replicate 12 0
    let sealed : Bytes := [2, 2, 2, 2, 2, 2, 2, 2, 2, 2, 2, 2, 2, 2, 2, 0, 2, 2,
      214, 224, 56, 35, 107, 76, 152, 161, 79, 136, 92, 101, 175, 136, 92, 102]
    let mismatch : Except Error Bytes :=
      .error (.notAuthentic "finalize_decryption" "tag mismatch")
    (gcm.encrypt iv [2] (List.replicate 18 5)).value = .ok sealed ∧
      BlockCipher.encrypt gcm.key Block.zero ≠ Block.zero ∧
      Bytes.DiffersWithin 16 18 sealed (sealed.set 17 0) ∧
      (gcm.decrypt iv [2] (sealed.set 17 0)).value = mismatch ∧
      Bytes.DiffersWithin 0 16 [2] [3] ∧
      (gcm.decrypt iv [3] sealed).value = mismatch ∧
      Bytes.DiffersWithin 18 34 sealed (sealed.set 33 0) ∧
      (gcm.decrypt iv [2] (sealed.set 33 0)).value = mismatch := by
  intro gcm iv sealed mismatch
  have sealing : (gcm.encrypt iv [2] (List.replicate 18 5)).value = .ok sealed := by
    decide +kernel
  have usable : BlockCipher.encrypt gcm.key Block.zero ≠ Block.zero := by decide +kernel
  have inText : Bytes.DiffersWithin 16 18 sealed (sealed.set 17 0) :=
    ⟨rfl, rfl, rfl, by decide⟩
  have inAad : Bytes.DiffersWithin 0 16 [2] [3] := ⟨rfl, rfl, rfl, by decide⟩
  have inTag : Bytes.DiffersWithin 18 34 sealed (sealed.set 33 0) :=
    ⟨rfl, rfl, rfl, by decide⟩
  rcases gcm.tampering_is_detected iv [2] (List.replicate 18 5) sealed sealing with
    ⟨_, blocks, tags⟩
  rcases blocks usable rfl with ⟨texts, aads⟩
  exact ⟨sealing, usable, inText, texts _ 1 inText, inAad, aads _ 0 inAad, inTag, tags _ inTag⟩

end Gcm

end GaloisCounter
