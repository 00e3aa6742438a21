import GaloisCounter.Proofs.Hash
import GaloisCounter.Proofs.OneShot

/-!
Messages are sealed and opened as the standard says.

Each part of a message is compared with its definition on whole byte strings: the blocks that are
hashed, J0, the keystream and the tag. The lengths that the settings accept are written exactly.
-/

namespace GaloisCounter

namespace Standard

/-! ## Blocks -/

theorem blocks_toList_append (block : Block) (rest : Bytes) :
    blocks (block.toList ++ rest) = block :: blocks rest := by
  have count : (block.toList ++ rest).length / 16 = rest.length / 16 + 1 := by
    rw [List.length_append, Block.length_toList]
    omega
  have later (index : Nat) :
      (block.toList ++ rest).drop (16 * (index + 1)) = rest.drop (16 * index) := by
    have offset : 16 * (index + 1) = block.toList.length + 16 * index := by
      rw [Block.length_toList]
      omega
    rw [offset, List.drop_length_add_append]
  rw [blocks, count, List.range_succ_eq_map, List.map_cons, List.map_map, blocks]
  refine congrArg₂ List.cons (Block.ofBytes_toList_append block rest) ?_
  apply List.map_congr_left
  intro index _
  exact congrArg Block.ofBytes (later index)

theorem blocks_flatMap_toList (whole : List Block) :
    blocks (whole.flatMap Vector.toList) = whole := by
  induction whole with
  | nil => rfl
  | cons block rest induction => rw [List.flatMap_cons, blocks_toList_append, induction]

theorem pad_eq (bytes : Bytes) : pad bytes = (Block.padded bytes).flatMap Vector.toList := by
  have length := Block.length_incomplete bytes
  have whole := Block.flatMap_complete_append_incomplete bytes
  have ending : Block.incomplete bytes ++ List.replicate ((16 - bytes.length % 16) % 16) 0 =
      (Block.padded (Block.incomplete bytes)).flatMap Vector.toList := by
    rw [← length]
    by_cases none : Block.incomplete bytes = []
    · rw [none]
      simp [Block.padded]
    · have some := List.length_pos_iff.mpr none
      have filled : (Block.incomplete bytes ++
          List.replicate ((16 - (Block.incomplete bytes).length) % 16) 0).length = 16 := by
        rw [List.length_append, List.length_replicate]
        omega
      rw [Block.padded_short none (by omega), List.flatMap_cons, List.flatMap_nil,
        List.append_nil, ← Block.ofBytes_append_zeros, Block.toList_ofBytes filled]
  calc pad bytes
      = (Block.complete bytes).flatMap Vector.toList ++ (Block.incomplete bytes ++
          List.replicate ((16 - bytes.length % 16) % 16) 0) := by
        rw [← List.append_assoc, whole, pad]
    _ = (Block.padded bytes).flatMap Vector.toList := by
        rw [ending, ← List.flatMap_append, ← Block.padded_eq]

/-! ## Hashing -/

theorem bitLength_eq {bytes : Bytes} (fit : Bytes.BitsFit bytes) :
    bitLength bytes = Bytes.toBigEndian 8 (UInt64.ofNat bytes.length * 8).toNat := by
  rw [bitLength, Bytes.toNat_bits fit]

theorem toList_lengthBlock (aadBits textBits : UInt64) :
    (GHash.lengthBlock aadBits textBits).toList =
      Bytes.toBigEndian 8 aadBits.toNat ++ Bytes.toBigEndian 8 textBits.toNat := by
  apply Block.toList_ofBytes
  simp

theorem hash_eq (subkey : Block) (backend : Backend) (whole : List Block)
    {first second : Bytes} (firstFits : Bytes.BitsFit first)
    (secondFits : Bytes.BitsFit second) :
    hash subkey (whole.flatMap Vector.toList ++ bitLength first ++ bitLength second) =
      (((GHash.start subkey backend).absorbAll whole).absorbLengths
        (UInt64.ofNat first.length * 8) (UInt64.ofNat second.length * 8)).value := by
  have lengths : bitLength first ++ bitLength second =
      [GHash.lengthBlock (UInt64.ofNat first.length * 8)
        (UInt64.ofNat second.length * 8)].flatMap Vector.toList := by
    rw [bitLength_eq firstFits, bitLength_eq secondFits, ← toList_lengthBlock]
    exact (List.append_nil _).symm
  rw [List.append_assoc, lengths, ← List.flatMap_append,
    ← GHash.value_absorbAll_start subkey backend, blocks_flatMap_toList,
    GHash.absorbAll_append]
  rfl

theorem preCounter_eq (subkey : Block) (backend : Backend) {iv : Bytes}
    (ivFits : Bytes.BitsFit iv) :
    preCounterBlock subkey backend iv = preCounter subkey iv := by
  have none : bitLength [] = List.replicate 8 0 := by decide
  unfold preCounterBlock preCounter
  split
  · rfl
  · rw [← none, pad_eq, hash_eq subkey backend (Block.padded iv) (Nat.zero_le _) ivFits]
    rfl

/-! ## Keystream -/

theorem bigEndian_append (first second : Bytes) :
    Bytes.bigEndian (first ++ second) =
      Bytes.bigEndian first * Bytes.capacity second.length + Bytes.bigEndian second := by
  induction second using List.reverseRecOn with
  | nil => simp [Bytes.capacity]
  | append_singleton rest byte induction =>
      rw [← List.append_assoc, Bytes.bigEndian_concat, induction, Bytes.bigEndian_concat,
        List.length_append, List.length_singleton, Bytes.capacity_succ]
      ring

theorem increment_eq (block : Block) : increment block = Counter.increment block := by
  have low := Counter.number_lt block
  have number : Bytes.bigEndian block.toList =
      Bytes.bigEndian (Counter.fixed block) * 2 ^ 32 + Counter.number block := by
    have cut : block.toList = Counter.fixed block ++ block.toList.drop 12 :=
      (List.take_append_drop 12 _).symm
    rw [cut, bigEndian_append, List.length_drop, Block.length_toList]
    rfl
  have next : Bytes.bigEndian (Counter.increment block).toList =
      Bytes.bigEndian (Counter.fixed block) * 2 ^ 32 + (Counter.number block + 1) % 2 ^ 32 := by
    rw [Counter.toList_increment, bigEndian_append, Bytes.length_toBigEndian,
      Bytes.bigEndian_toBigEndian]
    rfl
  have same : Bytes.bigEndian block.toList / 2 ^ 32 * 2 ^ 32 +
      (Bytes.bigEndian block.toList + 1) % 2 ^ 32 =
      Bytes.bigEndian (Counter.increment block).toList := by
    rw [Counter.capacity_four] at low
    rw [next, number]
    omega
  have written := Bytes.toBigEndian_bigEndian (Counter.increment block).toList
  rw [Block.length_toList] at written
  rw [increment, same, written, Block.ofBytes_toList]

section

variable {Key : Type} [BlockCipher Key] (key : Key)

/-- The keystream is what a text of zeros becomes. -/
theorem keystream_eq (preCounter : Block) (count : Nat) :
    keystream (BlockCipher.encrypt key) preCounter count =
      Keystream.mask key preCounter 0 (List.replicate (16 * count) 0) := by
  have increments : increment = Counter.increment := funext increment_eq
  have zeros : Block.zero.toList = List.replicate 16 0 := by decide
  induction count with
  | zero => rfl
  | succ count induction =>
      have aligned : 16 * count % 16 = 0 := by omega
      have position : 16 * count / 16 = count := by omega
      have block := Keystream.mask_block key preCounter aligned Block.zero
      have masked (block : Block) : Block.zero.xor block = block := by
        ext index bound
        simp [Block.xor, Block.zero]
      rw [masked, position, zeros] at block
      rw [keystream, List.range_succ, List.flatMap_append, ← keystream, induction,
        Nat.mul_succ, List.replicate_add, Keystream.mask_append, List.length_replicate,
        Nat.zero_add, ← block, increments]
      simp

theorem zipWith_mask (preCounter : Block) {text : Bytes} {length : Nat}
    (enough : text.length ≤ length) :
    text.zipWith (· ^^^ ·) (Keystream.mask key preCounter 0 (List.replicate length 0)) =
      Keystream.mask key preCounter 0 text := by
  apply List.ext_getElem
  · simp
    omega
  · intro index _ _
    simp [Keystream.mask]

end

end Standard

/-! ## Messages -/

namespace Message

variable {Key : Type} [BlockCipher Key] (message : Message Key)

theorem preCounter_eq_standard (ivFits : Bytes.BitsFit message.iv) :
    message.preCounter =
      Standard.preCounter (BlockCipher.encrypt message.key Block.zero) message.iv :=
  Standard.preCounter_eq (BlockCipher.encrypt message.key Block.zero) message.config.backend ivFits

theorem mask_eq_standard (ivFits : Bytes.BitsFit message.iv) (text : Bytes) :
    message.mask text =
      Standard.mask (BlockCipher.encrypt message.key) message.iv text := by
  have enough : text.length ≤ 16 * ((text.length + 15) / 16) := by omega
  rw [Standard.mask, ← preCounter_eq_standard message ivFits, Standard.keystream_eq,
    Standard.zipWith_mask message.key message.preCounter enough, mask]

theorem hash_eq_standard (aadFits : Bytes.BitsFit message.aad) {ciphertext : Bytes}
    (ciphertextFits : Bytes.BitsFit ciphertext) :
    message.hash ciphertext =
      Standard.hash (BlockCipher.encrypt message.key Block.zero)
        (Standard.pad message.aad ++ Standard.pad ciphertext ++
          Standard.bitLength message.aad ++ Standard.bitLength ciphertext) := by
  rw [Standard.pad_eq, Standard.pad_eq, ← List.flatMap_append,
    Standard.hash_eq _ message.config.backend _ aadFits ciphertextFits, GHash.absorbAll_append]
  rfl

theorem tag_eq_standard (ivFits : Bytes.BitsFit message.iv)
    (aadFits : Bytes.BitsFit message.aad) {ciphertext : Bytes}
    (ciphertextFits : Bytes.BitsFit ciphertext) :
    (message.tag ciphertext).bytes =
      Standard.tag (BlockCipher.encrypt message.key) message.iv message.aad ciphertext
        message.config.tagLength.bytes := by
  rw [Standard.tag, ← preCounter_eq_standard message ivFits,
    ← hash_eq_standard message aadFits ciphertextFits]
  rfl

end Message

namespace Gcm

variable {Key : Type} [BlockCipher Key] (gcm : Gcm Key)

/-- What the settings accept is sealed and opened as in the standard. -/
theorem conforms_to_standard (iv aad text : Bytes)
    (ivValid : gcm.config.validateIv iv = .ok ()) (aadValid : gcm.config.validateAad aad = .ok ())
    (textValid : gcm.config.validateText 0 text.length = .ok ()) :
    let cipher := BlockCipher.encrypt gcm.key
    let length := gcm.config.tagLength.bytes
    let output := Standard.mask cipher iv text
    (∃ tag, (gcm.encryptDetached iv aad text).value = .ok (output, tag) ∧
      tag.length = gcm.config.tagLength ∧
      tag.bytes = Standard.tag cipher iv aad output length) ∧
    ∀ received : Bytes, received.length = length →
      (gcm.decryptDetached iv aad text received).value =
        if received = Standard.tag cipher iv aad text length then .ok output
        else .error (.notAuthentic "finalize_decryption" "tag mismatch") := by
  intro cipher length output
  have ivFits := Config.bitsFit_of_validateIv ivValid
  have aadFits := Config.bitsFit_of_validateAad aadValid
  have textFits := Config.bitsFit_of_validateText textValid
  have valid : gcm.config.validateMessage iv aad text.length = .ok () := by
    rw [Config.validateMessage, Config.validateStart, ivValid, aadValid]
    exact textValid
  have masked : (gcm.message .encrypt iv aad).mask text = output :=
    (gcm.message .encrypt iv aad).mask_eq_standard ivFits text
  constructor
  · have outputFits : Bytes.BitsFit output := by
      rw [← masked, Bytes.BitsFit, Message.length_mask]
      exact textFits
    exact ⟨_, gcm.encryptDetached_eq_ok_iff.mpr ⟨valid, masked.symm, rfl⟩, rfl,
      (gcm.message .encrypt iv aad).tag_eq_standard ivFits aadFits outputFits⟩
  · intro received sized
    -- The text of a decryption is the ciphertext that is hashed.
    have tag := (gcm.message .decrypt iv aad).tag_eq_standard ivFits aadFits textFits
    rw [value_decryptDetached, valid, gcm.checkTag_eq_ok_iff.mpr sized]
    change (gcm.message .decrypt iv aad).verdict text received
      ((gcm.message .encrypt iv aad).mask text) = _
    rw [Message.verdict, masked, tag]
    rfl

theorem conforms_to_standard_seventeen_bytes :
    let gcm : Gcm (Block → Block) :=
      ⟨id, { tagLength := ⟨13, by decide, by decide⟩, aadPolicy := .optional }⟩
    let text := List.replicate 17 1
    let output := Standard.mask id [1, 2, 3] text
    let received := List.replicate 13 0
    gcm.config.validateIv [1, 2, 3] = .ok () ∧ gcm.config.validateAad [] = .ok () ∧
      gcm.config.validateText 0 text.length = .ok () ∧
      (∃ tag, (gcm.encryptDetached [1, 2, 3] [] text).value = .ok (output, tag) ∧
        tag.length = gcm.config.tagLength ∧
        tag.bytes = Standard.tag id [1, 2, 3] [] output 13) ∧
      (gcm.decryptDetached [1, 2, 3] [] text received).value =
        if received = Standard.tag id [1, 2, 3] [] text 13 then .ok output
        else .error (.notAuthentic "finalize_decryption" "tag mismatch") := by
  intro gcm text output received
  have conforms := gcm.conforms_to_standard [1, 2, 3] [] text rfl rfl rfl
  exact ⟨rfl, rfl, rfl, conforms.1, conforms.2 received rfl⟩

end Gcm

end GaloisCounter
