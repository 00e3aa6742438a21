import GaloisCounter.Gcm
import GaloisCounter.Proofs.Message

/-!
Sealing and opening as functions of the whole message.

A whole message meets three checks, and a received tag one more. After them the answer is given by
the mask and the tag of the message, and opening is the inverse of sealing.
-/

namespace GaloisCounter

namespace Config

def validateMessage (config : Config) (iv aad : Bytes) (length : Nat) : Except Error Unit := do
  config.validateStart iv aad
  config.validateText 0 length

theorem onlyRefuses_validateMessage (config : Config) (iv aad : Bytes) (length : Nat) :
    OnlyRefuses (config.validateMessage iv aad length) :=
  (config.onlyRefuses_validateStart iv aad).bind fun _ => config.onlyRefuses_validateText 0 length

theorem validateMessage_eq_ok_iff {config : Config} {iv aad : Bytes}
    (started : config.validateStart iv aad = .ok ()) (length : Nat) :
    config.validateMessage iv aad length = .ok () ↔ length ≤ config.lengthLimit.maxMessage := by
  rw [validateMessage, started]
  exact config.validateText_zero_eq_ok_iff length

end Config

namespace Traced

theorem value_run_bind (first : ExceptT Error Traced First)
    (next : First → ExceptT Error Traced Second) :
    (first >>= next).run.value = (first.run.value >>= fun value => (next value).run.value) := by
  change (ExceptT.bindCont next first.run.value).value = _
  cases first.run.value with
  | error error => rfl
  | ok value => rfl

end Traced

namespace Gcm

variable {Key : Type} (gcm : Gcm Key) (direction : Direction) (iv aad : Bytes)

def message : Message Key := ⟨gcm.key, gcm.config, direction, iv, aad⟩

def checkTag (received : Bytes) : Except Error Unit :=
  ((Context.new gcm.key gcm.config).checkTagLength received.length).value

theorem checkTag_eq_ok_iff {received : Bytes} :
    gcm.checkTag received = .ok () ↔ received.length = gcm.config.tagLength.bytes :=
  (Context.new gcm.key gcm.config).checkTagLength_eq_ok_iff received.length

/-! ## Parts of a message -/

variable [BlockCipher Key]

theorem value_started :
    (∃ error, gcm.config.validateStart iv aad = .error error ∧
      (gcm.started direction iv aad).value = .error error) ∨
    gcm.config.validateStart iv aad = .ok () ∧
      ∃ context, (gcm.started direction iv aad).value = .ok context ∧
        (gcm.message direction iv aad).OpenAt [] context := by
  have answer := (Context.new gcm.key gcm.config).answer_initialise direction iv aad
  cases checked : gcm.config.validateStart iv aad with
  | error error =>
      have rejected := answer.trans checked
      refine .inl ⟨error, rfl, ?_⟩
      rw [started, Traced.value_bind, Traced.value_pure, rejected]
      rfl
  | ok _ =>
      have accepted := answer.trans checked
      refine .inr ⟨rfl, _, ?_, (Context.initialise_of_ok accepted).2⟩
      rw [started, Traced.value_bind, Traced.value_pure, accepted]
      rfl

variable {direction iv aad}

theorem value_processed {message : Message Key} {context : Context Key}
    (openAt : message.OpenAt [] context) (text : Bytes) :
    (∃ error, message.config.validateText 0 text.length = .error error ∧
      (processed context text).value = .error error) ∨
    message.config.validateText 0 text.length = .ok () ∧
      ∃ next, (processed context text).value = .ok (message.mask text, next) ∧
        message.OpenAt text next := by
  by_cases empty : text = []
  · -- An empty text is never checked, but the limit would allow it.
    subst empty
    refine .inr ⟨?_, context, rfl, openAt⟩
    rw [Config.validateText_zero_eq_ok_iff]
    exact Nat.zero_le _
  · have some : text.isEmpty = false := by simp [empty]
    have length : text.length ≠ 0 := fun none => empty (List.eq_nil_of_length_eq_zero none)
    have unprocessed : context.processedLength = 0 :=
      UInt64.toNat_inj.mp (Context.processedLength_of_openAt openAt)
    have checks : context.checkUpdate text.length =
        message.config.validateText 0 text.length := by
      rw [Context.checkUpdate, Context.isOpen_of_openAt openAt, if_neg length, openAt.config,
        unprocessed]
      rfl
    unfold processed Context.updateInPlace
    rw [some, checks]
    cases checked : message.config.validateText 0 text.length with
    | error error => exact .inl ⟨error, rfl, rfl⟩
    | ok _ =>
        have within := (message.config.validateText_eq_ok_iff 0 text.length).mp checked
        refine .inr ⟨rfl, (context.process text).value.1, ?_, ?_⟩
        · change Except.ok ((context.process text).value.2, _) = _
          rw [Context.output_process openAt]
          rfl
        · exact Context.openAt_process openAt within empty

/-- Sealing and opening differ only in what they do with the whole text. -/
theorem value_whole (direction : Direction) (iv aad text : Bytes)
    (complete : Bytes → Context Key → ExceptT Error Traced Value) {result : Except Error Value}
    (completes : ∀ context, (gcm.message direction iv aad).OpenAt text context →
      (complete ((gcm.message direction iv aad).mask text) context).run.value = result) :
    (do
      let context ← ExceptT.mk (gcm.started direction iv aad)
      let (output, context) ← ExceptT.mk (processed context text)
      complete output context : ExceptT Error Traced Value).run.value = (do
        gcm.config.validateMessage iv aad text.length
        result) := by
  rw [Config.validateMessage, Traced.value_run_bind, ExceptT.run_mk, bind_assoc]
  rcases gcm.value_started direction iv aad with
    ⟨error, checked, rejected⟩ | ⟨checked, context, accepted, openAt⟩
  · rw [rejected, checked]
    rfl
  · rw [accepted, checked]
    change (ExceptT.mk (processed context text) >>= _ : ExceptT Error Traced Value).run.value =
      (gcm.config.validateText 0 text.length >>= fun _ => result)
    rw [Traced.value_run_bind, ExceptT.run_mk]
    have checks : (gcm.message direction iv aad).config.validateText 0 text.length =
        gcm.config.validateText 0 text.length := rfl
    rcases value_processed openAt text with
      ⟨error, checked, rejected⟩ | ⟨checked, next, accepted, openAt⟩
    · rw [rejected, ← checks, checked]
      rfl
    · rw [accepted, ← checks, checked]
      exact completes next openAt

theorem checkTagLength_eq {context : Context Key} {text : Bytes}
    (openAt : (gcm.message direction iv aad).OpenAt text context) (received : Bytes) :
    (context.checkTagLength received.length).value = gcm.checkTag received := by
  have configs : context.config = gcm.config := openAt.config
  rw [checkTag, Context.value_checkTagLength, Context.value_checkTagLength, configs]
  rfl

/-! ## Whole messages -/

theorem value_encryptDetached (iv aad text : Bytes) :
    (gcm.encryptDetached iv aad text).value = (do
      gcm.config.validateMessage iv aad text.length
      let message := gcm.message .encrypt iv aad
      return (message.mask text, message.tag (message.mask text))) := by
  refine gcm.value_whole .encrypt iv aad text (fun ciphertext context => do
    let tag ← ExceptT.mk (Outcome.answer <$> context.finaliseEncryption)
    return (ciphertext, tag)) ?_
  intro context openAt
  rw [Traced.value_run_bind, ExceptT.run_mk, Traced.value_map,
    Context.answer_finaliseEncryption openAt rfl]
  rfl

theorem value_decryptDetached (iv aad ciphertext tag : Bytes) :
    (gcm.decryptDetached iv aad ciphertext tag).value = (do
      gcm.config.validateMessage iv aad ciphertext.length
      gcm.checkTag tag
      let message := gcm.message .decrypt iv aad
      message.verdict ciphertext tag (message.mask ciphertext)) := by
  refine gcm.value_whole .decrypt iv aad ciphertext (fun plaintext context => do
    ExceptT.mk (Outcome.answer <$> context.finaliseDecryption tag)
    return plaintext) ?_
  intro context openAt
  rw [Traced.value_run_bind, ExceptT.run_mk, Traced.value_map,
    Context.answer_finaliseDecryption openAt rfl, bind_assoc, gcm.checkTagLength_eq openAt]
  cases gcm.checkTag tag with
  | error error => rfl
  | ok _ => exact Message.verdict_bind ..

theorem encryptDetached_eq_ok_iff {iv aad text ciphertext : Bytes} {tag : Tag} :
    (gcm.encryptDetached iv aad text).value = .ok (ciphertext, tag) ↔
      gcm.config.validateMessage iv aad text.length = .ok () ∧
        ciphertext = (gcm.message .encrypt iv aad).mask text ∧
        tag = (gcm.message .encrypt iv aad).tag ciphertext := by
  rw [value_encryptDetached]
  cases gcm.config.validateMessage iv aad text.length with
  | error error =>
      constructor
      · intro impossible
        cases impossible
      · rintro ⟨impossible, _⟩
        cases impossible
  | ok _ =>
      constructor
      · intro equal
        cases equal
        exact ⟨rfl, rfl, rfl⟩
      · rintro ⟨_, rfl, rfl⟩
        rfl

theorem decryptDetached_eq_ok_iff {iv aad ciphertext tag text : Bytes} :
    (gcm.decryptDetached iv aad ciphertext tag).value = .ok text ↔
      gcm.config.validateMessage iv aad ciphertext.length = .ok () ∧
        tag = ((gcm.message .decrypt iv aad).tag ciphertext).bytes ∧
        text = (gcm.message .decrypt iv aad).mask ciphertext := by
  rw [value_decryptDetached]
  cases gcm.config.validateMessage iv aad ciphertext.length with
  | error error =>
      constructor
      · intro impossible
        cases impossible
      · rintro ⟨impossible, _⟩
        cases impossible
  | ok _ =>
      have sized := ((gcm.message .decrypt iv aad).tag ciphertext).sized
      constructor
      · intro accepted
        cases checked : gcm.checkTag tag with
        | error error =>
            rw [checked] at accepted
            cases accepted
        | ok _ =>
            rw [checked] at accepted
            have verdict := (Message.verdict_eq_ok_iff _).mp accepted
            exact ⟨rfl, verdict.1, verdict.2.symm⟩
      · rintro ⟨_, rfl, rfl⟩
        rw [gcm.checkTag_eq_ok_iff.mpr sized]
        exact (Message.verdict_eq_ok_iff _).mpr ⟨rfl, rfl⟩

/-! ## Sealed messages -/

theorem encrypt_eq_ok_iff {iv aad text sealed : Bytes} :
    (gcm.encrypt iv aad text).value = .ok sealed ↔
      ∃ ciphertext tag, (gcm.encryptDetached iv aad text).value = .ok (ciphertext, tag) ∧
        sealed = ciphertext ++ tag.bytes := by
  rw [encrypt, Traced.value_bind, Traced.value_pure]
  cases (gcm.encryptDetached iv aad text).value with
  | error error => simp [Except.map]
  | ok result =>
      rcases result with ⟨ciphertext, tag⟩
      constructor
      · intro equal
        cases equal
        exact ⟨ciphertext, tag, rfl, rfl⟩
      · rintro ⟨_, _, equal, rfl⟩
        cases equal
        rfl

theorem decrypt_append (iv aad ciphertext : Bytes) {tag : Bytes}
    (sized : tag.length = gcm.config.tagLength.bytes) :
    gcm.decrypt iv aad (ciphertext ++ tag) = gcm.decryptDetached iv aad ciphertext tag := by
  have length : (ciphertext ++ tag).length - gcm.config.tagLength.bytes = ciphertext.length := by
    rw [List.length_append]
    omega
  unfold decrypt
  dsimp only
  rw [if_neg (by rw [List.length_append]; omega), length, List.take_left, List.drop_left]

theorem decrypt_eq_ok_iff {iv aad sealed text : Bytes} :
    (gcm.decrypt iv aad sealed).value = .ok text ↔
      ∃ ciphertext tag, (gcm.decryptDetached iv aad ciphertext tag).value = .ok text ∧
        sealed = ciphertext ++ tag ∧ tag.length = gcm.config.tagLength.bytes := by
  constructor
  · unfold decrypt
    dsimp only
    intro accepted
    split at accepted
    · cases accepted
    · next enough =>
      refine ⟨_, _, accepted, (List.take_append_drop _ _).symm, ?_⟩
      rw [List.length_drop]
      omega
  · rintro ⟨ciphertext, tag, accepted, rfl, sized⟩
    rw [gcm.decrypt_append iv aad ciphertext sized]
    exact accepted

/-- Opening accepts exactly what sealing gives: a sealed message has one text, and a text has one
sealed message. -/
theorem decrypt_eq_ok_iff_encrypt_eq_ok (iv aad text sealed : Bytes) :
    (gcm.decrypt iv aad sealed).value = .ok text ↔
      (gcm.encrypt iv aad text).value = .ok sealed := by
  rw [decrypt_eq_ok_iff, encrypt_eq_ok_iff]
  constructor
  · rintro ⟨ciphertext, tag, opened, rfl, sized⟩
    rcases gcm.decryptDetached_eq_ok_iff.mp opened with ⟨valid, rfl, rfl⟩
    refine ⟨ciphertext, (gcm.message .encrypt iv aad).tag ciphertext,
      gcm.encryptDetached_eq_ok_iff.mpr ⟨?_, ?_, rfl⟩, rfl⟩
    · rw [Message.length_mask]
      exact valid
    · exact ((gcm.message .encrypt iv aad).mask_mask ciphertext).symm
  · rintro ⟨ciphertext, tag, sealing, rfl⟩
    rcases gcm.encryptDetached_eq_ok_iff.mp sealing with ⟨valid, rfl, rfl⟩
    refine ⟨_, _, gcm.decryptDetached_eq_ok_iff.mpr ⟨?_, rfl, ?_⟩, rfl, Tag.sized _⟩
    · rw [Message.length_mask]
      exact valid
    · exact ((gcm.message .encrypt iv aad).mask_mask text).symm

end Gcm

end GaloisCounter
