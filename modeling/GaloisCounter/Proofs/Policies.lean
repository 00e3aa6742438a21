import GaloisCounter.Proofs.Comparison
import GaloisCounter.Proofs.Precedence
import GaloisCounter.Proofs.Rejection

/-!
Settings that allow more.

Limits and policies are looked at by the checks alone. Whatever passes the checks of strict settings
passes those of relaxed ones, and from there on nothing depends on them: a run that is never
rejected under the strict settings is the same run under the relaxed ones.
-/

namespace GaloisCounter

/-! ## Checks -/

namespace Config

theorem validateIv_eq_ok_iff (config : Config) (iv : Bytes) :
    config.validateIv iv = .ok () ↔
      iv.length ≠ 0 ∧ (config.ivPolicy = .standardOnly → iv.length = 12) ∧
        iv.length ≤ 2 ^ 61 - 1 := by
  rw [validateIv_eq, Rule.check_eq_ok_iff]
  simp [ivRules]

theorem validateAad_eq_ok_iff (config : Config) (aad : Bytes) :
    config.validateAad aad = .ok () ↔
      (config.aadPolicy = .required → aad.length ≠ 0) ∧
        aad.length ≤ config.lengthLimit.maxAad := by
  rw [validateAad_eq, Rule.check_eq_ok_iff]
  simp [aadRules, imp_not_comm]

/-- Every setting is the same or allows more. The length of tags and the backend are the same. -/
structure Relaxes (relaxed strict : Config) : Prop where
  tagLength : relaxed.tagLength = strict.tagLength
  backend : relaxed.backend = strict.backend
  lengthLimit : relaxed.lengthLimit = strict.lengthLimit ∨
    strict.lengthLimit = .compact ∧ relaxed.lengthLimit = .standard
  aadPolicy : relaxed.aadPolicy = strict.aadPolicy ∨
    strict.aadPolicy = .required ∧ relaxed.aadPolicy = .optional
  ivPolicy : relaxed.ivPolicy = strict.ivPolicy ∨
    strict.ivPolicy = .standardOnly ∧ relaxed.ivPolicy = .any

namespace Relaxes

variable {relaxed strict : Config} (relaxes : relaxed.Relaxes strict)

include relaxes

theorem maxAad_le : strict.lengthLimit.maxAad ≤ relaxed.lengthLimit.maxAad := by
  rcases relaxes.lengthLimit with same | ⟨_, standard⟩
  · exact Nat.le_of_eq (by rw [same])
  · rw [standard]
    exact strict.lengthLimit.maxAad_le

theorem maxMessage_le : strict.lengthLimit.maxMessage ≤ relaxed.lengthLimit.maxMessage := by
  rcases relaxes.lengthLimit with same | ⟨_, standard⟩
  · exact Nat.le_of_eq (by rw [same])
  · rw [standard]
    exact strict.lengthLimit.maxMessage_le

theorem required_of_required (required : relaxed.aadPolicy = .required) :
    strict.aadPolicy = .required := by
  rcases relaxes.aadPolicy with same | ⟨strictly, _⟩
  · exact same.symm.trans required
  · exact strictly

theorem standardOnly_of_standardOnly (standardOnly : relaxed.ivPolicy = .standardOnly) :
    strict.ivPolicy = .standardOnly := by
  rcases relaxes.ivPolicy with same | ⟨strictly, _⟩
  · exact same.symm.trans standardOnly
  · exact strictly

theorem validateStart {iv aad : Bytes} (valid : strict.validateStart iv aad = .ok ()) :
    relaxed.validateStart iv aad = .ok () := by
  rw [validateStart_eq_ok_iff, validateIv_eq_ok_iff, validateAad_eq_ok_iff] at valid ⊢
  obtain ⟨⟨some, twelve, ivFits⟩, required, aadFits⟩ := valid
  exact ⟨⟨some, fun only => twelve (relaxes.standardOnly_of_standardOnly only), ivFits⟩,
    fun policy => required (relaxes.required_of_required policy),
    Nat.le_trans aadFits relaxes.maxAad_le⟩

theorem validateText {processed : UInt64} {additional : Nat}
    (valid : strict.validateText processed additional = .ok ()) :
    relaxed.validateText processed additional = .ok () := by
  rw [validateText_eq_ok_iff] at valid ⊢
  exact Nat.le_trans valid relaxes.maxMessage_le

theorem validateMessage {iv aad : Bytes} {length : Nat}
    (valid : strict.validateMessage iv aad length = .ok ()) :
    relaxed.validateMessage iv aad length = .ok () := by
  obtain ⟨start, text⟩ := checks_eq_ok_iff.mp valid
  exact checks_eq_ok_iff.mpr ⟨relaxes.validateStart start, relaxes.validateText text⟩

end Relaxes

end Config

/-! ## Calls -/

namespace Context

variable {Key : Type}

def under (context : Context Key) (config : Config) : Context Key := { context with config }

section

variable {context : Context Key} {relaxed : Config} (relaxes : relaxed.Relaxes context.config)

include relaxes

theorem checkUpdate_under {length : Nat} (valid : context.checkUpdate length = .ok ()) :
    (context.under relaxed).checkUpdate length = .ok () := by
  rw [checkUpdate_ok_iff] at valid ⊢
  exact ⟨valid.1, valid.2.1, Nat.le_trans valid.2.2 relaxes.maxMessage_le⟩

variable [BlockCipher Key]

omit relaxes in
theorem process_under (context : Context Key) (config : Config) (data : Bytes) :
    ((context.under config).process data).value =
        ((context.process data).value.1.under config, (context.process data).value.2) ∧
      ((context.under config).process data).calls = (context.process data).calls := by
  rcases context with ⟨key, settings, phase, direction, session⟩
  cases session with
  | none => exact ⟨rfl, rfl⟩
  | some session =>
      cases direction with
      | none => exact ⟨rfl, rfl⟩
      | some direction => exact ⟨rfl, rfl⟩

theorem Accepts.under {operation : Operation} {reply : Reply} {next : Context Key}
    {calls : List Block} (accepts : context.Accepts operation reply next calls) :
    (context.under relaxed).Accepts operation reply (next.under relaxed) calls := by
  have backend : (context.under relaxed).config.backend = context.config.backend :=
    relaxes.backend
  have tagLength : (context.under relaxed).config.tagLength = context.config.tagLength :=
    relaxes.tagLength
  cases accepts with
  | @initialise direction iv aad valid =>
      have work : (context.under relaxed).Accepts (.initialise direction iv aad) _ _ _ :=
        .initialise (relaxes.validateStart valid)
      rw [backend] at work
      exact work
  | @update input output fits valid =>
      have work : (context.under relaxed).Accepts (.update input output) _ _ _ :=
        .update fits (checkUpdate_under relaxes valid)
      obtain ⟨value, calls⟩ := context.process_under relaxed input
      rw [value, calls] at work
      exact work
  | @updateInPlace buffer valid =>
      have work : (context.under relaxed).Accepts (.updateInPlace buffer) _ _ _ :=
        .updateInPlace (checkUpdate_under relaxes valid)
      obtain ⟨value, calls⟩ := context.process_under relaxed buffer
      rw [value, calls] at work
      exact work
  | finaliseEncryption isOpen direction present =>
      have work : (context.under relaxed).Accepts .finaliseEncryption _ _ _ :=
        .finaliseEncryption isOpen direction present
      rw [tagLength] at work
      exact work
  | verified isOpen direction present sized verdict =>
      exact .verified isOpen direction present (sized.trans (congrArg _ tagLength.symm)) verdict
  | failed isOpen direction present sized verdict =>
      exact .failed isOpen direction present (sized.trans (congrArg _ tagLength.symm)) verdict

theorem perform_under {operation : Operation}
    (accepted : ¬Rejected (context.perform operation).value.1.answer) :
    ((context.under relaxed).perform operation).value =
        ((context.perform operation).value.1, (context.perform operation).value.2.under relaxed) ∧
      ((context.under relaxed).perform operation).calls = (context.perform operation).calls :=
  ((accepts_of_not_rejected accepted).under relaxes).perform_eq

omit relaxes in
theorem config_process (context : Context Key) (data : Bytes) :
    (context.process data).value.1.config = context.config := by
  unfold process
  split <;> rfl

omit relaxes in
theorem Accepts.config_eq {operation : Operation} {reply : Reply} {next : Context Key}
    {calls : List Block} (accepts : context.Accepts operation reply next calls) :
    next.config = context.config := by
  cases accepts with
  | update fits valid => exact context.config_process _
  | updateInPlace valid => exact context.config_process _
  | _ => rfl

omit relaxes in
theorem config_perform (context : Context Key) (operation : Operation) :
    (context.perform operation).value.2.config = context.config := by
  rcases context.perform_cases operation with refuses | accepts
  · rw [refuses.next_eq]
  · exact accepts.config_eq

/-! ## Runs -/

theorem run_under {operations : List Operation}
    (accepted : ∀ reply ∈ (context.run operations).value.1, ¬Rejected reply.answer) :
    ((context.under relaxed).run operations).value =
        ((context.run operations).value.1, (context.run operations).value.2.under relaxed) ∧
      ((context.under relaxed).run operations).calls = (context.run operations).calls := by
  induction operations generalizing context with
  | nil => exact ⟨rfl, rfl⟩
  | cons operation rest induction =>
      obtain ⟨first, later⟩ := List.forall_mem_cons.mp accepted
      obtain ⟨value, calls⟩ := perform_under relaxes first
      have settings := context.config_perform operation
      obtain ⟨restValue, restCalls⟩ := induction (settings ▸ relaxes) later
      simp only [run, Traced.value_bind, Traced.value_pure, Traced.calls_bind, Traced.calls_pure,
        value, calls, restValue, restCalls]
      exact ⟨trivial, trivial⟩

end

theorem run_new_under [BlockCipher Key] (key : Key) {relaxed strict : Config}
    (relaxes : relaxed.Relaxes strict) {operations : List Operation}
    (accepted : ∀ reply ∈ ((new key strict).run operations).value.1, ¬Rejected reply.answer) :
    ((new key relaxed).run operations).value =
        (((new key strict).run operations).value.1,
          { ((new key strict).run operations).value.2 with config := relaxed }) ∧
      ((new key relaxed).run operations).calls = ((new key strict).run operations).calls := by
  have relaxes : relaxed.Relaxes (new key strict).config := relaxes
  exact run_under relaxes accepted

theorem replies_take [BlockCipher Key] (context : Context Key) (operations : List Operation)
    (count : Nat) :
    (context.run (operations.take count)).value.1 =
      (context.run operations).value.1.take count := by
  induction operations generalizing context count with
  | nil => simp [run]
  | cons operation rest induction =>
      cases count with
      | zero => rfl
      | succ count => exact congrArg (_ :: ·) (induction _ count)

end Context

/-! ## Whole messages -/

/-- A result that is not rejected has passed its check, and depends on it no further. -/
theorem bind_check_eq {check other : Except Error Unit} {result : Except Error Value}
    (refuses : OnlyRefuses check) (passes : check = .ok () → other = .ok ())
    (accepted : ¬Rejected (do check; result)) : (do other; result) = (do check; result) := by
  cases checked : check with
  | error error =>
      rw [checked] at accepted
      exact absurd ⟨error, rfl, refuses error checked⟩ accepted
  | ok _ => rw [passes checked]

section

variable {Key : Type} [BlockCipher Key] (key : Key) {relaxed strict : Config}
  (relaxes : relaxed.Relaxes strict)

include relaxes

namespace Message

variable (direction : Direction) (iv aad : Bytes)

theorem mask_under (text : Bytes) :
    Message.mask ⟨key, relaxed, direction, iv, aad⟩ text =
      Message.mask ⟨key, strict, direction, iv, aad⟩ text := by
  rw [mask, preCounter, initial, relaxes.backend]
  rfl

theorem tag_under (ciphertext : Bytes) :
    Message.tag ⟨key, relaxed, direction, iv, aad⟩ ciphertext =
      Message.tag ⟨key, strict, direction, iv, aad⟩ ciphertext := by
  rw [tag, preCounter, hash, initial, relaxes.backend, relaxes.tagLength]
  rfl

theorem verdict_under (ciphertext received : Bytes) (value : Value) :
    Message.verdict ⟨key, relaxed, direction, iv, aad⟩ ciphertext received value =
      Message.verdict ⟨key, strict, direction, iv, aad⟩ ciphertext received value := by
  rw [verdict, verdict, tag_under key relaxes]

end Message

namespace Gcm

variable (iv aad : Bytes)

omit [BlockCipher Key] in
theorem checkTag_under (received : Bytes) :
    checkTag ⟨key, relaxed⟩ received = checkTag ⟨key, strict⟩ received := by
  rw [checkTag_eq, checkTag_eq, Config.tagRules, Config.tagRules, relaxes.tagLength]

theorem encryptDetached_under (text : Bytes)
    (accepted : ¬Rejected (encryptDetached ⟨key, strict⟩ iv aad text).value) :
    (encryptDetached ⟨key, relaxed⟩ iv aad text).value =
      (encryptDetached ⟨key, strict⟩ iv aad text).value := by
  have settings := strict.onlyRefuses_validateMessage iv aad text.length
  rw [value_encryptDetached] at accepted ⊢
  rw [value_encryptDetached, ← bind_check_eq settings relaxes.validateMessage accepted]
  unfold message
  dsimp only
  rw [Message.mask_under key relaxes, Message.tag_under key relaxes]

theorem encrypt_under (text : Bytes)
    (accepted : ¬Rejected (encrypt ⟨key, strict⟩ iv aad text).value) :
    (encrypt ⟨key, relaxed⟩ iv aad text).value = (encrypt ⟨key, strict⟩ iv aad text).value := by
  rw [encrypt, Traced.value_bind, Traced.value_pure] at accepted ⊢
  rw [rejected_map_iff] at accepted
  rw [encryptDetached_under key relaxes iv aad text accepted]
  rfl

theorem decryptDetached_under (ciphertext tag : Bytes)
    (accepted : ¬Rejected (decryptDetached ⟨key, strict⟩ iv aad ciphertext tag).value) :
    (decryptDetached ⟨key, relaxed⟩ iv aad ciphertext tag).value =
      (decryptDetached ⟨key, strict⟩ iv aad ciphertext tag).value := by
  have settings := strict.onlyRefuses_validateMessage iv aad ciphertext.length
  rw [value_decryptDetached] at accepted ⊢
  rw [value_decryptDetached, ← bind_check_eq settings relaxes.validateMessage accepted]
  unfold message
  dsimp only
  rw [checkTag_under key relaxes, Message.mask_under key relaxes, Message.verdict_under key relaxes]

theorem decrypt_under (sealed : Bytes)
    (accepted : ¬Rejected (decrypt ⟨key, strict⟩ iv aad sealed).value) :
    (decrypt ⟨key, relaxed⟩ iv aad sealed).value = (decrypt ⟨key, strict⟩ iv aad sealed).value := by
  unfold decrypt at accepted ⊢
  dsimp only at accepted ⊢
  rw [relaxes.tagLength]
  split
  · rfl
  · next enough =>
    rw [if_neg enough] at accepted
    exact decryptDetached_under key relaxes iv aad _ _ accepted

end Gcm

end

/-- Settings only restrict. A run that is never rejected under strict settings is never rejected
under relaxed ones: up to each of its calls, the replies are the same, and so is all that the
context holds but its settings. Whole messages that are not rejected have the same answer. -/
theorem relaxing_alters_nothing {Key : Type} [BlockCipher Key] (key : Key)
    {relaxed strict : Config} (relaxes : relaxed.Relaxes strict) :
    (∀ operations,
      let strictly := (Context.new key strict).run operations
      (∀ reply ∈ strictly.value.1, ¬Rejected reply.answer) →
        let relaxedly := (Context.new key relaxed).run operations
        (∀ reply ∈ relaxedly.value.1, ¬Rejected reply.answer) ∧
        relaxedly.value.1 = strictly.value.1 ∧
        ∀ count,
          let strictStep := (Context.new key strict).run (operations.take count)
          let relaxedStep := (Context.new key relaxed).run (operations.take count)
          relaxedStep.value.1 = strictStep.value.1 ∧ relaxedStep.calls = strictStep.calls ∧
            relaxedStep.value.2 = { strictStep.value.2 with config := relaxed } ∧
            relaxedStep.value.2.phase = strictStep.value.2.phase ∧
            relaxedStep.value.2.aadLength = strictStep.value.2.aadLength ∧
            relaxedStep.value.2.processedLength = strictStep.value.2.processedLength) ∧
    ∀ iv aad text : Bytes,
      let strictly : Gcm Key := ⟨key, strict⟩
      let relaxedly : Gcm Key := ⟨key, relaxed⟩
      (¬Rejected (strictly.encrypt iv aad text).value →
        (relaxedly.encrypt iv aad text).value = (strictly.encrypt iv aad text).value) ∧
      (¬Rejected (strictly.decrypt iv aad text).value →
        (relaxedly.decrypt iv aad text).value = (strictly.decrypt iv aad text).value) ∧
      (¬Rejected (strictly.encryptDetached iv aad text).value →
        (relaxedly.encryptDetached iv aad text).value =
          (strictly.encryptDetached iv aad text).value) ∧
      ∀ tag, ¬Rejected (strictly.decryptDetached iv aad text tag).value →
        (relaxedly.decryptDetached iv aad text tag).value =
          (strictly.decryptDetached iv aad text tag).value := by
  refine ⟨?_, ?_⟩
  · intro operations strictly accepted relaxedly
    have whole : relaxedly.value.1 = strictly.value.1 := by
      rw [(Context.run_new_under key relaxes accepted).1]
    refine ⟨?_, whole, ?_⟩
    · rw [whole]
      exact accepted
    · intro count strictStep relaxedStep
      have acceptedStep : ∀ reply ∈ strictStep.value.1, ¬Rejected reply.answer := by
        intro reply member
        rw [Context.replies_take] at member
        exact accepted reply (List.mem_of_mem_take member)
      obtain ⟨value, calls⟩ := Context.run_new_under key relaxes acceptedStep
      have last : relaxedStep.value.2 = { strictStep.value.2 with config := relaxed } := by
        rw [value]
      refine ⟨by rw [value], calls, last, ?_⟩
      rw [last]
      exact ⟨rfl, rfl, rfl⟩
  · intro iv aad text strictly relaxedly
    exact ⟨Gcm.encrypt_under key relaxes iv aad text, Gcm.decrypt_under key relaxes iv aad text,
      Gcm.encryptDetached_under key relaxes iv aad text,
      Gcm.decryptDetached_under key relaxes iv aad text⟩

theorem relaxing_alters_nothing_wrong_tag :
    let key : Block → Block := id
    let strict : Config := ⟨.full, .compact, .required, .standardOnly, .table⟩
    let relaxed : Config := ⟨.full, .standard, .optional, .any, .table⟩
    let iv : Bytes := List.replicate 12 1
    let operations : List Operation :=
      [.initialise .encrypt iv [2], .updateInPlace [3, 4], .update [5] [0, 0], .finaliseEncryption,
        .initialise .decrypt iv [2], .updateInPlace [6], .finaliseDecryption (List.replicate 16 7)]
    let strictly := (Context.new key strict).run operations
    relaxed.Relaxes strict ∧
      (∀ reply ∈ strictly.value.1, ¬Rejected reply.answer) ∧
      ((Context.new key relaxed).run operations).value.1 = strictly.value.1 ∧
      ((Context.new key relaxed).run (operations.take 3)).value.2.processedLength = 3 ∧
      (Gcm.encrypt ⟨key, relaxed⟩ iv [2] [3]).value =
        (Gcm.encrypt ⟨key, strict⟩ iv [2] [3]).value := by
  intro key strict relaxed iv operations strictly
  have relaxes : relaxed.Relaxes strict :=
    ⟨rfl, rfl, .inr ⟨rfl, rfl⟩, .inr ⟨rfl, rfl⟩, .inr ⟨rfl, rfl⟩⟩
  have accepted : ∀ reply ∈ strictly.value.1, ¬Rejected reply.answer := by decide +kernel
  have sealing : ¬Rejected (Gcm.encrypt ⟨key, strict⟩ iv [2] [3]).value := by decide +kernel
  have counted :
      ((Context.new key strict).run (operations.take 3)).value.2.processedLength = 3 := by
    decide +kernel
  obtain ⟨runs, messages⟩ := relaxing_alters_nothing key relaxes
  obtain ⟨_, replies, steps⟩ := runs operations accepted
  exact ⟨relaxes, accepted, replies, (steps 3).2.2.2.2.2.trans counted,
    (messages iv [2] [3]).1 sealing⟩

end GaloisCounter
