import GaloisCounter.Proofs.Conformance

/-!
How whole messages are answered, whatever is passed in.

The rules for the arguments stand in a list, in the order of their importance. The first rule that
is broken decides the answer, whatever else is wrong. Only a message that breaks none is judged by
its tag, so faulty arguments and false messages are never taken for each other.
-/

namespace GaloisCounter

/-! ## Lists of rules -/

structure Rule where
  broken : Bool
  error : Error

namespace Rule

def check : List Rule → Except Error Unit
  | [] => .ok ()
  | rule :: rest => if rule.broken then .error rule.error else check rest

theorem check_append (first second : List Rule) :
    check (first ++ second) = (do check first; check second) := by
  induction first with
  | nil => rfl
  | cons rule rest induction =>
      rw [List.cons_append, check, check]
      split
      · rfl
      · exact induction

theorem check_eq_ok_iff (rules : List Rule) :
    check rules = .ok () ↔ ∀ rule ∈ rules, rule.broken = false := by
  induction rules with
  | nil => simp [check]
  | cons rule rest induction =>
      rw [check, List.forall_mem_cons]
      cases broken : rule.broken with
      | false => simp [induction]
      | true => simp

theorem exists_broken_iff (rules : List Rule) :
    (∃ rule ∈ rules, rule.broken = true) ↔ check rules ≠ .ok () := by
  rw [Ne, check_eq_ok_iff]
  simp

theorem broken_of_check_eq_error {rules : List Rule} {error : Error}
    (failed : check rules = .error error) :
    ∃ rule ∈ rules, rule.broken = true ∧ rule.error = error := by
  induction rules with
  | nil => cases failed
  | cons rule rest induction =>
      rw [check] at failed
      split at failed
      · next broken =>
        cases failed
        exact ⟨rule, List.mem_cons_self, broken, rfl⟩
      · rcases induction failed with ⟨other, member, broken, reported⟩
        exact ⟨other, List.mem_cons_of_mem _ member, broken, reported⟩

end Rule

/-! ## Rules for arguments -/

namespace Config

variable (config : Config)

def ivRules (length : Nat) : List Rule :=
  [⟨length = 0, .zeroLength "iv"⟩,
    ⟨config.ivPolicy = .standardOnly ∧ length ≠ 12, .ivNotStandard length⟩,
    ⟨2 ^ 61 - 1 < length, .ivTooLong length⟩]

def aadRules (length : Nat) : List Rule :=
  [⟨length = 0 ∧ config.aadPolicy = .required, .zeroLength "aad"⟩,
    ⟨config.lengthLimit.maxAad < length, .aadTooLong config.lengthLimit.maxAad length⟩]

def textRules (length : Nat) : List Rule :=
  [⟨config.lengthLimit.maxMessage < length,
    .updateTooLong config.lengthLimit.maxMessage length⟩]

def messageRules (ivLength aadLength textLength : Nat) : List Rule :=
  config.ivRules ivLength ++ config.aadRules aadLength ++ config.textRules textLength

/-- A length that no tag can have is reported as such. -/
def tagRules (length : Nat) : List Rule :=
  [⟨¬(8 ≤ length ∧ length ≤ 16), .tagLengthOutOfRange length⟩,
    ⟨length ≠ config.tagLength.bytes, .tagLengthMismatch "tag" config.tagLength.bytes length⟩]

def sealedRules (length : Nat) : List Rule :=
  [⟨length < config.tagLength.bytes, .tagMissing config.tagLength.bytes length⟩]

open ErrorCode in
/-- The codes of the rules for a sealed message, in the order in which they are reported. -/
theorem codes_of_rules (sealedLength ivLength aadLength textLength tagLength : Nat) :
    (config.sealedRules sealedLength ++ config.messageRules ivLength aadLength textLength ++
        config.tagRules tagLength).map (·.error.code) =
      [invalidTagLength, zeroLength, invalidIvLength, invalidIvLength, zeroLength,
        lengthLimitExceeded, lengthLimitExceeded, invalidTagLength, invalidTagLength] :=
  rfl

theorem validateIv_eq (iv : Bytes) :
    config.validateIv iv = Rule.check (config.ivRules iv.length) := by
  have limit : maxIv = 2 ^ 61 - 1 := by decide
  simp [validateIv, ivRules, Rule.check, limit]

theorem validateAad_eq (aad : Bytes) :
    config.validateAad aad = Rule.check (config.aadRules aad.length) := by
  simp [validateAad, aadRules, Rule.check]

theorem validateText_zero_eq (length : Nat) :
    config.validateText 0 length = Rule.check (config.textRules length) := by
  simp only [validateText, textRules, Rule.check, LengthLimit.maxUpdate_eq, gt_iff_lt,
    decide_eq_true_eq]
  split
  · rfl
  · next short =>
    -- Nothing was processed before, so the limit for the message asks no more.
    have total : ¬config.lengthLimit.maxMessage < (0 : UInt64).toNat + length := by
      rw [UInt64.toNat_zero, Nat.zero_add]
      exact short
    rw [if_neg total]

theorem validateMessage_eq (iv aad : Bytes) (length : Nat) :
    config.validateMessage iv aad length =
      Rule.check (config.messageRules iv.length aad.length length) := by
  rw [validateMessage, validateStart, validateIv_eq, validateAad_eq, validateText_zero_eq,
    messageRules, Rule.check_append, Rule.check_append]

theorem kind_of_mem_messageRules {ivLength aadLength textLength : Nat} {rule : Rule}
    (member : rule ∈ config.messageRules ivLength aadLength textLength) :
    rule.error.kind = "InvalidParameter" := by
  simp only [messageRules, ivRules, aadRules, textRules, List.mem_append, List.mem_cons,
    List.not_mem_nil, or_false] at member
  rcases member with ((rfl | rfl | rfl) | rfl | rfl) | rfl <;> rfl

theorem kind_of_mem_tagRules {length : Nat} {rule : Rule}
    (member : rule ∈ config.tagRules length) : rule.error.kind = "InvalidParameter" := by
  simp only [tagRules, List.mem_cons, List.not_mem_nil, or_false] at member
  rcases member with rfl | rfl <;> rfl

theorem kind_of_mem_sealedRules {length : Nat} {rule : Rule}
    (member : rule ∈ config.sealedRules length) : rule.error.kind = "InvalidParameter" := by
  rw [List.mem_singleton.mp member]
  rfl

end Config

/-! ## Answers -/

theorem Tag.eq_of_bytes {first second : Tag} (length : first.length = second.length)
    (bytes : first.bytes = second.bytes) : first = second := by
  cases first
  cases second
  simp_all

namespace Gcm

variable {Key : Type} (gcm : Gcm Key)

theorem checkTag_eq (received : Bytes) :
    gcm.checkTag received = Rule.check (gcm.config.tagRules received.length) := by
  have settings : (Context.new gcm.key gcm.config).config = gcm.config := rfl
  rw [checkTag, Context.value_checkTagLength, settings]
  simp only [Config.tagRules, Rule.check, decide_eq_true_eq]
  split
  · by_cases same : received.length = gcm.config.tagLength.bytes
    · rw [if_pos same, if_neg (not_not.mpr same)]
    · rw [if_neg same, if_pos same]
  · rfl

variable [BlockCipher Key]

theorem length_standard_tag (iv aad ciphertext : Bytes) :
    (Standard.tag (BlockCipher.encrypt gcm.key) iv aad ciphertext
      gcm.config.tagLength.bytes).length = gcm.config.tagLength.bytes := by
  have bound := gcm.config.tagLength.atMost
  rw [Standard.tag, List.length_take, Block.length_toList]
  omega

noncomputable def rightTag (iv aad ciphertext : Bytes) : Tag where
  length := gcm.config.tagLength
  bytes := Standard.tag (BlockCipher.encrypt gcm.key) iv aad ciphertext gcm.config.tagLength.bytes
  sized := gcm.length_standard_tag iv aad ciphertext

def judged (rules : List Rule) (right : Bool) (output : Value) : Except Error Value := do
  Rule.check rules
  if right then .ok output else .error (.notAuthentic "finalize_decryption" "tag mismatch")

theorem judged_append (first second : List Rule) (right : Bool) (output : Value) :
    judged (first ++ second) right output = (do Rule.check first; judged second right output) := by
  rw [judged, Rule.check_append, bind_assoc]
  rfl

theorem judged_append_of_unbroken (first : List Rule) {second : List Rule}
    (unbroken : Rule.check second = .ok ()) (right : Bool) (output : Value) :
    judged (first ++ second) right output = judged first right output := by
  rw [judged_append, judged, judged, unbroken]
  rfl

/-- The answer is that of the first broken rule, and there is an output only if none is broken and
the tag is right. An error tells faulty arguments from a wrong tag. -/
structure DecidedBy (rules : List Rule) (right : Bool) (output : Value)
    (answer : Except Error Value) : Prop where
  answer_eq : answer = judged rules right output
  accepted : ∀ result, answer = .ok result ↔
    (∀ rule ∈ rules, rule.broken = false) ∧ right = true ∧ output = result
  fault : (∃ error, answer = .error error ∧ error.kind = "InvalidParameter") ↔
    ∃ rule ∈ rules, rule.broken = true
  failure : (∃ error, answer = .error error ∧ error.kind = "AuthenticationFailed") ↔
    (∀ rule ∈ rules, rule.broken = false) ∧ right = false
  inOrder : ∀ error, answer = .error error → error.kind ≠ "InvalidState"

theorem decidedBy_judged {rules : List Rule}
    (arguments : ∀ rule ∈ rules, rule.error.kind = "InvalidParameter") (right : Bool)
    (output : Value) : DecidedBy rules right output (judged rules right output) := by
  have faulty : ∀ error, Rule.check rules = .error error → error.kind = "InvalidParameter" := by
    intro error failed
    rcases Rule.broken_of_check_eq_error failed with ⟨rule, member, _, rfl⟩
    exact arguments rule member
  have wrong : (Error.notAuthentic "finalize_decryption" "tag mismatch").kind =
      "AuthenticationFailed" := rfl
  constructor
  case answer_eq => rfl
  all_goals
    simp only [← Rule.check_eq_ok_iff, Rule.exists_broken_iff, judged]
    cases checked : Rule.check rules with
    | error error => simp [bind, Except.bind, faulty error checked]
    | ok _ => cases right <;> simp [bind, Except.bind, wrong]

section

variable {gcm} {iv aad : Bytes} {length : Nat}

theorem standard_of_valid (valid : gcm.config.validateMessage iv aad length = .ok ())
    (direction : Direction) :
    (∀ text, (gcm.message direction iv aad).mask text =
      Standard.mask (BlockCipher.encrypt gcm.key) iv text) ∧
    ∀ ciphertext : Bytes, ciphertext.length = length →
      (gcm.message direction iv aad).tag ciphertext = gcm.rightTag iv aad ciphertext := by
  rcases checks_eq_ok_iff.mp valid with ⟨startValid, textValid⟩
  rcases Config.validateStart_eq_ok_iff.mp startValid with ⟨ivValid, aadValid⟩
  have ivFits := Config.bitsFit_of_validateIv ivValid
  have aadFits := Config.bitsFit_of_validateAad aadValid
  refine ⟨(gcm.message direction iv aad).mask_eq_standard ivFits, ?_⟩
  intro ciphertext same
  rw [← same] at textValid
  have textFits := Config.bitsFit_of_validateText textValid
  exact Tag.eq_of_bytes rfl
    ((gcm.message direction iv aad).tag_eq_standard ivFits aadFits textFits)

end

theorem encryptDetached_eq (iv aad text : Bytes) :
    let ciphertext := Standard.mask (BlockCipher.encrypt gcm.key) iv text
    (gcm.encryptDetached iv aad text).value =
      judged (gcm.config.messageRules iv.length aad.length text.length) true
        (ciphertext, gcm.rightTag iv aad ciphertext) := by
  intro ciphertext
  rw [value_encryptDetached, judged, ← Config.validateMessage_eq]
  cases valid : gcm.config.validateMessage iv aad text.length with
  | error error => rfl
  | ok _ =>
      rcases standard_of_valid valid .encrypt with ⟨mask, tag⟩
      have length := (gcm.message .encrypt iv aad).length_mask text
      rw [mask] at length
      change Except.ok _ = Except.ok _
      rw [mask, tag _ length]

theorem encrypt_eq (iv aad text : Bytes) :
    let ciphertext := Standard.mask (BlockCipher.encrypt gcm.key) iv text
    (gcm.encrypt iv aad text).value =
      judged (gcm.config.messageRules iv.length aad.length text.length) true
        (ciphertext ++ (gcm.rightTag iv aad ciphertext).bytes) := by
  intro ciphertext
  rw [encrypt, Traced.value_bind, Traced.value_pure, encryptDetached_eq, judged, judged]
  cases Rule.check (gcm.config.messageRules iv.length aad.length text.length) with
  | error error => rfl
  | ok _ => rfl

theorem decryptDetached_eq (iv aad ciphertext tag : Bytes) :
    (gcm.decryptDetached iv aad ciphertext tag).value =
      judged (gcm.config.messageRules iv.length aad.length ciphertext.length ++
          gcm.config.tagRules tag.length)
        (tag = (gcm.rightTag iv aad ciphertext).bytes)
        (Standard.mask (BlockCipher.encrypt gcm.key) iv ciphertext) := by
  rw [value_decryptDetached, judged_append, ← Config.validateMessage_eq, checkTag_eq]
  cases valid : gcm.config.validateMessage iv aad ciphertext.length with
  | error error => rfl
  | ok _ =>
      rcases standard_of_valid valid .decrypt with ⟨mask, right⟩
      rw [judged]
      simp only [mask, Message.verdict, right ciphertext rfl, decide_eq_true_eq]

theorem decrypt_eq (iv aad sealed : Bytes) :
    let textLength := sealed.length - gcm.config.tagLength.bytes
    let ciphertext := sealed.take textLength
    (gcm.decrypt iv aad sealed).value =
      judged (gcm.config.sealedRules sealed.length ++
          gcm.config.messageRules iv.length aad.length textLength)
        (sealed.drop textLength = (gcm.rightTag iv aad ciphertext).bytes)
        (Standard.mask (BlockCipher.encrypt gcm.key) iv ciphertext) := by
  intro textLength ciphertext
  rw [judged_append]
  unfold decrypt
  simp only [Config.sealedRules, Rule.check, decide_eq_true_eq]
  split
  · rfl
  · next enough =>
    have length : ciphertext.length = textLength := by
      rw [List.length_take]
      omega
    have sized : (sealed.drop textLength).length = gcm.config.tagLength.bytes := by
      rw [List.length_drop]
      omega
    -- What is split off as the tag has the length of one.
    have unbroken : Rule.check (gcm.config.tagRules (sealed.drop textLength).length) = .ok () := by
      rw [← checkTag_eq, checkTag_eq_ok_iff]
      exact sized
    rw [decryptDetached_eq, judged_append_of_unbroken _ unbroken, length]
    rfl

open ErrorCode in
/-- Whatever is sealed or opened, the first rule that is broken decides the answer. Opening judges
the tag after all rules for arguments, and sealing never does. -/
theorem first_broken_rule_decides (iv aad : Bytes) :
    let tagLength := gcm.config.tagLength.bytes
    let mask := Standard.mask (BlockCipher.encrypt gcm.key) iv
    let right := gcm.rightTag iv aad
    let rules := gcm.config.messageRules iv.length aad.length
    (∀ text, DecidedBy (rules text.length) true (mask text, right (mask text))
      (gcm.encryptDetached iv aad text).value) ∧
    (∀ text, DecidedBy (rules text.length) true (mask text ++ (right (mask text)).bytes)
      (gcm.encrypt iv aad text).value) ∧
    (∀ ciphertext tag : Bytes,
      DecidedBy (rules ciphertext.length ++ gcm.config.tagRules tag.length)
        (tag = (right ciphertext).bytes) (mask ciphertext)
        (gcm.decryptDetached iv aad ciphertext tag).value) ∧
    (∀ sealed : Bytes,
      let ciphertext := sealed.take (sealed.length - tagLength)
      let tag := sealed.drop (sealed.length - tagLength)
      DecidedBy (gcm.config.sealedRules sealed.length ++ rules (sealed.length - tagLength))
        (tag = (right ciphertext).bytes) (mask ciphertext) (gcm.decrypt iv aad sealed).value) ∧
    (∀ sealedLength textLength receivedLength,
      (gcm.config.sealedRules sealedLength ++ rules textLength ++
          gcm.config.tagRules receivedLength).map (·.error.code) =
        [invalidTagLength, zeroLength, invalidIvLength, invalidIvLength, zeroLength,
          lengthLimitExceeded, lengthLimitExceeded, invalidTagLength, invalidTagLength]) ∧
    ∀ sealed text : Bytes, (gcm.decrypt iv aad sealed).value = .ok text →
      text.length + tagLength = sealed.length := by
  intro tagLength mask right rules
  have arguments (length : Nat) : ∀ rule ∈ rules length, rule.error.kind = "InvalidParameter" :=
    fun _ member => gcm.config.kind_of_mem_messageRules member
  refine ⟨?_, ?_, ?_, ?_, ?_, ?_⟩
  · intro text
    rw [encryptDetached_eq]
    exact decidedBy_judged (arguments text.length) true _
  · intro text
    rw [encrypt_eq]
    exact decidedBy_judged (arguments text.length) true _
  · intro ciphertext tag
    rw [decryptDetached_eq]
    exact decidedBy_judged (List.forall_mem_append.mpr
      ⟨arguments _, fun _ member => gcm.config.kind_of_mem_tagRules member⟩) _ _
  · intro sealed ciphertext tag
    rw [decrypt_eq]
    exact decidedBy_judged (List.forall_mem_append.mpr
      ⟨fun _ member => gcm.config.kind_of_mem_sealedRules member, arguments _⟩) _ _
  · intro sealedLength textLength receivedLength
    exact gcm.config.codes_of_rules sealedLength iv.length aad.length textLength receivedLength
  · intro sealed text accepted
    rcases gcm.decrypt_eq_ok_iff.mp accepted with ⟨ciphertext, tag, opened, rfl, sized⟩
    rcases gcm.decryptDetached_eq_ok_iff.mp opened with ⟨_, _, rfl⟩
    rw [Message.length_mask, List.length_append, sized]

theorem first_broken_rule_decides_three_bytes :
    let gcm : Gcm (Block → Block) :=
      ⟨fun block => block.xor (Vector.replicate 16 7), { tagLength := ⟨8, by decide, by decide⟩ }⟩
    let sealed : Bytes := [68, 212, 14, 63, 58, 10, 61, 202, 6, 156, 48]
    (gcm.decrypt [4] [5] sealed).value = .ok [1, 2, 3] ∧
      [1, 2, 3].length + gcm.config.tagLength.bytes = sealed.length ∧
      DecidedBy (gcm.config.sealedRules 1 ++ gcm.config.messageRules 0 0 0)
        ([6] = (gcm.rightTag [] [] []).bytes) (Standard.mask gcm.key [] [])
        (gcm.decrypt [] [] [6]).value ∧
      (gcm.decrypt [] [] [6]).value = .error (.tagMissing 8 1) := by
  intro gcm sealed
  have opened : (gcm.decrypt [4] [5] sealed).value = .ok [1, 2, 3] := by decide +kernel
  rcases gcm.first_broken_rule_decides [4] [5] with ⟨_, _, _, _, _, lengths⟩
  rcases gcm.first_broken_rule_decides [] [] with ⟨_, _, _, decided, _⟩
  exact ⟨opened, lengths sealed [1, 2, 3] opened, decided [6], rfl⟩

end Gcm

end GaloisCounter
