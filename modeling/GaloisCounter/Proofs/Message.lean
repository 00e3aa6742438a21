import GaloisCounter.Proofs.Calls
import GaloisCounter.Proofs.Session

/-!
Messages as a whole, and what each call does to a context that is processing one.

A message is fixed by what it is started with. Its output, its ciphertext and its tag are functions
of its whole text, and a context in the middle of it has come to some text.
-/

namespace GaloisCounter

/-! ## Limits -/

namespace LengthLimit

theorem maxUpdate_eq (limit : LengthLimit) : limit.maxUpdate = limit.maxMessage := by
  cases limit with
  | standard => rfl
  | compact => rfl

theorem maxMessage_le (limit : LengthLimit) : limit.maxMessage ≤ 68719476704 := by
  cases limit with
  | standard => exact Nat.le_refl _
  | compact => decide

theorem maxAad_le (limit : LengthLimit) : limit.maxAad ≤ standard.maxAad := by
  cases limit with
  | standard => exact Nat.le_refl _
  | compact => decide

end LengthLimit

namespace Bytes

def BitsFit (bytes : Bytes) : Prop := bytes.length ≤ LengthLimit.standard.maxAad

theorem toNat_bits {bytes : Bytes} (fit : BitsFit bytes) :
    (UInt64.ofNat bytes.length * 8).toNat = 8 * bytes.length := by
  have bound : bytes.length ≤ 2305843009213693951 := fit
  have length : (UInt64.ofNat bytes.length).toNat = bytes.length :=
    Nat.mod_eq_of_lt (by omega)
  have eight : (8 : UInt64).toNat = 8 := rfl
  rw [UInt64.toNat_mul, length, eight, Nat.mul_comm]
  exact Nat.mod_eq_of_lt (by omega)

end Bytes

namespace Config

/-- The ceiling for one call refuses nothing that the ceiling for the message allows. -/
theorem validateText_eq_ok_iff (config : Config) (processed : UInt64) (additional : Nat) :
    config.validateText processed additional = .ok () ↔
      processed.toNat + additional ≤ config.lengthLimit.maxMessage := by
  rw [validateText, LengthLimit.maxUpdate_eq]
  by_cases long : additional > config.lengthLimit.maxMessage
  · simp only [if_pos long, reduceCtorEq, false_iff]
    omega
  · by_cases total : processed.toNat + additional > config.lengthLimit.maxMessage
    · simp only [if_neg long, if_pos total, reduceCtorEq, false_iff]
      omega
    · simp only [if_neg long, if_neg total, true_iff]
      omega

theorem validateText_zero_eq_ok_iff (config : Config) (length : Nat) :
    config.validateText 0 length = .ok () ↔ length ≤ config.lengthLimit.maxMessage := by
  have total : (0 : UInt64).toNat + length = length := Nat.zero_add length
  rw [validateText_eq_ok_iff, total]

theorem bitsFit_of_validateIv {config : Config} {iv : Bytes}
    (valid : config.validateIv iv = .ok ()) : Bytes.BitsFit iv := by
  unfold validateIv at valid
  split at valid
  · cases valid
  · split at valid
    · cases valid
    · split at valid
      · cases valid
      · next short => exact Nat.le_of_not_lt short

theorem length_le_of_validateAad {config : Config} {aad : Bytes}
    (valid : config.validateAad aad = .ok ()) : aad.length ≤ config.lengthLimit.maxAad := by
  unfold validateAad at valid
  split at valid
  · cases valid
  · split at valid
    · cases valid
    · next short => exact Nat.le_of_not_lt short

theorem bitsFit_of_validateAad {config : Config} {aad : Bytes}
    (valid : config.validateAad aad = .ok ()) : Bytes.BitsFit aad :=
  Nat.le_trans (length_le_of_validateAad valid) config.lengthLimit.maxAad_le

theorem bitsFit_of_validateText {config : Config} {text : Bytes}
    (valid : config.validateText 0 text.length = .ok ()) : Bytes.BitsFit text := by
  have within := (config.validateText_zero_eq_ok_iff text.length).mp valid
  have limit := config.lengthLimit.maxMessage_le
  exact Nat.le_trans within (Nat.le_trans limit (by decide))

end Config

theorem Context.checkUpdate_ok_iff {Key : Type} (context : Context Key) (length : Nat) :
    context.checkUpdate length = .ok () ↔
      context.phase.isOpen ∧ length ≠ 0 ∧
        context.processedLength.toNat + length ≤ context.config.lengthLimit.maxMessage := by
  unfold checkUpdate
  cases phase : context.phase.isOpen with
  | false => simp
  | true =>
      by_cases empty : length = 0
      · simp [empty]
      · simp [empty, Config.validateText_eq_ok_iff]

/-! ## Tags -/

namespace Tag

theorem verifyBlock_iff (block : Block) (length : TagLength) {received : Bytes}
    (sized : received.length = length.bytes) :
    verifyBlock block received = true ↔ received = (ofBlock block length).bytes := by
  have some : received.isEmpty = false := by
    have atLeast := length.atLeast
    cases received with
    | nil =>
        rw [List.length_nil] at sized
        omega
    | cons byte rest => rfl
  rw [verifyBlock, some, Bool.not_false, Bool.true_and, List.isPrefixOf_iff_prefix,
    List.prefix_iff_eq_take, sized]
  rfl

end Tag

/-! ## Messages -/

structure Message (Key : Type) where
  key : Key
  config : Config
  direction : Direction
  iv : Bytes
  aad : Bytes

namespace Message

variable {Key : Type} [BlockCipher Key] (message : Message Key)

def initial : Session :=
  (Session.start message.key message.config.backend message.iv message.aad).value

def preCounter : Block := message.initial.preCounter

def mask (text : Bytes) : Bytes := Keystream.mask message.key message.preCounter 0 text

def ciphertext (text : Bytes) : Bytes := message.direction.ciphertext text (message.mask text)

def hash (ciphertext : Bytes) : Block :=
  ((message.initial.hash.absorbPadded ciphertext).absorbLengths
    (UInt64.ofNat message.aad.length * 8) (UInt64.ofNat ciphertext.length * 8)).value

def tag (ciphertext : Bytes) : Tag :=
  Tag.ofBlock ((BlockCipher.encrypt message.key message.preCounter).xor (message.hash ciphertext))
    message.config.tagLength

/-- A decryption gives something only for the right tag. -/
def verdict (ciphertext received : Bytes) (value : Value) : Except Error Value :=
  if received = (message.tag ciphertext).bytes then .ok value
  else .error (.notAuthentic "finalize_decryption" "tag mismatch")

@[simp] theorem length_mask (text : Bytes) : (message.mask text).length = text.length :=
  Keystream.length_mask ..

@[simp] theorem length_ciphertext (text : Bytes) :
    (message.ciphertext text).length = text.length :=
  message.direction.length_ciphertext (message.length_mask text)

theorem mask_mask (text : Bytes) : message.mask (message.mask text) = text :=
  Keystream.mask_mask ..

theorem mask_append (text data : Bytes) :
    message.mask (text ++ data) =
      message.mask text ++ Keystream.mask message.key message.preCounter text.length data := by
  rw [mask, Keystream.mask_append, Nat.zero_add, mask]

theorem ciphertext_nil : message.ciphertext [] = [] :=
  List.eq_nil_of_length_eq_zero (message.length_ciphertext [])

theorem ciphertext_append (text data : Bytes) :
    message.ciphertext (text ++ data) =
      message.ciphertext text ++ message.direction.ciphertext data
        (Keystream.mask message.key message.preCounter text.length data) := by
  rw [ciphertext, mask_append, message.direction.ciphertext_append, ciphertext]

theorem verdict_eq_ok_iff {ciphertext received : Bytes} {value result : Value} :
    message.verdict ciphertext received value = .ok result ↔
      received = (message.tag ciphertext).bytes ∧ value = result := by
  unfold verdict
  split
  · next same => simp [same]
  · next different => simp [different]

theorem isOk_verdict_iff {ciphertext received : Bytes} (value : Value) :
    (message.verdict ciphertext received value).isOk ↔
      received = (message.tag ciphertext).bytes := by
  unfold verdict
  split
  · next same => exact ⟨fun _ => same, fun _ => rfl⟩
  · next different => exact ⟨fun isOk => (nomatch isOk), fun same => absurd same different⟩

theorem verdict_bind (ciphertext received : Bytes) (first : First) (next : First → Second) :
    (message.verdict ciphertext received first >>= fun value => .ok (next value)) =
      message.verdict ciphertext received (next first) := by
  unfold verdict
  split <;> rfl

theorem verdict_not_rejected (ciphertext received : Bytes) (value : Value) :
    ¬Rejected (message.verdict ciphertext received value) := by
  rintro ⟨error, equal, category⟩
  unfold verdict at equal
  split at equal
  · cases equal
  · cases equal
    cases category

theorem verdict_of_verifyBlock {ciphertext received : Bytes} (value : Value)
    (sized : received.length = message.config.tagLength.bytes) :
    message.verdict ciphertext received value =
      if Tag.verifyBlock (Tag.blockOf message.key message.preCounter
        (message.hash ciphertext)).value received then .ok value
      else .error (.notAuthentic "finalize_decryption" "tag mismatch") := by
  have same := Tag.verifyBlock_iff
    (Tag.blockOf message.key message.preCounter (message.hash ciphertext)).value _ sized
  simp only [same]
  rfl

/-- The context is processing the message, and has come to a text. -/
structure OpenAt (text : Bytes) (context : Context Key) : Prop where
  key : context.key = message.key
  config : context.config = message.config
  direction : context.direction = some message.direction
  phase : context.phase = if text = [] then .aadAbsorbed else .streaming
  session : ∃ session, context.session = some session ∧
    Session.Reached message.key message.initial (message.ciphertext text) session ∧
    session.textLength = UInt64.ofNat text.length
  within : text.length ≤ message.config.lengthLimit.maxMessage

end Message

namespace Context

variable {Key : Type} [BlockCipher Key] {context : Context Key} {message : Message Key}
  {text : Bytes}

/-! ## Starting -/

theorem answer_initialise (context : Context Key) (direction : Direction) (iv aad : Bytes) :
    (context.initialise direction iv aad).value.answer =
      context.config.validateStart iv aad := by
  cases checked : context.config.validateStart iv aad with
  | error error =>
      rw [initialise_of_error checked]
      rfl
  | ok _ => rw [(initialise_of_valid checked).1]

theorem initialise_of_ok {direction : Direction} {iv aad : Bytes}
    (accepted : (context.initialise direction iv aad).value.answer = .ok ()) :
    (context.initialise direction iv aad).calls = [Block.zero] ∧
      Message.OpenAt ⟨context.key, context.config, direction, iv, aad⟩ []
        (context.initialise direction iv aad).value.context := by
  rw [answer_initialise] at accepted
  rcases initialise_of_valid accepted with ⟨value, calls⟩
  rw [value]
  refine ⟨calls, rfl, rfl, rfl, rfl, ?_, Nat.zero_le _⟩
  refine ⟨_, rfl, ?_, rfl⟩
  rw [Message.ciphertext_nil]
  exact Session.reached_start context.key context.config.backend iv aad

/-! ## Processing -/

theorem isOpen_of_openAt (openAt : message.OpenAt text context) : context.phase.isOpen := by
  rw [openAt.phase]
  split <;> rfl

theorem processedLength_of_openAt (openAt : message.OpenAt text context) :
    context.processedLength.toNat = text.length := by
  obtain ⟨session, present, _, counted⟩ := openAt.session
  have limit := message.config.lengthLimit.maxMessage_le
  have within := openAt.within
  have size : UInt64.size = 18446744073709551616 := rfl
  rw [processedLength, present]
  change session.textLength.toNat = _
  rw [counted, UInt64.toNat_ofNat_of_lt' (by omega)]

theorem checkUpdate_eq_ok_iff (openAt : message.OpenAt text context) (length : Nat) :
    context.checkUpdate length = .ok () ↔
      length ≠ 0 ∧ text.length + length ≤ message.config.lengthLimit.maxMessage := by
  have isOpen := isOpen_of_openAt openAt
  rw [checkUpdate_ok_iff, processedLength_of_openAt openAt, openAt.config]
  exact and_iff_right isOpen

theorem process_of_present {context : Context Key} {session : Session} {direction : Direction}
    (present : context.session = some session) (directed : context.direction = some direction)
    (data : Bytes) :
    let processed := session.process context.key direction data
    (context.process data).value =
        ({ context with session := some processed.value.1, phase := .streaming },
          processed.value.2) ∧
      (context.process data).calls = processed.calls := by
  unfold process
  rw [present, directed]
  exact ⟨rfl, by simp⟩

theorem length_process (context : Context Key) (data : Bytes) :
    (context.process data).value.2.length = data.length := by
  unfold process
  split
  · exact Session.length_process ..
  · rfl

section

variable (openAt : message.OpenAt text context) {data : Bytes}
  (within : text.length + data.length ≤ message.config.lengthLimit.maxMessage)

include openAt

theorem process_of_openAt (data : Bytes) :
    ∃ session, context.session = some session ∧
      Session.Reached message.key message.initial (message.ciphertext text) session ∧
      (context.process data).value.1 =
        { context with
          session := some (session.process message.key message.direction data).value.1
          phase := .streaming } ∧
      (context.process data).value.2 =
        (session.process message.key message.direction data).value.2 ∧
      (context.process data).calls =
        (session.process message.key message.direction data).calls ∧
      session.textLength = UInt64.ofNat text.length := by
  obtain ⟨session, present, reached, counted⟩ := openAt.session
  rcases process_of_present present openAt.direction data with ⟨value, calls⟩
  rw [← openAt.key]
  exact ⟨session, present, openAt.key ▸ reached, by rw [value], by rw [value], calls, counted⟩

theorem output_process :
    (context.process data).value.2 =
      Keystream.mask message.key message.preCounter text.length data := by
  obtain ⟨session, _, reached, _, output, _⟩ := process_of_openAt openAt data
  rw [output, Session.output_process reached, message.length_ciphertext, Message.preCounter]

theorem calls_process :
    (context.process data).calls =
      Keystream.counters message.preCounter text.length (text.length + data.length) := by
  obtain ⟨session, _, reached, _, _, calls, _⟩ := process_of_openAt openAt data
  rw [calls, Session.calls_process reached, message.length_ciphertext, Message.preCounter]

include within

theorem openAt_process (some : data ≠ []) :
    message.OpenAt (text ++ data) (context.process data).value.1 := by
  obtain ⟨session, _, reached, next, _, _, counted⟩ := process_of_openAt openAt data
  rw [next]
  exact {
    key := openAt.key
    config := openAt.config
    direction := openAt.direction
    phase := by
      rw [if_neg (by simp [some])]
    session := by
      refine ⟨_, rfl, ?_, ?_⟩
      · rw [message.ciphertext_append, Message.preCounter, ← message.length_ciphertext text]
        exact Session.reached_process reached message.direction data
      · rw [Session.textLength_process reached, counted, List.length_append, UInt64.ofNat_add]
    within := by
      rw [List.length_append]
      exact within }

end

/-! ## Completing -/

theorem tagBlock_of_openAt (openAt : message.OpenAt text context) {session : Session}
    (present : context.session = some session) :
    session.tagBlock context.key =
      Tag.blockOf message.key message.preCounter (message.hash (message.ciphertext text)) := by
  obtain ⟨other, otherPresent, reached, counted⟩ := openAt.session
  have same : other = session := Option.some.inj (otherPresent.symm.trans present)
  subst same
  rw [openAt.key, Session.tagBlock_eq reached, counted, Message.hash, message.length_ciphertext]
  rfl

theorem answer_finaliseEncryption (openAt : message.OpenAt text context)
    (direction : message.direction = .encrypt) :
    context.finaliseEncryption.value.answer = .ok (message.tag (message.ciphertext text)) := by
  obtain ⟨session, present, _⟩ := openAt.session
  have valid := (context.checkFinalise_eq_ok_iff "finalize_encryption" .encrypt).mpr
    ⟨isOpen_of_openAt openAt, direction ▸ openAt.direction⟩
  rw [finaliseEncryption, valid, present]
  change Except.ok (Tag.ofBlock (session.tagBlock context.key).value context.config.tagLength) = _
  rw [tagBlock_of_openAt openAt present, openAt.config]
  rfl

theorem answer_finaliseDecryption (openAt : message.OpenAt text context)
    (direction : message.direction = .decrypt) (received : Bytes) :
    (context.finaliseDecryption received).value.answer = (do
      (context.checkTagLength received.length).value
      message.verdict (message.ciphertext text) received ()) := by
  obtain ⟨session, present, _⟩ := openAt.session
  have valid := (context.checkFinalise_eq_ok_iff "finalize_decryption" .decrypt).mpr
    ⟨isOpen_of_openAt openAt, direction ▸ openAt.direction⟩
  rw [finaliseDecryption, valid]
  dsimp only
  rw [Traced.value_bind]
  cases sized : (context.checkTagLength received.length).value with
  | error error => rfl
  | ok _ =>
      have length := (context.checkTagLength_eq_ok_iff _).mp sized
      rw [openAt.config] at length
      change _ = message.verdict (message.ciphertext text) received ()
      rw [message.verdict_of_verifyBlock () length, present]
      dsimp only
      rw [Traced.value_bind, tagBlock_of_openAt openAt present]
      split <;> rfl

end Context

end GaloisCounter
