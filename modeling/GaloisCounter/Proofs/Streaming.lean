import GaloisCounter.Proofs.Course
import GaloisCounter.Proofs.OneShot
import Mathlib.Data.List.Forall2

/-!
A message that is processed in pieces is answered like the whole message at once.

The pieces are the accepted ones among any calls after a start, and rejected calls may stand
anywhere between them.
-/

namespace GaloisCounter

/-! ## Checks before a result -/

theorem rejected_bind_iff {check : Except Error Unit} (refuses : OnlyRefuses check)
    {result : Except Error Value} (accepts : ¬Rejected result) :
    Rejected (do check; result) ↔ check ≠ .ok () := by
  cases check with
  | error error =>
      constructor
      · intro _ impossible
        cases impossible
      · intro _
        exact ⟨error, rfl, refuses error rfl⟩
  | ok _ =>
      constructor
      · intro rejected
        exact absurd rejected accepts
      · intro different
        exact absurd rfl different

/-! ## Accepted pieces -/

namespace Operation

/-- The call processes a chunk of text and has room for what it becomes. -/
inductive Feeds : Operation → Bytes → Prop
  | update {chunk output : Bytes} (fits : chunk.length ≤ output.length) :
      Feeds (.update chunk output) chunk
  | updateInPlace {chunk : Bytes} : Feeds (.updateInPlace chunk) chunk

end Operation

namespace Context

variable {Key : Type} [BlockCipher Key] {context : Context Key} {message : Message Key}
  {text : Bytes}

theorem Accepts.valid_of_feeds {operation : Operation} {reply : Reply} {next : Context Key}
    {calls : List Block} {chunk : Bytes} (accepts : context.Accepts operation reply next calls)
    (feeds : operation.Feeds chunk) : context.checkUpdate chunk.length = .ok () := by
  cases feeds with
  | update fits =>
      cases accepts with
      | update fits valid => exact valid
  | updateInPlace =>
      cases accepts with
      | updateInPlace valid => exact valid

section

variable {operation : Operation} {chunk : Bytes} (feeds : operation.Feeds chunk)

include feeds

theorem accepted_iff_checkUpdate :
    ¬Rejected (context.perform operation).value.1.answer ↔
      context.checkUpdate chunk.length = .ok () := by
  constructor
  · intro accepted
    rcases context.perform_cases operation with ⟨error, category, value, _⟩ | accepts
    · exact absurd ⟨error, by rw [value], category⟩ accepted
    · exact accepts.valid_of_feeds feeds
  · intro valid
    cases feeds with
    | update fits =>
        have accepts := Accepts.update fits valid
        rw [accepts.perform_eq.1]
        exact accepts.not_rejected
    | updateInPlace =>
        have accepts := Accepts.updateInPlace valid
        rw [accepts.perform_eq.1]
        exact accepts.not_rejected

theorem perform_of_feeds (valid : context.checkUpdate chunk.length = .ok ()) :
    let performed := context.perform operation
    let processed := context.process chunk
    performed.value.2 = processed.value.1 ∧
      Exchange.output ⟨operation, performed.value.1⟩ = processed.value.2 ∧
      performed.calls = processed.calls := by
  cases feeds with
  | @update chunk output fits =>
      rcases (Accepts.update fits valid).perform_eq with ⟨value, calls⟩
      refine ⟨by rw [value], ?_, calls⟩
      rw [value]
      change ((context.process chunk).value.2 ++ output.drop chunk.length).take chunk.length = _
      rw [← context.length_process chunk, List.take_left]
  | updateInPlace =>
      rcases (Accepts.updateInPlace valid).perform_eq with ⟨value, calls⟩
      exact ⟨by rw [value], by rw [value]; rfl, calls⟩

end

theorem openAt_of_feeds (openAt : message.OpenAt text context) {operation : Operation}
    {chunk : Bytes} (feeds : operation.Feeds chunk) (some : chunk ≠ [])
    (within : text.length + chunk.length ≤ message.config.lengthLimit.maxMessage) :
    ¬Rejected (context.perform operation).value.1.answer ∧
      message.OpenAt (text ++ chunk) (context.perform operation).value.2 := by
  have length : chunk.length ≠ 0 := fun none => some (List.eq_nil_of_length_eq_zero none)
  have valid := (checkUpdate_eq_ok_iff openAt _).mpr ⟨length, within⟩
  rw [(perform_of_feeds feeds valid).1]
  exact ⟨(accepted_iff_checkUpdate feeds).mpr valid, openAt_process openAt within some⟩

theorem rejected_of_feeds (openAt : message.OpenAt text context) {operation : Operation}
    {chunk : Bytes} (feeds : operation.Feeds chunk)
    (beyond : ¬text.length + chunk.length ≤ message.config.lengthLimit.maxMessage) :
    Rejected (context.perform operation).value.1.answer := by
  apply not_not.mp
  rw [accepted_iff_checkUpdate feeds, checkUpdate_eq_ok_iff openAt]
  exact fun both => beyond both.2

theorem accepted_iff_of_feeds (openAt : message.OpenAt text context)
    {operations : List Operation} {chunks : List Bytes}
    (feeds : List.Forall₂ Operation.Feeds operations chunks) (some : ∀ chunk ∈ chunks, chunk ≠ []) :
    (∀ exchange ∈ context.exchanges operations, ¬Rejected exchange.reply.answer) ↔
      text.length + chunks.flatten.length ≤ message.config.lengthLimit.maxMessage := by
  -- The first chunk that goes beyond the limit is rejected, and the limit holds for all of them
  -- together if none is.
  induction feeds generalizing context text with
  | nil =>
      constructor
      · intro _
        exact openAt.within
      · simp
  | @cons operation chunk operations chunks first rest induction =>
      rw [exchanges_cons, List.forall_mem_cons, List.flatten_cons, List.length_append]
      by_cases within : text.length + chunk.length ≤ message.config.lengthLimit.maxMessage
      · -- The context goes on to the rest of the chunks with a longer text.
        rcases openAt_of_feeds openAt first (some chunk List.mem_cons_self) within with
          ⟨accepted, openNext⟩
        have others := induction openNext fun chunk member =>
          some chunk (List.mem_cons_of_mem _ member)
        rw [others, List.length_append, Nat.add_assoc]
        exact ⟨fun both => both.2, fun total => ⟨accepted, total⟩⟩
      · have rejected := rejected_of_feeds openAt first within
        constructor
        · intro both
          exact absurd rejected both.1
        · intro total
          omega

end Context

/-! ## Agreement with whole messages -/

namespace Gcm

variable {Key : Type} [BlockCipher Key] (gcm : Gcm Key)

/-- The calls since a start, which led to the last context, give the ciphertext and the tag of their
text. Every completion gives the tag, and if there was none yet it would now. -/
def SealsPieces (iv aad : Bytes) (exchanges : List Exchange) (last : Context Key) : Prop :=
  ∃ tag,
    (gcm.encryptDetached iv aad (exchanges.flatMap Exchange.text)).value =
      .ok (exchanges.flatMap Exchange.output, tag) ∧
    (∀ exchange ∈ exchanges, exchange.operation.isFinalise → ¬Rejected exchange.reply.answer →
      exchange.operation = .finaliseEncryption ∧ exchange.reply.answer = .ok (.sealed tag)) ∧
    ((∀ exchange ∈ exchanges, exchange.operation.isFinalise → Rejected exchange.reply.answer) →
      last.finaliseEncryption.value.answer = .ok tag)

/-- The calls since a start, which led to the last context, give the plaintext of their text. Every
completion judges the received tag as opening does, and if there was none yet it would now. -/
def OpensPieces (iv aad : Bytes) (exchanges : List Exchange) (last : Context Key) : Prop :=
  let opened (received : Bytes) : Except Error Bytes :=
    (gcm.decryptDetached iv aad (exchanges.flatMap Exchange.text) received).value
  (∃ received, opened received = .ok (exchanges.flatMap Exchange.output)) ∧
  (∀ received plaintext, opened received = .ok plaintext →
    plaintext = exchanges.flatMap Exchange.output) ∧
  (∀ exchange ∈ exchanges, exchange.operation.isFinalise → ¬Rejected exchange.reply.answer →
    ∃ received, exchange.operation = .finaliseDecryption received ∧
      received.length = gcm.config.tagLength.bytes ∧
      exchange.reply.answer = (opened received).map fun _ => .done) ∧
  ((∀ exchange ∈ exchanges, exchange.operation.isFinalise → Rejected exchange.reply.answer) →
    ∀ received, (last.finaliseDecryption received).value.answer =
      (opened received).map fun _ => ())

section

variable {gcm} {iv aad : Bytes} {exchanges : List Exchange} {calls : List Block}
  {stage : Message.Stage} {last : Context Key}
  (started : gcm.config.validateStart iv aad = .ok ())

include started

theorem sealsPieces
    (summary : (gcm.message .encrypt iv aad).Summary [] exchanges calls stage)
    (inStage : (gcm.message .encrypt iv aad).InStage last stage) :
    gcm.SealsPieces iv aad exchanges last := by
  let message := gcm.message .encrypt iv aad
  have masked : exchanges.flatMap Exchange.output =
      message.mask (exchanges.flatMap Exchange.text) := summary.output
  refine ⟨message.tag (exchanges.flatMap Exchange.output), ?_, ?_, ?_⟩
  · exact gcm.encryptDetached_eq_ok_iff.mpr
      ⟨(Config.validateMessage_eq_ok_iff started _).mpr summary.within, masked, rfl⟩
  · intro exchange member finalise accepted
    rcases summary.conclusion exchange member finalise accepted with ⟨calls, step⟩
    rw [masked]
    cases step with
    | finaliseEncryption direction => exact ⟨rfl, rfl⟩
    | finaliseDecryption direction sized => cases direction
  · intro unfinished
    rcases summary.ending with ⟨ends, _, _⟩ | ⟨_, _, exchange, member, finalise, accepted⟩
    · rw [ends] at inStage
      rw [masked]
      exact Context.answer_finaliseEncryption inStage rfl
    · exact absurd (unfinished exchange member finalise) accepted

theorem opensPieces
    (summary : (gcm.message .decrypt iv aad).Summary [] exchanges calls stage)
    (inStage : (gcm.message .decrypt iv aad).InStage last stage) :
    gcm.OpensPieces iv aad exchanges last := by
  let message := gcm.message .decrypt iv aad
  let text := exchanges.flatMap Exchange.text
  have masked : exchanges.flatMap Exchange.output = message.mask text := summary.output
  have valid : gcm.config.validateMessage iv aad text.length = .ok () :=
    (Config.validateMessage_eq_ok_iff started _).mpr summary.within
  have opened (received : Bytes) : (gcm.decryptDetached iv aad text received).value = (do
      gcm.checkTag received
      message.verdict text received (message.mask text)) := by
    rw [value_decryptDetached, valid]
    rfl
  refine ⟨⟨(message.tag text).bytes, ?_⟩, ?_, ?_, ?_⟩
  · exact gcm.decryptDetached_eq_ok_iff.mpr ⟨valid, rfl, masked⟩
  · intro received plaintext accepted
    rw [masked]
    exact (gcm.decryptDetached_eq_ok_iff.mp accepted).2.2
  · intro exchange member finalise accepted
    rcases summary.conclusion exchange member finalise accepted with ⟨calls, step⟩
    cases step with
    | finaliseEncryption direction => cases direction
    | @finaliseDecryption _ received direction sized =>
        refine ⟨received, rfl, sized, ?_⟩
        change message.verdict text received Answer.done =
          (gcm.decryptDetached iv aad text received).value.map _
        rw [opened, gcm.checkTag_eq_ok_iff.mpr sized]
        exact (message.verdict_bind text received (message.mask text) fun _ => Answer.done).symm
  · intro unfinished received
    rcases summary.ending with ⟨ends, _, _⟩ | ⟨_, _, exchange, member, finalise, accepted⟩
    · rw [ends] at inStage
      have openAt : message.OpenAt text last := inStage
      change _ = (gcm.decryptDetached iv aad text received).value.map _
      rw [Context.answer_finaliseDecryption openAt rfl, opened, gcm.checkTagLength_eq openAt]
      cases gcm.checkTag received with
      | error error => rfl
      | ok _ =>
          exact (message.verdict_bind text received (message.mask text) fun _ => ()).symm
    · exact absurd (unfinished exchange member finalise) accepted

theorem rejected_encryptDetached_iff (text : Bytes) :
    Rejected (gcm.encryptDetached iv aad text).value ↔
      ¬text.length ≤ gcm.config.lengthLimit.maxMessage := by
  have gives (result : Bytes × Tag) : ¬Rejected (.ok result) := by
    rintro ⟨_, impossible, _⟩
    cases impossible
  rw [value_encryptDetached, ← Config.validateMessage_eq_ok_iff started]
  exact rejected_bind_iff (gcm.config.onlyRefuses_validateMessage _ _ _) (gives _)

theorem rejected_decryptDetached_iff (text : Bytes) {received : Bytes}
    (sized : received.length = gcm.config.tagLength.bytes) :
    Rejected (gcm.decryptDetached iv aad text received).value ↔
      ¬text.length ≤ gcm.config.lengthLimit.maxMessage := by
  have judged : ¬Rejected (do
      gcm.checkTag received
      let message := gcm.message .decrypt iv aad
      message.verdict text received (message.mask text)) := by
    rw [gcm.checkTag_eq_ok_iff.mpr sized]
    exact (gcm.message .decrypt iv aad).verdict_not_rejected _ _ _
  rw [value_decryptDetached, ← Config.validateMessage_eq_ok_iff started]
  exact rejected_bind_iff (gcm.config.onlyRefuses_validateMessage _ _ _) judged

end

end Gcm

namespace Context

variable {Key : Type} [BlockCipher Key]

/-- Chunks that are fed to the context are all accepted exactly if the whole is. -/
def AcceptsAs (context : Context Key) (whole : Bytes → Except Error Value) : Prop :=
  ∀ operations chunks, List.Forall₂ Operation.Feeds operations chunks →
    (∀ chunk ∈ chunks, chunk ≠ []) →
    ((∀ exchange ∈ context.exchanges operations, ¬Rejected exchange.reply.answer) ↔
      ¬Rejected (whole chunks.flatten))

theorem acceptsAs_of_openAt {context : Context Key} {message : Message Key}
    (openAt : message.OpenAt [] context) {whole : Bytes → Except Error Value}
    (limited : ∀ text, Rejected (whole text) ↔
      ¬text.length ≤ message.config.lengthLimit.maxMessage) :
    context.AcceptsAs whole := by
  intro operations chunks feeds some
  rw [accepted_iff_of_feeds openAt feeds some, limited, not_not, List.length_nil, Nat.zero_add]

/-- After a start, whatever the context did before, pieces agree with the whole. -/
theorem pieces_agree_with_whole (context : Context Key) (direction : Direction) (iv aad : Bytes)
    (accepted : (context.initialise direction iv aad).value.answer = .ok ())
    (operations : List Operation)
    (unbroken : Unbroken
      ((context.initialise direction iv aad).value.context.exchanges operations)) :
    let gcm : Gcm Key := ⟨context.key, context.config⟩
    let first := (context.initialise direction iv aad).value.context
    let exchanges := first.exchanges operations
    let last := (first.run operations).value.2
    (direction = .encrypt →
      gcm.SealsPieces iv aad exchanges last ∧
        first.AcceptsAs fun text => (gcm.encryptDetached iv aad text).value) ∧
    (direction = .decrypt →
      gcm.OpensPieces iv aad exchanges last ∧
        ∀ received : Bytes, received.length = context.config.tagLength.bytes →
          first.AcceptsAs fun text => (gcm.decryptDetached iv aad text received).value) := by
  intro gcm first exchanges last
  have openAt : (gcm.message direction iv aad).OpenAt [] first := (initialise_of_ok accepted).2
  have started : gcm.config.validateStart iv aad = .ok () := by
    rw [← context.answer_initialise direction]
    exact accepted
  rcases course_of_initialise accepted unbroken with ⟨stage, summary, inLast⟩
  constructor
  · rintro rfl
    exact ⟨Gcm.sealsPieces started summary inLast,
      acceptsAs_of_openAt openAt (Gcm.rejected_encryptDetached_iff started)⟩
  · rintro rfl
    exact ⟨Gcm.opensPieces started summary inLast, fun received sized =>
      acceptsAs_of_openAt openAt fun text =>
        Gcm.rejected_decryptDetached_iff started text sized⟩

theorem pieces_agree_with_whole_after_abandoned :
    let calls := [Operation.initialise .decrypt [1] [2], .updateInPlace [3, 4]]
    let context := ((Context.new (id : Block → Block)).run calls).value.2
    let first := (context.initialise .encrypt [5] [6]).value.context
    let operations := [Operation.update [1, 2, 3] [], .updateInPlace [1, 2, 3],
      .initialise .encrypt [] [], .finaliseDecryption [7], .finaliseEncryption]
    (context.initialise .encrypt [5] [6]).value.answer = .ok () ∧
      Unbroken (first.exchanges operations) ∧
      (⟨context.key, context.config⟩ : Gcm (Block → Block)).SealsPieces [5] [6]
        (first.exchanges operations) (first.run operations).value.2 := by
  intro calls context first operations
  have accepted : (context.initialise .encrypt [5] [6]).value.answer = .ok () := rfl
  have unbroken : Unbroken (first.exchanges operations) := by decide +kernel
  have agree := context.pieces_agree_with_whole .encrypt [5] [6] accepted operations unbroken
  exact ⟨accepted, unbroken, (agree.1 rfl).1⟩

end Context

end GaloisCounter
