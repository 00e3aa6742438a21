import GaloisCounter.Proofs.Message

/-!
The course of a message: the calls between one start and the next, with their replies.

`Step` says what one call can do to a message, and `Course` follows the calls of a run. What a
course adds to the text, what it gives out and which blocks it has encrypted is read off the calls.
-/

namespace GaloisCounter

/-! ## Calls with replies -/

structure Exchange where
  operation : Operation
  reply : Reply

namespace Exchange

def text (exchange : Exchange) : Bytes :=
  match exchange.operation, exchange.reply.answer with
  | .update input _, .ok _ => input
  | .updateInPlace buffer, .ok _ => buffer
  | _, _ => []

def output (exchange : Exchange) : Bytes :=
  match exchange.operation, exchange.reply.answer with
  | .update input _, .ok _ => exchange.reply.buffer.take input.length
  | .updateInPlace _, .ok _ => exchange.reply.buffer
  | _, _ => []

end Exchange

namespace Context

variable {Key : Type} [BlockCipher Key]

def exchanges (context : Context Key) (operations : List Operation) : List Exchange :=
  operations.zipWith Exchange.mk (context.run operations).value.1

@[simp] theorem exchanges_nil (context : Context Key) : context.exchanges [] = [] := rfl

@[simp] theorem exchanges_cons (context : Context Key) (operation : Operation)
    (rest : List Operation) :
    context.exchanges (operation :: rest) =
      ⟨operation, (context.perform operation).value.1⟩ ::
        (context.perform operation).value.2.exchanges rest :=
  rfl

end Context

def Unbroken (exchanges : List Exchange) : Prop :=
  ∀ exchange ∈ exchanges, exchange.operation.isInitialise → ¬exchange.reply.answer.isOk

instance (exchanges : List Exchange) : Decidable (Unbroken exchanges) :=
  inferInstanceAs (Decidable (∀ exchange ∈ exchanges,
    exchange.operation.isInitialise → ¬exchange.reply.answer.isOk))

/-! ## Steps -/

namespace Message

variable {Key : Type} [BlockCipher Key] (message : Message Key)

inductive Stage
  | processing (text : Bytes)
  | ended

def InStage (context : Context Key) : Stage → Prop
  | .processing text => message.OpenAt text context
  | .ended => context.phase.isOpen = false

/-- A call with its reply takes a message from one stage to the next and has blocks encrypted. -/
inductive Step : Stage → Exchange → List Block → Stage → Prop
  | refused {stage : Stage} {exchange : Exchange} (rejected : Rejected exchange.reply.answer) :
      Step stage exchange [] stage
  | update {text input output : Bytes} (fits : input.length ≤ output.length) (some : input ≠ [])
      (within : text.length + input.length ≤ message.config.lengthLimit.maxMessage) :
      Step (.processing text)
        ⟨.update input output, ⟨.ok (.written input.length),
          Keystream.mask message.key message.preCounter text.length input ++
            output.drop input.length⟩⟩
        (Keystream.counters message.preCounter text.length (text.length + input.length))
        (.processing (text ++ input))
  | updateInPlace {text buffer : Bytes} (some : buffer ≠ [])
      (within : text.length + buffer.length ≤ message.config.lengthLimit.maxMessage) :
      Step (.processing text)
        ⟨.updateInPlace buffer, ⟨.ok .done,
          Keystream.mask message.key message.preCounter text.length buffer⟩⟩
        (Keystream.counters message.preCounter text.length (text.length + buffer.length))
        (.processing (text ++ buffer))
  | finaliseEncryption {text : Bytes} (direction : message.direction = .encrypt) :
      Step (.processing text)
        ⟨.finaliseEncryption, ⟨.ok (.sealed (message.tag (message.ciphertext text))), []⟩⟩
        [message.preCounter] .ended
  | finaliseDecryption {text received : Bytes} (direction : message.direction = .decrypt)
      (sized : received.length = message.config.tagLength.bytes) :
      Step (.processing text)
        ⟨.finaliseDecryption received,
          ⟨message.verdict (message.ciphertext text) received .done, []⟩⟩
        [message.preCounter] .ended

section

variable {message} {context : Context Key} {text : Bytes}

theorem step_of_accepts (openAt : message.OpenAt text context) {operation : Operation}
    {reply : Reply} {next : Context Key} {calls : List Block}
    (accepts : context.Accepts operation reply next calls)
    (continues : operation.isInitialise = false) :
    ∃ stage, message.Step (.processing text) ⟨operation, reply⟩ calls stage ∧
      message.InStage next stage := by
  cases accepts with
  | initialise valid => cases continues
  | @update input output fits valid =>
      obtain ⟨some, within⟩ := (Context.checkUpdate_eq_ok_iff openAt _).mp valid
      have some : input ≠ [] := fun none => some (congrArg List.length none)
      refine ⟨.processing (text ++ input), ?_, Context.openAt_process openAt within some⟩
      rw [Context.output_process openAt, Context.calls_process openAt]
      exact .update fits some within
  | @updateInPlace buffer valid =>
      obtain ⟨some, within⟩ := (Context.checkUpdate_eq_ok_iff openAt _).mp valid
      have some : buffer ≠ [] := fun none => some (congrArg List.length none)
      refine ⟨.processing (text ++ buffer), ?_, Context.openAt_process openAt within some⟩
      rw [Context.output_process openAt, Context.calls_process openAt]
      exact .updateInPlace some within
  | finaliseEncryption isOpen direction present =>
      have forward : message.direction = .encrypt :=
        Option.some.inj (openAt.direction.symm.trans direction)
      refine ⟨.ended, ?_, rfl⟩
      rw [Context.tagBlock_of_openAt openAt present, openAt.config]
      exact .finaliseEncryption forward
  | verified isOpen direction present sized verdict
  | failed isOpen direction present sized verdict =>
      have backward : message.direction = .decrypt :=
        Option.some.inj (openAt.direction.symm.trans direction)
      rw [openAt.config] at sized
      rw [Context.tagBlock_of_openAt openAt present] at verdict ⊢
      have step : message.Step (.processing text) _ _ _ := .finaliseDecryption backward sized
      rw [message.verdict_of_verifyBlock Answer.done sized, verdict] at step
      exact ⟨.ended, step, rfl⟩

theorem step_perform {stage : Stage} (inStage : message.InStage context stage)
    {operation : Operation}
    (unstarted : operation.isInitialise →
      ¬(context.perform operation).value.1.answer.isOk) :
    ∃ next, message.Step stage ⟨operation, (context.perform operation).value.1⟩
        (context.perform operation).calls next ∧
      message.InStage (context.perform operation).value.2 next := by
  rcases context.perform_cases operation with ⟨error, category, value, calls⟩ | accepts
  · rw [value, calls]
    exact ⟨stage, .refused ⟨error, rfl, category⟩, inStage⟩
  · have continues : operation.isInitialise = false := by
      cases starts : operation.isInitialise with
      | false => rfl
      | true =>
          have answer := accepts.answer_of_isInitialise starts
          exact absurd (by rw [answer]; rfl) (unstarted starts)
    cases stage with
    | processing text => exact step_of_accepts inStage accepts continues
    | ended =>
        rcases accepts.isOpen with ⟨direction, iv, aad, rfl⟩ | isOpen
        · cases continues
        · rw [inStage] at isOpen
          cases isOpen

end

/-! ## Courses -/

inductive Course : Stage → List Exchange → List Block → Stage → Prop
  | nil {stage : Stage} : Course stage [] [] stage
  | cons {first middle last : Stage} {exchange : Exchange} {rest : List Exchange}
      {calls moreCalls : List Block} :
      message.Step first exchange calls middle →
      Course middle rest moreCalls last →
      Course first (exchange :: rest) (calls ++ moreCalls) last

def Concludes (text : Bytes) (exchange : Exchange) : Prop :=
  ∃ calls, message.Step (.processing text) exchange calls .ended

/-- What a course amounts to that begins at a text. -/
structure Summary (text : Bytes) (exchanges : List Exchange) (calls : List Block) (last : Stage) :
    Prop where
  output : exchanges.flatMap Exchange.output =
    Keystream.mask message.key message.preCounter text.length (exchanges.flatMap Exchange.text)
  within : (text ++ exchanges.flatMap Exchange.text).length ≤
    message.config.lengthLimit.maxMessage
  conclusion : ∀ exchange ∈ exchanges, exchange.operation.isFinalise →
    ¬Rejected exchange.reply.answer →
    message.Concludes (text ++ exchanges.flatMap Exchange.text) exchange
  ending :
    (last = .processing (text ++ exchanges.flatMap Exchange.text) ∧
      calls = Keystream.counters message.preCounter text.length
        (text ++ exchanges.flatMap Exchange.text).length ∧
      ∀ exchange ∈ exchanges, exchange.operation.isFinalise →
        Rejected exchange.reply.answer) ∨
    (last = .ended ∧
      calls = Keystream.counters message.preCounter text.length
        (text ++ exchanges.flatMap Exchange.text).length ++ [message.preCounter] ∧
      ∃ exchange ∈ exchanges, exchange.operation.isFinalise ∧
        ¬Rejected exchange.reply.answer)

section

variable {message} {context : Context Key} {text : Bytes} {stage : Stage}

theorem course_run (inStage : message.InStage context stage) {operations : List Operation}
    (unbroken : Unbroken (context.exchanges operations)) :
    ∃ last,
      message.Course stage (context.exchanges operations) (context.run operations).calls last ∧
      message.InStage (context.run operations).value.2 last := by
  induction operations generalizing context stage with
  | nil => exact ⟨stage, .nil, inStage⟩
  | cons operation rest induction =>
      rw [Context.exchanges_cons] at unbroken ⊢
      rcases step_perform inStage (unbroken _ List.mem_cons_self) with ⟨middle, step, inMiddle⟩
      have restUnbroken : Unbroken ((context.perform operation).value.2.exchanges rest) :=
        fun exchange member => unbroken exchange (List.mem_cons_of_mem _ member)
      rcases induction inMiddle restUnbroken with ⟨last, course, inLast⟩
      refine ⟨last, ?_, inLast⟩
      have calls : (context.run (operation :: rest)).calls =
          (context.perform operation).calls ++
            ((context.perform operation).value.2.run rest).calls := by
        simp [Context.run]
      rw [calls]
      exact .cons step course

theorem text_of_rejected {exchange : Exchange} (rejected : Rejected exchange.reply.answer) :
    exchange.text = [] ∧ exchange.output = [] := by
  obtain ⟨error, answer, _⟩ := rejected
  unfold Exchange.text Exchange.output
  rw [answer]
  cases exchange.operation <;> exact ⟨rfl, rfl⟩

theorem Step.text_and_output {next : Bytes} {exchange : Exchange} {calls : List Block}
    (step : message.Step (.processing text) exchange calls (.processing next)) :
    next = text ++ exchange.text ∧
      exchange.output =
        Keystream.mask message.key message.preCounter text.length exchange.text := by
  cases step with
  | refused rejected =>
      rcases text_of_rejected rejected with ⟨noText, noOutput⟩
      rw [noText, noOutput, List.append_nil]
      exact ⟨rfl, rfl⟩
  | @update _ input output fits some within =>
      have length := Keystream.length_mask message.key message.preCounter text.length input
      refine ⟨rfl, ?_⟩
      change List.take input.length _ = _
      rw [← length, List.take_left]
      rfl
  | updateInPlace some within => exact ⟨rfl, rfl⟩

theorem Course.ended {exchanges : List Exchange} {calls : List Block} {last : Stage}
    (course : message.Course stage exchanges calls last) (begins : stage = .ended) :
    exchanges.flatMap Exchange.text = [] ∧ exchanges.flatMap Exchange.output = [] ∧
      calls = [] ∧ last = .ended ∧ ∀ exchange ∈ exchanges, Rejected exchange.reply.answer := by
  induction course with
  | nil => exact ⟨rfl, rfl, rfl, begins, by simp⟩
  | cons step course induction =>
      cases step with
      | refused rejected =>
          obtain ⟨text, output, calls, ends, all⟩ := induction begins
          obtain ⟨noText, noOutput⟩ := text_of_rejected rejected
          refine ⟨?_, ?_, ?_, ends, ?_⟩
          · rw [List.flatMap_cons, noText, text, List.append_nil]
          · rw [List.flatMap_cons, noOutput, output, List.append_nil]
          · rw [calls, List.append_nil]
          · intro exchange member
            rcases List.mem_cons.mp member with rfl | member
            · exact rejected
            · exact all exchange member
      | _ => cases begins

namespace Summary

theorem nil (within : text.length ≤ message.config.lengthLimit.maxMessage) :
    message.Summary text [] [] (.processing text) where
  output := rfl
  within := by
    rw [List.flatMap_nil, List.append_nil]
    exact within
  conclusion := by simp
  ending := by
    left
    rw [List.flatMap_nil, List.append_nil, Keystream.counters_of_begun_eq _ rfl]
    exact ⟨rfl, rfl, by simp⟩

variable {exchange : Exchange} {rest : List Exchange} {calls : List Block} {last : Stage}

theorem refused (rejected : Rejected exchange.reply.answer)
    (summary : message.Summary text rest calls last) :
    message.Summary text (exchange :: rest) calls last := by
  obtain ⟨noText, noOutput⟩ := text_of_rejected rejected
  have texts : (exchange :: rest).flatMap Exchange.text = rest.flatMap Exchange.text := by
    rw [List.flatMap_cons, noText, List.nil_append]
  have outputs : (exchange :: rest).flatMap Exchange.output = rest.flatMap Exchange.output := by
    rw [List.flatMap_cons, noOutput, List.nil_append]
  refine ⟨?_, ?_, ?_, ?_⟩
  · rw [texts, outputs]
    exact summary.output
  · rw [texts]
    exact summary.within
  · rw [texts]
    intro other member finalise accepted
    rcases List.mem_cons.mp member with rfl | member
    · exact absurd rejected accepted
    · exact summary.conclusion other member finalise accepted
  · rw [texts]
    rcases summary.ending with ⟨ends, inputs, all⟩ | ⟨ends, inputs, other, member, some⟩
    · refine .inl ⟨ends, inputs, fun other member finalise => ?_⟩
      rcases List.mem_cons.mp member with rfl | member
      · exact rejected
      · exact all other member finalise
    · exact .inr ⟨ends, inputs, other, List.mem_cons_of_mem _ member, some⟩

theorem piece (data : Bytes) (texts : exchange.text = data)
    (outputs : exchange.output =
      Keystream.mask message.key message.preCounter text.length data)
    (continues : exchange.operation.isFinalise = false)
    (summary : message.Summary (text ++ data) rest calls last) :
    message.Summary text (exchange :: rest)
      (Keystream.counters message.preCounter text.length (text.length + data.length) ++ calls)
      last := by
  have joined : text ++ (exchange :: rest).flatMap Exchange.text =
      text ++ data ++ rest.flatMap Exchange.text := by
    rw [List.flatMap_cons, texts, List.append_assoc]
  have counters : Keystream.counters message.preCounter text.length (text.length + data.length) ++
      Keystream.counters message.preCounter (text ++ data).length
        (text ++ data ++ rest.flatMap Exchange.text).length =
      Keystream.counters message.preCounter text.length
        (text ++ data ++ rest.flatMap Exchange.text).length := by
    rw [List.length_append, List.length_append, List.length_append,
      Keystream.counters_append _ (by omega) (by omega)]
  refine ⟨?_, ?_, ?_, ?_⟩
  · rw [List.flatMap_cons, List.flatMap_cons, outputs, summary.output, texts,
      Keystream.mask_append, List.length_append]
  · rw [joined]
    exact summary.within
  · rw [joined]
    intro other member finalise
    rcases List.mem_cons.mp member with rfl | member
    · rw [continues] at finalise
      cases finalise
    · exact summary.conclusion other member finalise
  · rw [joined]
    rcases summary.ending with ⟨ends, inputs, all⟩ | ⟨ends, inputs, other, member, some⟩
    · refine .inl ⟨ends, by rw [inputs, counters], fun other member finalise => ?_⟩
      rcases List.mem_cons.mp member with rfl | member
      · rw [continues] at finalise
        cases finalise
      · exact all other member finalise
    · refine .inr ⟨ends, ?_, other, List.mem_cons_of_mem _ member, some⟩
      rw [inputs, ← List.append_assoc, counters]

theorem concluded {lastCalls : List Block}
    (within : text.length ≤ message.config.lengthLimit.maxMessage)
    (step : message.Step (.processing text) exchange [message.preCounter] .ended)
    (noText : exchange.text = []) (noOutput : exchange.output = [])
    (finalises : exchange.operation.isFinalise) (accepted : ¬Rejected exchange.reply.answer)
    (course : message.Course .ended rest lastCalls last) :
    message.Summary text (exchange :: rest) ([message.preCounter] ++ lastCalls) last := by
  obtain ⟨restText, restOutput, noCalls, ends, refusals⟩ := course.ended rfl
  have texts : (exchange :: rest).flatMap Exchange.text = [] := by
    rw [List.flatMap_cons, noText, restText, List.append_nil]
  have outputs : (exchange :: rest).flatMap Exchange.output = [] := by
    rw [List.flatMap_cons, noOutput, restOutput, List.append_nil]
  refine ⟨?_, ?_, ?_, ?_⟩
  · rw [texts, outputs]
    rfl
  · rw [texts, List.append_nil]
    exact within
  · rw [texts, List.append_nil]
    intro other member finalise someAccepted
    rcases List.mem_cons.mp member with rfl | member
    · exact ⟨_, step⟩
    · exact absurd (refusals other member) someAccepted
  · rw [texts, List.append_nil, noCalls, Keystream.counters_of_begun_eq _ rfl]
    exact .inr ⟨ends, rfl, exchange, List.mem_cons_self, finalises, accepted⟩

end Summary

theorem Course.summary {exchanges : List Exchange} {calls : List Block} {last : Stage}
    (course : message.Course stage exchanges calls last) (begins : stage = .processing text)
    (within : text.length ≤ message.config.lengthLimit.maxMessage) :
    message.Summary text exchanges calls last := by
  -- Refused calls change nothing, a piece continues the text, and after a conclusion nothing is
  -- accepted.
  induction course generalizing text with
  | nil =>
      rw [begins]
      exact .nil within
  | cons step course induction =>
      cases step with
      | refused rejected => exact (induction begins within).refused rejected
      | @update _ input output fits some more =>
          cases begins
          have piece : message.Step (.processing text) _ _ _ := .update fits some more
          refine Summary.piece input rfl piece.text_and_output.2 rfl (induction rfl ?_)
          rw [List.length_append]
          exact more
      | @updateInPlace _ buffer some more =>
          cases begins
          refine Summary.piece buffer rfl rfl rfl (induction rfl ?_)
          rw [List.length_append]
          exact more
      | finaliseEncryption direction =>
          cases begins
          exact .concluded within (.finaliseEncryption direction) rfl rfl rfl
            (by rintro ⟨_, impossible, _⟩; cases impossible) course
      | finaliseDecryption direction sized =>
          cases begins
          exact .concluded within (.finaliseDecryption direction sized) rfl rfl rfl
            (message.verdict_not_rejected _ _ _) course

end

end Message

/-! ## From the start -/

/-- Whatever the context did before, the calls after a start are a course of the message. -/
theorem Context.course_of_initialise {Key : Type} [BlockCipher Key] {context : Context Key}
    {direction : Direction} {iv aad : Bytes}
    (accepted : (context.initialise direction iv aad).value.answer = .ok ())
    {operations : List Operation}
    (unbroken : Unbroken
      ((context.initialise direction iv aad).value.context.exchanges operations)) :
    let message : Message Key := ⟨context.key, context.config, direction, iv, aad⟩
    let first := (context.initialise direction iv aad).value.context
    ∃ stage,
      message.Summary [] (first.exchanges operations) (first.run operations).calls stage ∧
      message.InStage (first.run operations).value.2 stage := by
  intro message first
  have inStage : message.InStage first (.processing []) := (initialise_of_ok accepted).2
  rcases Message.course_run inStage unbroken with ⟨stage, course, inLast⟩
  exact ⟨stage, course.summary rfl (Nat.zero_le _), inLast⟩

end GaloisCounter
