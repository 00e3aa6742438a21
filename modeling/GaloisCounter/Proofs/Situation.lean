import GaloisCounter.Proofs.History

/-!
What a context is doing, by the calls that led to it.

Nothing was ever started, or a message is open and has come to the text of the calls since its
start, or the last message is closed and only rejected calls came after. Each call keeps it so
whatever it is, and by induction every sequence of calls does.
-/

namespace GaloisCounter

/-! ## Calls in the middle of a message -/

namespace Context

variable {Key : Type} [BlockCipher Key] {context : Context Key} {operation : Operation}

theorem Accepts.next_of_isFinalise {reply : Reply} {next : Context Key} {calls : List Block}
    (accepts : context.Accepts operation reply next calls) (finalises : operation.isFinalise) :
    next = { context with
      session := none
      phase := if reply.answer.isOk then .finalised else .failed } := by
  cases accepts with
  | finaliseEncryption isOpen direction present => rfl
  | verified isOpen direction present sized verdict => rfl
  | failed isOpen direction present sized verdict => rfl
  | _ => cases finalises

theorem Accepts.validateStart_eq {direction : Direction} {iv aad : Bytes} {reply : Reply}
    {next : Context Key} {calls : List Block}
    (accepts : context.Accepts (.initialise direction iv aad) reply next calls) :
    context.config.validateStart iv aad = .ok () := by
  cases accepts with
  | initialise valid => exact valid

theorem refuses_of_not_isOpen (closed : context.phase.isOpen = false)
    (unstarted : operation.isInitialise →
      ¬(context.perform operation).value.1.answer.isOk) : context.Refuses operation := by
  rcases context.perform_cases operation with refuses | accepts
  · exact refuses
  · rcases accepts.isOpen with ⟨direction, iv, aad, rfl⟩ | isOpen
    · have answer := accepts.answer_of_isInitialise rfl
      exact absurd (by rw [answer]; rfl) (unstarted rfl)
    · rw [closed] at isOpen
      cases isOpen

theorem openAt_of_isOk {direction : Direction} {iv aad : Bytes}
    (accepted : (context.perform (.initialise direction iv aad)).value.1.answer.isOk) :
    context.config.validateStart iv aad = .ok () ∧
      Message.OpenAt ⟨context.key, context.config, direction, iv, aad⟩ []
        (context.perform (.initialise direction iv aad)).value.2 := by
  have valid := (accepts_of_not_rejected (not_rejected_of_isOk accepted)).validateStart_eq
  exact ⟨valid, (initialise_of_ok ((context.answer_initialise direction iv aad).trans valid)).2⟩

end Context

namespace Message

variable {Key : Type} [BlockCipher Key] {message : Message Key}

section

variable {text next : Bytes} {exchange : Exchange} {calls : List Block}

theorem Step.not_concludes
    (step : message.Step (.processing text) exchange calls (.processing next)) :
    ¬exchange.Concludes := by
  rintro ⟨finalise, accepted⟩
  cases step with
  | refused rejected => exact accepted rejected
  | update fits some within => cases finalise
  | updateInPlace some within => cases finalise

theorem Concludes.concludes (concludes : message.Concludes text exchange) : exchange.Concludes := by
  rcases concludes with ⟨calls, step⟩
  cases step with
  | finaliseEncryption direction =>
      refine ⟨rfl, ?_⟩
      rintro ⟨_, impossible, _⟩
      cases impossible
  | finaliseDecryption direction sized =>
      exact ⟨rfl, message.verdict_not_rejected _ _ _⟩

end

/-- The context has carried out some calls since the start of the message. -/
structure Processing (message : Message Key) (since : List Exchange) (context : Context Key) :
    Prop where
  valid : message.config.validateStart message.iv message.aad = .ok ()
  openAt : message.OpenAt (since.flatMap Exchange.text) context
  output : since.flatMap Exchange.output = message.mask (since.flatMap Exchange.text)

theorem Processing.concat {since : List Exchange} {context next : Context Key} {text : Bytes}
    {exchange : Exchange} {calls : List Block} (processing : message.Processing since context)
    (step : message.Step (.processing (since.flatMap Exchange.text)) exchange calls
      (.processing text))
    (openAt : message.OpenAt text next) : message.Processing (since ++ [exchange]) next := by
  rcases step.text_and_output with ⟨rfl, output⟩
  refine ⟨processing.valid, ?_, ?_⟩
  · rw [List.flatMap_append, List.flatMap_singleton]
    exact openAt
  · rw [List.flatMap_append, List.flatMap_append, List.flatMap_singleton, List.flatMap_singleton,
      processing.output, output, message.mask_append]

end Message

/-! ## Situations -/

namespace Context

variable {Key : Type} [BlockCipher Key]

/-- The context is what the calls so far make of it. -/
inductive Situation (key : Key) (config : Config) (exchanges : List Exchange) :
    Context Key → Prop
  | unstarted (rejected : ∀ exchange ∈ exchanges, Rejected exchange.reply.answer) :
      Situation key config exchanges (new key config)
  | processing {direction : Direction} {iv aad : Bytes} {since : List Exchange}
      {context : Context Key} (isOpen : Open exchanges direction iv aad since)
      (processing : Message.Processing ⟨key, config, direction, iv, aad⟩ since context) :
      Situation key config exchanges context
  /-- The last message was completed, and all calls since then were rejected. -/
  | closed {direction : Direction} {iv aad : Bytes} {since before after : List Exchange}
      {conclusion : Exchange} (all : exchanges = before ++ conclusion :: after)
      (wasOpen : Open before direction iv aad since)
      (concludes : Message.Concludes ⟨key, config, direction, iv, aad⟩
        (since.flatMap Exchange.text) conclusion)
      (rejected : ∀ exchange ∈ after, Rejected exchange.reply.answer) :
      Situation key config exchanges
        { key, config
          phase := if conclusion.reply.answer.isOk then .finalised else .failed
          direction := some direction
          session := none }

namespace Situation

variable {key : Key} {config : Config} {exchanges : List Exchange} {context : Context Key}
  {operation : Operation}

theorem settings (situation : Situation key config exchanges context) :
    context.key = key ∧ context.config = config := by
  cases situation with
  | unstarted rejected => exact ⟨rfl, rfl⟩
  | processing isOpen processing => exact ⟨processing.openAt.key, processing.openAt.config⟩
  | closed all wasOpen concludes rejected => exact ⟨rfl, rfl⟩

theorem closed_phase (conclusion : Exchange) :
    (if conclusion.reply.answer.isOk then Phase.finalised else .failed).isOpen = false := by
  split <;> rfl

theorem start (situation : Situation key config exchanges context)
    {direction : Direction} {iv aad : Bytes}
    (accepted : (context.perform (.initialise direction iv aad)).value.1.answer.isOk) :
    Situation key config
      (exchanges ++ [⟨.initialise direction iv aad,
        (context.perform (.initialise direction iv aad)).value.1⟩])
      (context.perform (.initialise direction iv aad)).value.2 := by
  rcases situation.settings with ⟨rfl, rfl⟩
  rcases openAt_of_isOk accepted with ⟨valid, openAt⟩
  exact .processing (.start ⟨rfl, accepted⟩) ⟨valid, openAt, rfl⟩

theorem processing_perform {direction : Direction} {iv aad : Bytes} {since : List Exchange}
    (isOpen : Open exchanges direction iv aad since)
    (processing : Message.Processing ⟨key, config, direction, iv, aad⟩ since context)
    (unstarted : operation.isInitialise →
      ¬(context.perform operation).value.1.answer.isOk) :
    Situation key config (exchanges ++ [⟨operation, (context.perform operation).value.1⟩])
      (context.perform operation).value.2 := by
  have inStage : Message.InStage ⟨key, config, direction, iv, aad⟩ context (.processing _) :=
    processing.openAt
  rcases Message.step_perform inStage unstarted with ⟨stage, step, inNext⟩
  cases stage with
  | processing text =>
      exact .processing (isOpen.concat unstarted step.not_concludes)
        (processing.concat step inNext)
  | ended =>
      -- A step says that the message has ended, and the call says in which phase.
      have concludes : Message.Concludes ⟨key, config, direction, iv, aad⟩ _ _ := ⟨_, step⟩
      rcases concludes.concludes with ⟨finalises, accepted⟩
      have next := (accepts_of_not_rejected accepted).next_of_isFinalise finalises
      rw [next, processing.openAt.key, processing.openAt.config, processing.openAt.direction]
      exact .closed rfl isOpen concludes (by simp)

theorem perform (situation : Situation key config exchanges context) (operation : Operation) :
    Situation key config (exchanges ++ [⟨operation, (context.perform operation).value.1⟩])
      (context.perform operation).value.2 := by
  by_cases starts : operation.isInitialise ∧ (context.perform operation).value.1.answer.isOk
  · cases operation with
    | initialise direction iv aad => exact situation.start starts.2
    | _ => cases starts.1
  · have unstarted : operation.isInitialise →
        ¬(context.perform operation).value.1.answer.isOk :=
      fun initialise isOk => starts ⟨initialise, isOk⟩
    cases situation with
    | unstarted rejected =>
        have refuses := refuses_of_not_isOpen (by rfl) unstarted
        rw [refuses.next_eq]
        refine .unstarted (List.forall_mem_append.mpr ⟨rejected, ?_⟩)
        exact List.forall_mem_singleton.mpr refuses.rejected
    | processing isOpen processing => exact processing_perform isOpen processing unstarted
    | closed all wasOpen concludes rejected =>
        have refuses := refuses_of_not_isOpen (closed_phase _) unstarted
        rw [refuses.next_eq, all, List.append_assoc, List.cons_append]
        refine .closed rfl wasOpen concludes (List.forall_mem_append.mpr ⟨rejected, ?_⟩)
        exact List.forall_mem_singleton.mpr refuses.rejected

theorem of_isOpen (situation : Situation key config exchanges context)
    (phase : context.phase.isOpen) :
    ∃ direction iv aad since, Open exchanges direction iv aad since ∧
      Message.Processing ⟨key, config, direction, iv, aad⟩ since context := by
  cases situation with
  | unstarted rejected => cases phase
  | processing isOpen processing => exact ⟨_, _, _, _, isOpen, processing⟩
  | closed all wasOpen concludes rejected =>
      rw [closed_phase] at phase
      cases phase

theorem of_open (situation : Situation key config exchanges context) {direction : Direction}
    {iv aad : Bytes} {since : List Exchange} (isOpen : Open exchanges direction iv aad since) :
    Message.Processing ⟨key, config, direction, iv, aad⟩ since context := by
  cases situation with
  | unstarted rejected =>
      rcases isOpen.started with ⟨before, start, rfl, starts⟩
      exact absurd (rejected start (by simp)) (not_rejected_of_isOk starts.2)
  | processing other processing =>
      rcases isOpen.unique other with ⟨rfl, rfl, rfl, rfl⟩
      exact processing
  | closed all wasOpen concludes rejected =>
      rw [all] at isOpen
      exact absurd isOpen
        (Open.not_of_concludes concludes.concludes (unbroken_of_rejected rejected))

end Situation

theorem Leads.situation {key : Key} {config : Config} {exchanges : List Exchange}
    {context : Context Key} (leads : (new key config).Leads exchanges context) :
    Situation key config exchanges context := by
  induction leads with
  | nil => exact .unstarted (by simp)
  | call _ operation induction => exact induction.perform operation
  | copy _ induction => exact induction

end Context

end GaloisCounter
