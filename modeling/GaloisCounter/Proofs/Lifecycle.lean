import GaloisCounter.Proofs.Situation

/-!
The life of a message among any calls in any order.

A start opens a message, one call at most completes it, and after that the context takes no text and
judges no tag until the next start. So there is no second tag for a message and no second attempt at
one, and no tag for a message that is being decrypted.
-/

namespace GaloisCounter

/-! ## Rejections with their codes -/

def RejectedWith (code : ErrorCode) (answer : Except Error Value) : Prop :=
  ∃ error, answer = .error error ∧ error.category = .invalidArgument ∧ error.code = code

theorem RejectedWith.rejected {code : ErrorCode} {answer : Except Error Value}
    (rejected : RejectedWith code answer) : Rejected answer := by
  rcases rejected with ⟨error, equal, category, _⟩
  exact ⟨error, equal, category⟩

namespace Operation

def lacksRoom : Operation → Bool
  | .update input output => output.length < input.length
  | _ => false

def finalises : Operation → Option Direction
  | .finaliseEncryption => some .encrypt
  | .finaliseDecryption _ => some .decrypt
  | _ => none

theorem isInitialise_of_isFinalise {operation : Operation} (finalise : operation.isFinalise) :
    operation.isInitialise = false := by
  cases operation with
  | initialise direction iv aad => cases finalise
  | _ => rfl

end Operation

namespace Context

section

variable {Key : Type} {context : Context Key}

theorem checkUpdate_of_not_isOpen (closed : context.phase.isOpen = false) (length : Nat) :
    context.checkUpdate length = .error (.invalidPhase "update" context.phase.name) := by
  rw [checkUpdate, closed]
  rfl

theorem checkFinalise_of_not_isOpen (closed : context.phase.isOpen = false) (call : String)
    (expected : Direction) :
    context.checkFinalise call expected = .error (.invalidPhase call context.phase.name) := by
  rw [checkFinalise, closed]
  rfl

end

variable {Key : Type} [BlockCipher Key] {context : Context Key} {operation : Operation}

theorem rejectedWith_of_not_isOpen (closed : context.phase.isOpen = false)
    (continues : operation.isInitialise = false) :
    RejectedWith
      (if operation.lacksRoom then ErrorCode.outputTooSmall else ErrorCode.invalidPhase)
      (context.perform operation).value.1.answer := by
  cases operation with
  | initialise direction iv aad => cases continues
  | update input output =>
      by_cases short : output.length < input.length
      · rw [Operation.lacksRoom, perform, update, if_pos short, if_pos (decide_eq_true short)]
        exact ⟨_, rfl, rfl, rfl⟩
      · rw [Operation.lacksRoom, perform, update, if_neg short,
          checkUpdate_of_not_isOpen closed, decide_eq_false short]
        exact ⟨_, rfl, rfl, rfl⟩
  | updateInPlace buffer =>
      rw [perform, updateInPlace, checkUpdate_of_not_isOpen closed]
      exact ⟨_, rfl, rfl, rfl⟩
  | finaliseEncryption =>
      rw [perform, finaliseEncryption, checkFinalise_of_not_isOpen closed]
      exact ⟨_, rfl, rfl, rfl⟩
  | finaliseDecryption tag =>
      rw [perform, finaliseDecryption, checkFinalise_of_not_isOpen closed]
      exact ⟨_, rfl, rfl, rfl⟩

theorem rejectedWith_of_direction {direction expected : Direction} (isOpen : context.phase.isOpen)
    (actual : context.direction = some direction)
    (finalises : operation.finalises = some expected) (different : expected ≠ direction) :
    RejectedWith ErrorCode.directionMismatch (context.perform operation).value.1.answer := by
  have mismatch (call : String) :
      ∃ phase, context.checkFinalise call expected = .error (.directionMismatch call phase) := by
    have other : context.direction ≠ some expected := by
      rw [actual]
      exact fun same => different (Option.some.inj same).symm
    rw [checkFinalise, isOpen, Bool.not_true, if_neg Bool.false_ne_true, if_pos other]
    exact ⟨_, rfl⟩
  cases operation with
  | finaliseEncryption =>
      cases finalises
      rcases mismatch "finalize_encryption" with ⟨phase, checked⟩
      rw [perform, finaliseEncryption, checked]
      exact ⟨_, rfl, rfl, rfl⟩
  | finaliseDecryption tag =>
      cases finalises
      rcases mismatch "finalize_decryption" with ⟨phase, checked⟩
      rw [perform, finaliseDecryption, checked]
      exact ⟨_, rfl, rfl, rfl⟩
  | _ => cases finalises

namespace Accepts

variable {reply : Reply} {next : Context Key} {calls : List Block}

theorem direction_of_finalises (accepts : context.Accepts operation reply next calls)
    {direction : Direction} (finalises : operation.finalises = some direction) :
    context.phase.isOpen ∧ context.direction = some direction := by
  cases accepts with
  | finaliseEncryption isOpen actual present =>
      cases finalises
      exact ⟨isOpen, actual⟩
  | verified isOpen actual present sized verdict
  | failed isOpen actual present sized verdict =>
      cases finalises
      exact ⟨isOpen, actual⟩
  | _ => cases finalises

theorem finalises_of_sealed (accepts : context.Accepts operation reply next calls) {tag : Tag}
    (given : reply.answer = .ok (.sealed tag)) : operation.finalises = some .encrypt := by
  cases accepts with
  | finaliseEncryption isOpen actual present => rfl
  | _ => cases given

end Accepts

end Context

/-! ## Messages among the calls -/

theorem Open.not_unbroken {exchanges since more : List Exchange} {direction : Direction}
    {iv aad : Bytes} (isOpen : Open exchanges direction iv aad since) :
    ¬Unbroken (exchanges ++ more) := by
  rcases isOpen.started with ⟨before, start, rfl, starts⟩
  intro unbroken
  exact starts.not_mem unbroken (by simp)

/-- The last call that was not rejected judged a tag of the right length and found it wrong. -/
def EndsInFailure [BlockCipher Key] (key : Key) (config : Config) (exchanges : List Exchange) :
    Prop :=
  ∃ before call after received iv aad since,
    exchanges = before ++ call :: after ∧
    call.operation = .finaliseDecryption received ∧
    ¬Rejected call.reply.answer ∧
    (∀ later ∈ after, Rejected later.reply.answer) ∧
    Open before .decrypt iv aad since ∧
    received.length = config.tagLength.bytes ∧
    received ≠ (Message.tag ⟨key, config, .decrypt, iv, aad⟩ (since.flatMap Exchange.text)).bytes

theorem countP_concludes_le_one {segment : List Exchange}
    (last : ∀ before conclusion after, segment = before ++ conclusion :: after →
      conclusion.Concludes → ∀ call ∈ after, ¬call.Concludes) :
    segment.countP Exchange.Concludes ≤ 1 := by
  induction segment with
  | nil => exact Nat.zero_le 1
  | cons exchange rest induction =>
      by_cases concludes : exchange.Concludes
      · have none : rest.countP Exchange.Concludes = 0 := by
          rw [List.countP_eq_zero]
          intro call member
          rw [decide_eq_true_iff]
          exact last [] exchange rest rfl concludes call member
        rw [List.countP_cons, none]
        split <;> omega
      · rw [List.countP_cons, if_neg (by simpa using concludes), Nat.add_zero]
        apply induction
        rintro before conclusion after rfl
        exact last (exchange :: before) conclusion after rfl

namespace Context

variable {Key : Type} [BlockCipher Key] {key : Key} {config : Config}
  {exchanges : List Exchange} {context : Context Key}

namespace Situation

theorem open_of_finalises (situation : Situation key config exchanges context)
    {operation : Operation} {direction : Direction}
    (finalises : operation.finalises = some direction)
    (accepted : ¬Rejected (context.perform operation).value.1.answer) :
    ∃ iv aad since, Open exchanges direction iv aad since := by
  rcases (accepts_of_not_rejected accepted).direction_of_finalises finalises with ⟨phase, actual⟩
  rcases situation.of_isOpen phase with ⟨other, iv, aad, since, isOpen, processing⟩
  have same : other = direction :=
    Option.some.inj (processing.openAt.direction.symm.trans actual)
  exact ⟨iv, aad, since, same ▸ isOpen⟩

theorem init_iff (situation : Situation key config exchanges context) :
    context.phase = .init ↔ Unbroken exchanges := by
  cases situation with
  | unstarted rejected => exact ⟨fun _ => unbroken_of_rejected rejected, fun _ => rfl⟩
  | processing isOpen processing =>
      have broken : ¬Unbroken (exchanges ++ []) := isOpen.not_unbroken
      rw [List.append_nil] at broken
      rw [processing.openAt.phase]
      split <;> simp [broken]
  | closed all wasOpen concludes rejected =>
      have broken := all ▸ wasOpen.not_unbroken
      dsimp only
      split <;> simp [broken]

theorem not_isOpen_of_concludes {before after : List Exchange} {conclusion : Exchange}
    (situation : Situation key config (before ++ conclusion :: after) context)
    (concludes : conclusion.Concludes) (unbroken : Unbroken after) :
    context.phase.isOpen = false := by
  rw [Bool.eq_false_iff]
  intro phase
  rcases situation.of_isOpen phase with ⟨_, _, _, _, isOpen, _⟩
  exact Open.not_of_concludes concludes unbroken isOpen

theorem endsInFailure_of_failed (situation : Situation key config exchanges context)
    (failed : context.phase = .failed) : EndsInFailure key config exchanges := by
  cases situation with
  | unstarted rejected => cases failed
  | processing isOpen processing =>
      have phase := isOpen_of_openAt processing.openAt
      rw [failed] at phase
      cases phase
  | @closed direction iv aad since before after conclusion all wasOpen concludes rejected =>
      have accepted := concludes.concludes.2
      rcases concludes with ⟨_, step⟩
      cases step with
      | finaliseEncryption forward => cases failed
      | @finaliseDecryption _ received backward sized =>
          cases backward
          refine ⟨before, _, after, received, iv, aad, since, all, rfl, accepted, rejected, wasOpen,
            sized, ?_⟩
          intro same
          have verified := (Message.isOk_verdict_iff _ Answer.done).mpr same
          cases (if_pos verified).symm.trans failed

theorem failed_of_endsInFailure (situation : Situation key config exchanges context)
    (ends : EndsInFailure key config exchanges) : context.phase = .failed := by
  rcases ends with ⟨before, call, after, received, iv, aad, since, all, operation, accepted,
    rejected, isOpen, sized, different⟩
  cases situation with
  | unstarted allRejected => exact absurd (allRejected call (by simp [all])) accepted
  | processing stillOpen processing =>
      have concludes : call.Concludes := ⟨by rw [operation]; rfl, accepted⟩
      rw [all] at stillOpen
      exact absurd stillOpen (Open.not_of_concludes concludes (unbroken_of_rejected rejected))
  | @closed _ _ _ _ otherBefore otherAfter conclusion otherAll wasOpen concludes otherRejected =>
      -- Both are the last call that was not rejected.
      rcases cut_cases (all.symm.trans otherAll) with ⟨rfl, rfl, rfl⟩ | member | member
      · rcases isOpen.unique wasOpen with ⟨rfl, rfl, rfl, rfl⟩
        rcases concludes with ⟨_, step⟩
        cases step with
        | finaliseEncryption forward => cases forward
        | finaliseDecryption backward sized =>
            cases operation
            exact if_neg fun isOk => different ((Message.isOk_verdict_iff _ Answer.done).mp isOk)
      · exact absurd (rejected conclusion member) concludes.concludes.2
      · exact absurd (otherRejected call member) accepted

end Situation

/-! ## Runs -/

namespace Leads

theorem rejectedWith_of_concludes (leads : (new key config).Leads exchanges context)
    {before between after : List Exchange} {conclusion call : Exchange}
    (all : exchanges = before ++ conclusion :: between ++ call :: after)
    (concludes : conclusion.Concludes) (unbroken : Unbroken between)
    (continues : call.operation.isInitialise = false) :
    RejectedWith
      (if call.operation.lacksRoom then ErrorCode.outputTooSmall else ErrorCode.invalidPhase)
      call.reply.answer := by
  rcases (all ▸ leads).split with ⟨middle, led, reply⟩
  rw [reply]
  exact rejectedWith_of_not_isOpen (led.situation.not_isOpen_of_concludes concludes unbroken)
    continues

theorem countP_concludes (leads : (new key config).Leads exchanges context)
    {segment : List Exchange} (inside : segment <:+: exchanges) (unbroken : Unbroken segment) :
    segment.countP Exchange.Concludes ≤ 1 := by
  rcases inside with ⟨front, back, all⟩
  apply countP_concludes_le_one
  rintro before conclusion after rfl concludes call member ⟨finalise, accepted⟩
  rcases List.append_of_mem member with ⟨between, rest, rfl⟩
  have quiet : Unbroken between := fun exchange member => unbroken exchange (by simp [member])
  have cut : exchanges =
      front ++ before ++ conclusion :: between ++ call :: (rest ++ back) := by
    simp [← all]
  have rejected := leads.rejectedWith_of_concludes cut concludes quiet
    (Operation.isInitialise_of_isFinalise finalise)
  exact accepted rejected.rejected

theorem open_of_finalises (leads : (new key config).Leads exchanges context)
    {before after : List Exchange} {call : Exchange} (all : exchanges = before ++ call :: after)
    {direction : Direction} (finalises : call.operation.finalises = some direction)
    (accepted : ¬Rejected call.reply.answer) :
    ∃ iv aad since, Open before direction iv aad since := by
  rcases (all ▸ leads).split with ⟨middle, led, reply⟩
  rw [reply] at accepted
  exact led.situation.open_of_finalises finalises accepted

theorem finalises_of_sealed (leads : (new key config).Leads exchanges context)
    {before after : List Exchange} {call : Exchange} (all : exchanges = before ++ call :: after)
    {tag : Tag} (given : call.reply.answer = .ok (.sealed tag)) :
    call.operation.finalises = some .encrypt ∧ ¬Rejected call.reply.answer := by
  have accepted : ¬Rejected call.reply.answer := not_rejected_of_isOk (by rw [given]; rfl)
  rcases (all ▸ leads).split with ⟨middle, led, reply⟩
  refine ⟨?_, accepted⟩
  rw [reply] at given accepted
  exact (accepts_of_not_rejected accepted).finalises_of_sealed given

theorem rejectedWith_of_open (leads : (new key config).Leads exchanges context)
    {before after : List Exchange} {call : Exchange} (all : exchanges = before ++ call :: after)
    {direction expected : Direction} {iv aad : Bytes} {since : List Exchange}
    (isOpen : Open before direction iv aad since)
    (finalises : call.operation.finalises = some expected) (different : expected ≠ direction) :
    RejectedWith ErrorCode.directionMismatch call.reply.answer := by
  rcases (all ▸ leads).split with ⟨middle, led, reply⟩
  have processing := led.situation.of_open isOpen
  rw [reply]
  exact rejectedWith_of_direction (isOpen_of_openAt processing.openAt) processing.openAt.direction
    finalises different

end Leads

/-- A start is followed by one conclusion at most, and text and tags are rejected from there to the
next start. A message is completed in the direction that it was started in. A context has failed
exactly if the last thing that it did was to find a tag wrong, and is new exactly until the first
start. -/
theorem lifecycle (key : Key) (config : Config) (exchanges : List Exchange)
    (context : Context Key) (leads : (new key config).Leads exchanges context) :
    (∀ segment, segment <:+: exchanges → Unbroken segment →
      segment.countP Exchange.Concludes ≤ 1) ∧
    (∀ before conclusion between call after,
      exchanges = before ++ conclusion :: between ++ call :: after →
      conclusion.Concludes → Unbroken between → call.operation.isInitialise = false →
      RejectedWith
        (if call.operation.lacksRoom then ErrorCode.outputTooSmall else ErrorCode.invalidPhase)
        call.reply.answer) ∧
    (∀ before call after tag, exchanges = before ++ call :: after →
      call.reply.answer = .ok (.sealed tag) →
      ∃ iv aad since, Open before .encrypt iv aad since) ∧
    (∀ before call after received, exchanges = before ++ call :: after →
      call.operation = .finaliseDecryption received → ¬Rejected call.reply.answer →
      ∃ iv aad since, Open before .decrypt iv aad since) ∧
    (∀ before call after direction iv aad since expected, exchanges = before ++ call :: after →
      Open before direction iv aad since →
      call.operation.finalises = some expected → expected ≠ direction →
      RejectedWith ErrorCode.directionMismatch call.reply.answer) ∧
    (context.phase = .failed ↔ EndsInFailure key config exchanges) ∧
    (context.phase = .init ↔ Unbroken exchanges) := by
  have situation := leads.situation
  refine ⟨?_, ?_, ?_, ?_, ?_, ?_, situation.init_iff⟩
  · intro segment inside unbroken
    exact leads.countP_concludes inside unbroken
  · intro before conclusion between call after all concludes unbroken continues
    exact leads.rejectedWith_of_concludes all concludes unbroken continues
  · intro before call after tag all given
    rcases leads.finalises_of_sealed all given with ⟨finalises, accepted⟩
    exact leads.open_of_finalises all finalises accepted
  · intro before call after received all operation accepted
    exact leads.open_of_finalises all (by rw [operation]; rfl) accepted
  · intro before call after direction iv aad since expected all isOpen finalises different
    exact leads.rejectedWith_of_open all isOpen finalises different
  · exact ⟨situation.endsInFailure_of_failed, situation.failed_of_endsInFailure⟩

theorem lifecycle_wrong_tag :
    let first := new (id : Block → Block)
    let beginning := [Operation.initialise .decrypt [1] [2], .updateInPlace [3],
      .finaliseEncryption]
    let wrong := Operation.finaliseDecryption (List.replicate 16 9)
    let judged := ((first.run beginning).value.2.perform wrong).value
    let again := (judged.2.perform wrong).value
    let exchanges := first.exchanges beginning ++ [⟨wrong, judged.1⟩] ++ [⟨wrong, again.1⟩]
    (∃ iv aad since, Open (first.exchanges beginning) .decrypt iv aad since) ∧
      RejectedWith ErrorCode.invalidPhase again.1.answer ∧
      exchanges.tail.countP Exchange.Concludes ≤ 1 ∧
      EndsInFailure (id : Block → Block) {} exchanges := by
  intro first beginning wrong judged again exchanges
  have judging : first.Leads (first.exchanges beginning ++ [⟨wrong, judged.1⟩]) judged.2 :=
    (first.leads_run beginning).call wrong
  have leads : first.Leads exchanges again.2 := judging.call wrong
  have concludes : Exchange.Concludes ⟨wrong, judged.1⟩ := by decide +kernel
  have unbroken : Unbroken exchanges.tail := by decide +kernel
  have failed : again.2.phase = .failed := by decide +kernel
  have cut : exchanges = first.exchanges beginning ++ ⟨wrong, judged.1⟩ :: [⟨wrong, again.1⟩] :=
    List.append_assoc ..
  rcases lifecycle id {} exchanges again.2 leads with ⟨once, closed, _, opens, _, failure, _⟩
  refine ⟨?_, ?_, ?_, failure.mp failed⟩
  · exact opens _ _ _ _ cut rfl concludes.2
  · exact closed (first.exchanges beginning) ⟨wrong, judged.1⟩ [] ⟨wrong, again.1⟩ [] rfl concludes
      (by simp [Unbroken]) rfl
  · exact once _ (List.tail_suffix exchanges).isInfix unbroken

end Context

end GaloisCounter
