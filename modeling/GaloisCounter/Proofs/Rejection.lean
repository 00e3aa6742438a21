import GaloisCounter.Proofs.Course
import Mathlib.Data.List.Basic

/-!
A call that is rejected has no effect.

The only call that reports an error and changes the context is the completion of a decryption with a
wrong tag. Calls that are rejected can therefore be left out of a run.
-/

namespace GaloisCounter.Context

variable {Key : Type} [BlockCipher Key] {context : Context Key} {operation : Operation}

/-! ## One call -/

/-- A call that does its work and answers an error has judged a tag. -/
theorem Accepts.of_error {reply : Reply} {next : Context Key} {calls : List Block} {error : Error}
    (accepts : context.Accepts operation reply next calls) (failed : reply.answer = .error error) :
    context.phase.isOpen ∧ (∃ tag, operation = .finaliseDecryption tag) ∧
      error = .notAuthentic "finalize_decryption" "tag mismatch" ∧
      next = { context with session := none, phase := .failed } := by
  cases accepts with
  | failed isOpen direction present sized verdict =>
      cases failed
      exact ⟨isOpen, ⟨_, rfl⟩, rfl, rfl⟩
  | _ => cases failed

theorem Refuses.next_eq (refuses : context.Refuses operation) :
    (context.perform operation).value.2 = context := by
  obtain ⟨_, _, value, _⟩ := refuses
  rw [value]

theorem Refuses.rejected (refuses : context.Refuses operation) :
    Rejected (context.perform operation).value.1.answer := by
  obtain ⟨error, category, value, _⟩ := refuses
  rw [value]
  exact ⟨error, rfl, category⟩

theorem refuses_of_rejected (rejected : Rejected (context.perform operation).value.1.answer) :
    context.Refuses operation := by
  rcases context.perform_cases operation with refuses | accepts
  · exact refuses
  · exact absurd rejected accepts.not_rejected

theorem accepts_of_not_rejected
    (accepted : ¬Rejected (context.perform operation).value.1.answer) :
    context.Accepts operation (context.perform operation).value.1
      (context.perform operation).value.2 (context.perform operation).calls := by
  rcases context.perform_cases operation with refuses | accepts
  · exact absurd refuses.rejected accepted
  · exact accepts

theorem Refuses.perform_eq (refuses : context.Refuses operation) {error : Error}
    (failed : (context.perform operation).value.1.answer = .error error) :
    error.category = .invalidArgument ∧
      (context.perform operation).value = (⟨.error error, operation.buffer⟩, context) := by
  obtain ⟨cause, category, value, _⟩ := refuses
  rw [value] at failed ⊢
  cases failed
  exact ⟨category, rfl⟩

/-- An error about an argument or about the order of calls leaves the context and the caller's
buffer as they were. The other errors are about a tag, and end the message. -/
theorem rejection_is_atomic (context : Context Key) (operation : Operation) (error : Error)
    (failed : (context.perform operation).value.1.answer = .error error) :
    let reply := (context.perform operation).value.1
    let next := (context.perform operation).value.2
    (error.category = .invalidArgument → next = context ∧ reply.buffer = operation.buffer) ∧
    (next ≠ context ↔ error.category = .authenticationFailure) ∧
    (error.category = .authenticationFailure →
      (∃ tag, operation = .finaliseDecryption tag) ∧ next.phase = .failed ∧ next.session = none ∧
        next.aadLength = 0 ∧ next.processedLength = 0) := by
  intro reply next
  rcases context.perform_cases operation with refuses | accepts
  · obtain ⟨category, value⟩ := refuses.perform_eq failed
    have unchanged : next = context := congrArg Prod.snd value
    have buffer : reply.buffer = operation.buffer := congrArg (fun result => result.1.buffer) value
    have rejected : error.category ≠ .authenticationFailure := by
      rw [category]
      decide
    refine ⟨fun _ => ⟨unchanged, buffer⟩, ?_, fun failure => absurd failure rejected⟩
    exact ⟨fun changed => absurd unchanged changed, fun failure => absurd failure rejected⟩
  · obtain ⟨isOpen, judged, cause, ended⟩ := accepts.of_error failed
    have next_eq : next = { context with session := none, phase := .failed } := ended
    have category : error.category = .authenticationFailure := by
      rw [cause]
      rfl
    have changed : next ≠ context := by
      intro same
      rw [← same, next_eq] at isOpen
      cases isOpen
    refine ⟨?_, ⟨fun _ => category, fun _ => changed⟩, ?_⟩
    · rw [category]
      intro impossible
      cases impossible
    · intro _
      rw [next_eq]
      exact ⟨judged, rfl, rfl, rfl, rfl⟩

theorem rejection_is_atomic_mid_message :
    let context := ((Context.new (id : Block → Block)).run
      [.initialise .decrypt [1] [2], .updateInPlace [3, 4]]).value.2
    let small := Operation.update [5, 6] [7]
    let short := Operation.finaliseDecryption [8]
    let wrong := Operation.finaliseDecryption (List.replicate 16 9)
    ((context.perform small).value.1.answer = .error (.outputTooSmall "output" 2 1) ∧
      (context.perform small).value.2 = context ∧
      (context.perform small).value.1.buffer = [7]) ∧
    ((context.perform short).value.1.answer = .error (.tagLengthOutOfRange 1) ∧
      (context.perform short).value.2 = context) ∧
    ((context.perform wrong).value.1.answer =
        .error (.notAuthentic "finalize_decryption" "tag mismatch") ∧
      (context.perform wrong).value.2.phase = .failed ∧
      (context.perform wrong).value.2.session = none) := by
  intro context small short wrong
  have smallFails : (context.perform small).value.1.answer =
      .error (.outputTooSmall "output" 2 1) := by
    decide +kernel
  have shortFails : (context.perform short).value.1.answer =
      .error (.tagLengthOutOfRange 1) := by decide +kernel
  have wrongFails : (context.perform wrong).value.1.answer =
      .error (.notAuthentic "finalize_decryption" "tag mismatch") := by decide +kernel
  have smallAtomic := (context.rejection_is_atomic small _ smallFails).1 rfl
  have shortAtomic := (context.rejection_is_atomic short _ shortFails).1 rfl
  have wrongEnds := (context.rejection_is_atomic wrong _ wrongFails).2.2 rfl
  exact ⟨⟨smallFails, smallAtomic⟩, ⟨shortFails, shortAtomic.1⟩, wrongFails, wrongEnds.2.1,
    wrongEnds.2.2.1⟩

/-! ## Runs -/

def accepted (context : Context Key) (operations : List Operation) : List Operation :=
  ((context.exchanges operations).filter fun exchange =>
    ¬Rejected exchange.reply.answer).map Exchange.operation

theorem accepted_cons (context : Context Key) (operation : Operation) (rest : List Operation) :
    context.accepted (operation :: rest) =
      if Rejected (context.perform operation).value.1.answer then
        (context.perform operation).value.2.accepted rest
      else
        operation :: (context.perform operation).value.2.accepted rest := by
  rw [accepted, exchanges_cons, List.filter_cons]
  by_cases rejected : Rejected (context.perform operation).value.1.answer
  · simp [rejected, accepted]
  · simp [rejected, accepted]

theorem run_accepted (context : Context Key) (operations : List Operation) :
    (context.run (context.accepted operations)).value.2 = (context.run operations).value.2 := by
  induction operations generalizing context with
  | nil => rfl
  | cons operation rest induction =>
      have later := induction (context.perform operation).value.2
      rw [accepted_cons]
      by_cases rejected : Rejected (context.perform operation).value.1.answer
      · rw [if_pos rejected]
        refine Eq.trans ?_ later
        rw [(refuses_of_rejected rejected).next_eq]
      · rw [if_neg rejected]
        exact later

end GaloisCounter.Context
