import GaloisCounter.Proofs.Course
import Mathlib.Data.List.Forall2

/-!
Updates in place and updates into another buffer.

Whatever the context, the two do the same to it and write the same bytes, as long as the other
buffer has room. In a run each of them can therefore stand for the other.
-/

namespace GaloisCounter

/-! ## One update -/

namespace Context

variable {Key : Type} [BlockCipher Key]

section

variable (context : Context Key) (data output : Bytes)

/-- The checks of the data turn down the call and the one in place on a copy. Neither encrypts a
block or reports an event. -/
structure BothRefuse (error : Error) : Prop where
  checked : context.checkUpdate data.length = .error error
  separate : context.update data output = pure ⟨⟨.error error, context⟩, output⟩
  inPlace : context.copy.updateInPlace data = pure ⟨⟨.error error, context⟩, data⟩

/-- The call and the one in place on a copy do the same work, and only the front of the other buffer
is written. -/
structure BothProcess : Prop where
  checked : context.checkUpdate data.length = .ok ()
  count : (context.update data output).value.answer = .ok data.length
  done : (context.copy.updateInPlace data).value.answer = .ok ()
  contexts : (context.update data output).value.context =
    (context.copy.updateInPlace data).value.context
  written : (context.update data output).value.buffer.take data.length =
    (context.copy.updateInPlace data).value.buffer
  untouched : (context.update data output).value.buffer.drop data.length =
    output.drop data.length
  length : (context.update data output).value.buffer.length = output.length
  calls : (context.update data output).calls = (context.copy.updateInPlace data).calls
  events : (context.update data output).events = (context.copy.updateInPlace data).events

end

section

variable {context : Context Key} {data output : Bytes} (fits : data.length ≤ output.length)

include fits

theorem bothRefuse {error : Error} (checked : context.checkUpdate data.length = .error error) :
    context.BothRefuse data output error where
  checked := checked
  separate := by rw [update, if_neg (Nat.not_lt.mpr fits), checked]
  inPlace := by rw [copy_eq, updateInPlace, checked]

theorem update_of_valid (checked : context.checkUpdate data.length = .ok ()) :
    context.update data output = (do
      let (next, written) ← context.process data
      return ⟨⟨.ok data.length, next⟩, written ++ output.drop data.length⟩) := by
  rw [update, if_neg (Nat.not_lt.mpr fits), checked]

omit fits in
theorem updateInPlace_of_valid (checked : context.checkUpdate data.length = .ok ()) :
    context.updateInPlace data = (do
      let (next, written) ← context.process data
      return ⟨⟨.ok (), next⟩, written⟩) := by
  rw [updateInPlace, checked]

theorem bothProcess (checked : context.checkUpdate data.length = .ok ()) :
    context.BothProcess data output := by
  have length := context.length_process data
  constructor
  case checked => exact checked
  all_goals
    simp only [copy_eq, update_of_valid fits checked, updateInPlace_of_valid checked,
      Traced.value_bind, Traced.value_pure, Traced.calls_bind, Traced.calls_pure,
      Traced.events_bind, Traced.events_pure]
  case written => exact List.take_left' length
  case untouched => exact List.drop_left' length
  case length =>
    rw [List.length_append, length, List.length_drop]
    omega

theorem bothRefuse_or_bothProcess :
    (∃ error, context.BothRefuse data output error) ∨ context.BothProcess data output := by
  cases checked : context.checkUpdate data.length with
  | error error => exact .inl ⟨error, bothRefuse fits checked⟩
  | ok _ => exact .inr (bothProcess fits checked)

end

theorem update_of_short (context : Context Key) {data output : Bytes}
    (short : output.length < data.length) :
    context.update data output =
      pure ⟨⟨.error (.outputTooSmall "output" data.length output.length), context⟩, output⟩ := by
  rw [update, if_pos short]

end Context

/-! ## Runs -/

/-- The calls are the same, or updates with the same data into a buffer with room and in place. -/
inductive Operation.Interchangeable : Operation → Operation → Prop
  | same (operation : Operation) : Interchangeable operation operation
  | inPlace {data output : Bytes} (fits : data.length ≤ output.length) :
      Interchangeable (.update data output) (.updateInPlace data)
  | separate {data output : Bytes} (fits : data.length ≤ output.length) :
      Interchangeable (.updateInPlace data) (.update data output)

/-- The calls take the same text and give the same bytes and the same answer, but for the count that
an update into another buffer gives. -/
structure Exchange.Agree (first second : Exchange) : Prop where
  text : first.text = second.text
  output : first.output = second.output
  answer : first.reply.answer.map (fun _ => ()) = second.reply.answer.map (fun _ => ())
  sealed : ∀ tag, first.reply.answer = .ok (.sealed tag) ↔ second.reply.answer = .ok (.sealed tag)

namespace Exchange.Agree

variable {first second : Exchange}

theorem refl (exchange : Exchange) : Agree exchange exchange :=
  ⟨rfl, rfl, rfl, fun _ => Iff.rfl⟩

theorem symm (agree : Agree first second) : Agree second first :=
  ⟨agree.text.symm, agree.output.symm, agree.answer.symm, fun tag => (agree.sealed tag).symm⟩

end Exchange.Agree

namespace Context

variable {Key : Type} [BlockCipher Key]

structure SameStep (context : Context Key) (first second : Operation) : Prop where
  agree : Exchange.Agree ⟨first, (context.perform first).value.1⟩
    ⟨second, (context.perform second).value.1⟩
  next : (context.perform first).value.2 = (context.perform second).value.2
  calls : (context.perform first).calls = (context.perform second).calls
  events : (context.perform first).events = (context.perform second).events

theorem SameStep.symm {context : Context Key} {first second : Operation}
    (same : context.SameStep first second) : context.SameStep second first :=
  ⟨same.agree.symm, same.next.symm, same.calls.symm, same.events.symm⟩

theorem sameStep_update (context : Context Key) {data output : Bytes}
    (fits : data.length ≤ output.length) :
    context.SameStep (.update data output) (.updateInPlace data) := by
  rcases context.bothRefuse_or_bothProcess fits with ⟨error, refuse⟩ | process
  · have first : context.perform (.update data output) =
        pure (⟨.error error, output⟩, context) := by
      rw [perform, refuse.separate]
      rfl
    have second : context.perform (.updateInPlace data) =
        pure (⟨.error error, data⟩, context) := by
      have inPlace := refuse.inPlace
      rw [copy_eq] at inPlace
      rw [perform, inPlace]
      rfl
    constructor
    case agree =>
      rw [first, second]
      exact ⟨rfl, rfl, rfl, fun _ => Iff.rfl⟩
    all_goals
      rw [first, second]
      rfl
  · have first : (context.perform (.update data output)).value.1 =
        ⟨.ok (.written data.length), (context.update data output).value.buffer⟩ := by
      change Reply.mk ((context.update data output).value.answer.map .written) _ = _
      rw [process.count]
      rfl
    have second : (context.perform (.updateInPlace data)).value.1 =
        ⟨.ok .done, (context.updateInPlace data).value.buffer⟩ := by
      have done := process.done
      rw [copy_eq] at done
      change Reply.mk ((context.updateInPlace data).value.answer.map fun _ => .done) _ = _
      rw [done]
      rfl
    refine ⟨?_, process.contexts, congrArg (· ++ []) process.calls,
      congrArg (· ++ []) process.events⟩
    rw [first, second]
    exact ⟨rfl, process.written, rfl, fun tag => by simp⟩

theorem sameStep (context : Context Key) {first second : Operation}
    (interchangeable : first.Interchangeable second) : context.SameStep first second := by
  cases interchangeable with
  | same operation => exact ⟨.refl _, rfl, rfl, rfl⟩
  | inPlace fits => exact context.sameStep_update fits
  | separate fits => exact (context.sameStep_update fits).symm

theorem run_eq_of_interchangeable (context : Context Key) {operations others : List Operation}
    (interchangeable : List.Forall₂ Operation.Interchangeable operations others) :
    List.Forall₂ Exchange.Agree (context.exchanges operations) (context.exchanges others) ∧
      (context.run operations).value.2 = (context.run others).value.2 ∧
      (context.run operations).calls = (context.run others).calls ∧
      (context.run operations).events = (context.run others).events := by
  induction interchangeable generalizing context with
  | nil => exact ⟨.nil, rfl, rfl, rfl⟩
  | cons first rest induction =>
      have step := context.sameStep first
      rcases induction (context.perform _).value.2 with ⟨later, last, calls, events⟩
      rw [exchanges_cons, exchanges_cons]
      simp only [run, Traced.value_bind, Traced.value_pure, Traced.calls_bind, Traced.calls_pure,
        Traced.events_bind, Traced.events_pure, ← step.next, ← step.calls, ← step.events]
      exact ⟨.cons step.agree later, last, by rw [calls], by rw [events]⟩

/-- An update into a buffer without room fails in every phase. With room it does what an update in
place does on a copy, and in a run each can stand for the other. -/
theorem update_agrees_in_place (context : Context Key) (data output : Bytes) :
    (output.length < data.length →
      let error := Error.outputTooSmall "output" data.length output.length
      error.code = ErrorCode.outputTooSmall ∧
        context.update data output = pure ⟨⟨.error error, context⟩, output⟩) ∧
    (data.length ≤ output.length →
      (∃ error, context.BothRefuse data output error) ∨ context.BothProcess data output) ∧
    ∀ operations others, List.Forall₂ Operation.Interchangeable operations others →
      List.Forall₂ Exchange.Agree (context.exchanges operations) (context.exchanges others) ∧
        (context.run operations).value.2 = (context.run others).value.2 ∧
        (context.run operations).calls = (context.run others).calls ∧
        (context.run operations).events = (context.run others).events :=
  ⟨fun short => ⟨rfl, context.update_of_short short⟩,
    fun fits => context.bothRefuse_or_bothProcess fits,
    fun _ _ interchangeable => context.run_eq_of_interchangeable interchangeable⟩

theorem update_agrees_in_place_two_bytes :
    let context := ((Context.new (id : Block → Block)).run
      [.initialise .encrypt [1] [2], .updateInPlace [3]]).value.2
    let data : Bytes := [4, 5]
    (context.update data [0]).value.answer = .error (.outputTooSmall "output" 2 1) ∧
    (context.update data [0]).value.context = context ∧
    context.BothProcess data [0, 0, 9] ∧
    (context.update data [0, 0, 9]).value.buffer.drop 2 = [9] ∧
    (context.run [.update data [0, 0, 9], .finaliseEncryption]).value.2 =
      (context.run [.updateInPlace data, .finaliseEncryption]).value.2 := by
  intro context data
  have short := (context.update_agrees_in_place data [0]).1 (by decide)
  have agrees := context.update_agrees_in_place data [0, 0, 9]
  have checked : context.checkUpdate data.length = .ok () := by decide +kernel
  have interchangeable : List.Forall₂ Operation.Interchangeable
      [.update data [0, 0, 9], .finaliseEncryption] [.updateInPlace data, .finaliseEncryption] :=
    .cons (.inPlace (by decide)) (.cons (.same _) .nil)
  have process : context.BothProcess data [0, 0, 9] := by
    rcases agrees.2.1 (by decide) with ⟨error, refuse⟩ | process
    · have refused := refuse.checked
      rw [checked] at refused
      cases refused
    · exact process
  exact ⟨congrArg (·.value.answer) short.2, congrArg (·.value.context) short.2, process,
    process.untouched, (agrees.2.2 _ _ interchangeable).2.1⟩

end Context

end GaloisCounter
