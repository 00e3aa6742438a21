import GaloisCounter.Proofs.Rejection

/-!
The calls that led to a context.

A context can be called at any time and copied in between. What it holds then follows from its past
calls alone: nothing was ever started, or the last message is open, or the last message is closed.
Every call keeps it so, and by induction every sequence of calls does.
-/

namespace GaloisCounter

namespace Context

variable {Key : Type} [BlockCipher Key]

/-- The calls with their replies lead from a context to another one. Copies on the way have the
calls of their originals. -/
inductive Leads (first : Context Key) : List Exchange → Context Key → Prop
  | nil : Leads first [] first
  | call {exchanges : List Exchange} {context : Context Key} (leads : Leads first exchanges context)
      (operation : Operation) :
      Leads first (exchanges ++ [⟨operation, (context.perform operation).value.1⟩])
        (context.perform operation).value.2
  | copy {exchanges : List Exchange} {context : Context Key}
      (leads : Leads first exchanges context) :
      Leads first exchanges context.copy

namespace Leads

variable {first middle last : Context Key} {before after : List Exchange}

theorem trans (leads : first.Leads before middle) (more : middle.Leads after last) :
    first.Leads (before ++ after) last := by
  induction more with
  | nil =>
      rw [List.append_nil]
      exact leads
  | call _ operation induction =>
      rw [← List.append_assoc]
      exact induction.call operation
  | copy _ induction => exact induction.copy

theorem split {exchange : Exchange} (leads : first.Leads (before ++ exchange :: after) last) :
    ∃ context, first.Leads before context ∧
      exchange.reply = (context.perform exchange.operation).value.1 := by
  generalize all : before ++ exchange :: after = exchanges at leads
  induction leads generalizing after with
  | nil => simp at all
  | @call earlier context leads operation induction =>
      rcases List.eq_nil_or_concat after with rfl | ⟨rest, other, rfl⟩
      · rcases List.append_inj' all rfl with ⟨rfl, same⟩
        cases same
        exact ⟨context, leads, rfl⟩
      · rw [List.concat_eq_append, ← List.cons_append, ← List.append_assoc] at all
        exact induction (List.append_inj' all rfl).1
  | copy _ induction => exact induction all

end Leads

theorem leads_run (context : Context Key) (operations : List Operation) :
    context.Leads (context.exchanges operations) (context.run operations).value.2 := by
  induction operations generalizing context with
  | nil => exact .nil
  | cons operation rest induction =>
      exact (Leads.nil.call operation).trans (induction _)

theorem run_concat (context : Context Key) (operations : List Operation) (operation : Operation) :
    let middle := (context.run operations).value.2
    context.exchanges (operations ++ [operation]) =
        context.exchanges operations ++ [⟨operation, (middle.perform operation).value.1⟩] ∧
      (context.run (operations ++ [operation])).value.2 = (middle.perform operation).value.2 := by
  induction operations generalizing context with
  | nil => exact ⟨rfl, rfl⟩
  | cons earlier rest induction =>
      rcases induction (context.perform earlier).value.2 with ⟨exchanges, last⟩
      refine ⟨?_, last⟩
      rw [List.cons_append, exchanges_cons, exchanges, exchanges_cons]
      rfl

/-- Copies add nothing: they are the contexts that runs come to. -/
theorem leads_iff_run {first last : Context Key} {exchanges : List Exchange} :
    first.Leads exchanges last ↔
      ∃ operations, exchanges = first.exchanges operations ∧
        last = (first.run operations).value.2 := by
  constructor
  · intro leads
    induction leads with
    | nil => exact ⟨[], rfl, rfl⟩
    | call _ operation induction =>
        rcases induction with ⟨operations, rfl, rfl⟩
        rcases first.run_concat operations operation with ⟨exchanges, last⟩
        exact ⟨operations ++ [operation], exchanges.symm, last.symm⟩
    | copy _ induction =>
        rw [copy_eq]
        exact induction
  · rintro ⟨operations, rfl, rfl⟩
    exact first.leads_run operations

end Context

/-! ## Messages among the calls -/

theorem not_rejected_of_isOk {answer : Except Error Value} (isOk : answer.isOk) :
    ¬Rejected answer := by
  rintro ⟨error, rfl, _⟩
  cases isOk

namespace Exchange

def Starts (exchange : Exchange) (direction : Direction) (iv aad : Bytes) : Prop :=
  exchange.operation = .initialise direction iv aad ∧ exchange.reply.answer.isOk

def Concludes (exchange : Exchange) : Prop :=
  exchange.operation.isFinalise ∧ ¬Rejected exchange.reply.answer

instance : DecidablePred Concludes := fun exchange =>
  inferInstanceAs (Decidable (exchange.operation.isFinalise ∧ ¬Rejected exchange.reply.answer))

theorem Starts.not_concludes {exchange : Exchange} {direction : Direction} {iv aad : Bytes}
    (starts : exchange.Starts direction iv aad) : ¬exchange.Concludes := by
  rintro ⟨finalise, _⟩
  rw [starts.1] at finalise
  cases finalise

end Exchange

section

variable {exchange : Exchange} {exchanges more : List Exchange}

theorem unbroken_append : Unbroken (exchanges ++ more) ↔ Unbroken exchanges ∧ Unbroken more := by
  simp [Unbroken, or_imp, forall_and]

theorem unbroken_of_rejected
    (rejected : ∀ exchange ∈ exchanges, Rejected exchange.reply.answer) : Unbroken exchanges := by
  intro exchange member _ isOk
  exact not_rejected_of_isOk isOk (rejected exchange member)

theorem Exchange.Starts.not_mem {direction : Direction} {iv aad : Bytes}
    (starts : exchange.Starts direction iv aad) (unbroken : Unbroken exchanges) :
    exchange ∉ exchanges := by
  intro member
  exact unbroken exchange member (by rw [starts.1]; rfl) starts.2

theorem cut_cases {before after otherBefore otherAfter : List Exchange} {other : Exchange}
    (equal : before ++ exchange :: after = otherBefore ++ other :: otherAfter) :
    (before = otherBefore ∧ exchange = other ∧ after = otherAfter) ∨ other ∈ after ∨
      exchange ∈ otherAfter := by
  rcases List.append_eq_append_iff.mp equal with ⟨middle, _, rest⟩ | ⟨middle, _, rest⟩
  all_goals
    cases middle with
    | nil =>
        cases rest
        left
        simp_all
    | cons first middle =>
        cases rest
        simp

end

/-- A message was started and has had the calls `since`, none of which started or completed one. -/
structure Open (exchanges : List Exchange) (direction : Direction) (iv aad : Bytes)
    (since : List Exchange) : Prop where
  started : ∃ before start, exchanges = before ++ start :: since ∧
    start.Starts direction iv aad
  unbroken : Unbroken since
  unfinished : ∀ exchange ∈ since, ¬exchange.Concludes

namespace Open

variable {exchanges since : List Exchange} {exchange : Exchange} {direction : Direction}
  {iv aad : Bytes}

theorem start (starts : exchange.Starts direction iv aad) :
    Open (exchanges ++ [exchange]) direction iv aad [] where
  started := ⟨exchanges, exchange, rfl, starts⟩
  unbroken := by simp [Unbroken]
  unfinished := by simp

theorem concat (isOpen : Open exchanges direction iv aad since)
    (unstarted : exchange.operation.isInitialise → ¬exchange.reply.answer.isOk)
    (continues : ¬exchange.Concludes) :
    Open (exchanges ++ [exchange]) direction iv aad (since ++ [exchange]) where
  started := by
    rcases isOpen.started with ⟨before, start, rfl, starts⟩
    exact ⟨before, start, by simp, starts⟩
  unbroken := unbroken_append.mpr ⟨isOpen.unbroken, by simpa [Unbroken] using unstarted⟩
  unfinished := by
    intro other member
    rcases List.mem_append.mp member with member | member
    · exact isOpen.unfinished other member
    · cases List.mem_singleton.mp member
      exact continues

theorem unique {otherDirection : Direction} {otherIv otherAad : Bytes}
    {otherSince : List Exchange} (isOpen : Open exchanges direction iv aad since)
    (other : Open exchanges otherDirection otherIv otherAad otherSince) :
    direction = otherDirection ∧ iv = otherIv ∧ aad = otherAad ∧ since = otherSince := by
  rcases isOpen.started with ⟨before, start, rfl, starts⟩
  rcases other.started with ⟨otherBefore, otherStart, equal, otherStarts⟩
  -- Two different starts cannot both be the last one.
  rcases cut_cases equal with ⟨_, rfl, rfl⟩ | member | member
  · have operation := starts.1.symm.trans otherStarts.1
    cases operation
    exact ⟨rfl, rfl, rfl, rfl⟩
  · exact absurd member (otherStarts.not_mem isOpen.unbroken)
  · exact absurd member (starts.not_mem other.unbroken)

theorem not_of_concludes {before after : List Exchange} {conclusion : Exchange}
    (concludes : conclusion.Concludes) (unbroken : Unbroken after) :
    ¬Open (before ++ conclusion :: after) direction iv aad since := by
  intro isOpen
  rcases isOpen.started with ⟨_, start, equal, starts⟩
  rcases cut_cases equal with ⟨_, rfl, _⟩ | member | member
  · exact starts.not_concludes concludes
  · exact starts.not_mem unbroken member
  · exact isOpen.unfinished conclusion member concludes

end Open

end GaloisCounter
