import GaloisCounter.Proofs.Course
import Mathlib.Data.List.Nodup

/-!
The blocks that a message has encrypted.

They are the counter blocks of its text and then J0, which is J0 counted on zero times. The limits
keep the counts below the point where the counter wraps around, so no block comes twice.
-/

namespace GaloisCounter

namespace Counter

/-! ## J0 of a standard initialisation vector -/

variable {iv : Bytes} (standard : iv.length = 12)

include standard

theorem toList_preCounterBlock (subkey : Block) (backend : Backend) :
    (preCounterBlock subkey backend iv).toList = iv ++ Bytes.toBigEndian 4 1 := by
  rw [preCounterBlock, if_pos standard]
  apply Block.toList_ofBytes
  rw [List.length_append, standard, Bytes.length_toBigEndian]

theorem fixed_preCounterBlock (subkey : Block) (backend : Backend) :
    fixed (preCounterBlock subkey backend iv) = iv := by
  rw [fixed, toList_preCounterBlock standard, List.take_left' standard]

theorem number_preCounterBlock (subkey : Block) (backend : Backend) :
    number (preCounterBlock subkey backend iv) = 1 := by
  rw [number, toList_preCounterBlock standard, List.drop_left' standard,
    Bytes.bigEndian_toBigEndian]
  decide

end Counter

namespace Keystream

/-! ## Counter blocks and J0 -/

theorem counters_zero (preCounter : Block) (length : Nat) :
    counters preCounter 0 length =
      (List.range ((length + 15) / 16)).map fun index =>
        Counter.increment^[index + 1] preCounter := by
  rw [counters, List.range_eq_range']
  rfl

/-- The counter blocks of a text of some length, and J0 after them. -/
def inputs (preCounter : Block) (length : Nat) : List Block :=
  counters preCounter 0 length ++ [preCounter]

def counts (length : Nat) : List Nat :=
  (List.range (begun length)).map (· + 1) ++ [0]

theorem inputs_eq (preCounter : Block) (length : Nat) :
    inputs preCounter length =
      (counts length).map fun count => Counter.increment^[count] preCounter := by
  rw [inputs, counters_zero, counts, List.map_append, List.map_map]
  rfl

theorem counts_le {length count : Nat} (member : count ∈ counts length) :
    count ≤ begun length := by
  rw [counts, List.mem_append, List.mem_map, List.mem_singleton] at member
  rcases member with ⟨index, inside, rfl⟩ | rfl
  · exact List.mem_range.mp inside
  · exact Nat.zero_le _

theorem nodup_counts (length : Nat) : (counts length).Nodup := by
  have positive : List.Disjoint ((List.range (begun length)).map (· + 1)) [0] := by
    simp
  apply List.Nodup.append _ (List.nodup_singleton 0) positive
  exact List.nodup_range.map fun left right equal => Nat.succ.inj equal

variable {preCounter : Block} {length : Nat}

theorem mem_inputs {block : Block} (member : block ∈ inputs preCounter length) :
    ∃ count ≤ begun length, block = Counter.increment^[count] preCounter := by
  rw [inputs_eq, List.mem_map] at member
  rcases member with ⟨count, inside, rfl⟩
  exact ⟨count, counts_le inside, rfl⟩

/-- Up to 2^36 - 32 bytes the counter does not wrap around. -/
theorem begun_lt (within : length ≤ 68719476704) : begun length + 1 < Bytes.capacity 4 := by
  rw [Counter.capacity_four]
  unfold begun
  omega

theorem nodup_inputs (within : length ≤ 68719476704) : (inputs preCounter length).Nodup := by
  have bound := begun_lt within
  rw [inputs_eq]
  apply List.Nodup.map_on _ (nodup_counts length)
  intro left leftInside right rightInside equal
  -- The counts differ by less than the counter takes to come round.
  have leftSmall := counts_le leftInside
  have rightSmall := counts_le rightInside
  exact Counter.iterate_injective preCounter (by omega) (by omega) equal

theorem fixed_of_mem_inputs {block : Block} (member : block ∈ inputs preCounter length) :
    Counter.fixed block = Counter.fixed preCounter := by
  rcases mem_inputs member with ⟨count, _, rfl⟩
  exact Counter.fixed_iterate preCounter count

theorem zero_not_mem_inputs (first : Counter.number preCounter = 1)
    (within : length ≤ 68719476704) : Block.zero ∉ inputs preCounter length := by
  have bound := begun_lt within
  intro member
  rcases mem_inputs member with ⟨count, small, equal⟩
  have numbers := congrArg Counter.number equal
  have zero : Counter.number Block.zero = 0 := by decide
  rw [zero, Counter.number_iterate, first, Nat.mod_eq_of_lt (by omega)] at numbers
  omega

theorem disjoint_inputs {otherPreCounter : Block} {otherLength : Nat}
    (different : Counter.fixed preCounter ≠ Counter.fixed otherPreCounter) :
    List.Disjoint (inputs preCounter length) (inputs otherPreCounter otherLength) := by
  intro block member otherMember
  exact different ((fixed_of_mem_inputs member).symm.trans (fixed_of_mem_inputs otherMember))

end Keystream

namespace Context

variable {Key : Type} [BlockCipher Key]

/-! ## Messages -/

section

variable {context : Context Key} {direction : Direction} {iv aad : Bytes}
  (accepted : (context.initialise direction iv aad).value.answer = .ok ())
  {operations : List Operation}
  (unbroken : Unbroken ((context.initialise direction iv aad).value.context.exchanges operations))

include accepted unbroken

theorem calls_of_unbroken :
    let preCounter :=
      preCounterBlock (BlockCipher.encrypt context.key Block.zero) context.config.backend iv
    let first := (context.initialise direction iv aad).value.context
    let exchanges := first.exchanges operations
    let length := (exchanges.flatMap Exchange.text).length
    length ≤ context.config.lengthLimit.maxMessage ∧
      (((∀ exchange ∈ exchanges, exchange.operation.isFinalise → Rejected exchange.reply.answer) ∧
        (first.run operations).calls = Keystream.counters preCounter 0 length) ∨
      ((∃ exchange ∈ exchanges, exchange.operation.isFinalise ∧ ¬Rejected exchange.reply.answer) ∧
        (first.run operations).calls = Keystream.inputs preCounter length)) := by
  intro preCounter first exchanges length
  rcases course_of_initialise accepted unbroken with ⟨stage, summary, _⟩
  refine ⟨summary.within, ?_⟩
  rcases summary.ending with ⟨_, calls, unfinished⟩ | ⟨_, calls, finished⟩
  · exact .inl ⟨unfinished, calls⟩
  · exact .inr ⟨finished, calls⟩

theorem calls_subset_inputs :
    let preCounter :=
      preCounterBlock (BlockCipher.encrypt context.key Block.zero) context.config.backend iv
    let first := (context.initialise direction iv aad).value.context
    (first.run operations).calls ⊆
      Keystream.inputs preCounter ((first.exchanges operations).flatMap Exchange.text).length := by
  intro preCounter first
  rcases (calls_of_unbroken accepted unbroken).2 with ⟨_, calls⟩ | ⟨_, calls⟩
  · rw [calls]
    exact List.subset_append_left _ _
  · rw [calls]
    exact List.Subset.refl _

end

/-- A message has the counter blocks of its text encrypted in order, and J0 at its completion.
Within the limit these are different blocks. Those of a standard initialisation vector are different
from the block that gives the subkey, and from those of any other one. -/
theorem cipher_inputs_distinct (context : Context Key) (direction : Direction) (iv aad : Bytes)
    (accepted : (context.initialise direction iv aad).value.answer = .ok ())
    (operations : List Operation)
    (unbroken : Unbroken
      ((context.initialise direction iv aad).value.context.exchanges operations)) :
    let preCounter :=
      preCounterBlock (BlockCipher.encrypt context.key Block.zero) context.config.backend iv
    let counters (length : Nat) : List Block :=
      (List.range ((length + 15) / 16)).map fun index =>
        Counter.increment^[index + 1] preCounter
    let first := (context.initialise direction iv aad).value.context
    let exchanges := first.exchanges operations
    let length := (exchanges.flatMap Exchange.text).length
    (context.initialise direction iv aad).calls = [Block.zero] ∧
    context.config.validateText 0 length = .ok () ∧
    ((∀ exchange ∈ exchanges, exchange.operation.isFinalise → Rejected exchange.reply.answer) →
      (first.run operations).calls = counters length) ∧
    ((∃ exchange ∈ exchanges, exchange.operation.isFinalise ∧ ¬Rejected exchange.reply.answer) →
      (first.run operations).calls = counters length ++ [preCounter]) ∧
    (∀ limited, context.config.validateText 0 limited = .ok () →
      (counters limited ++ [preCounter]).Nodup) ∧
    (iv.length = 12 → ∀ limited, context.config.validateText 0 limited = .ok () →
      Block.zero ∉ counters limited ++ [preCounter]) ∧
    (iv.length = 12 →
      ∀ (other : Context Key) (otherDirection : Direction) (otherIv otherAad : Bytes)
        (otherOperations : List Operation),
      (other.initialise otherDirection otherIv otherAad).value.answer = .ok () →
      let otherFirst := (other.initialise otherDirection otherIv otherAad).value.context
      Unbroken (otherFirst.exchanges otherOperations) →
      otherIv.length = 12 → otherIv ≠ iv →
      List.Disjoint (first.run operations).calls (otherFirst.run otherOperations).calls) := by
  intro preCounter counters first exchanges length
  have limit := context.config.lengthLimit.maxMessage_le
  have inputs (limited : Nat) :
      counters limited ++ [preCounter] = Keystream.inputs preCounter limited := by
    rw [Keystream.inputs, Keystream.counters_zero]
  have bounded (limited : Nat) (valid : context.config.validateText 0 limited = .ok ()) :
      limited ≤ 68719476704 := by
    have within := (context.config.validateText_zero_eq_ok_iff limited).mp valid
    omega
  have summary := calls_of_unbroken accepted unbroken
  refine ⟨(initialise_of_ok accepted).1, ?_, ?_, ?_, ?_, ?_, ?_⟩
  · exact (context.config.validateText_zero_eq_ok_iff length).mpr summary.1
  · intro unfinished
    rcases summary.2 with ⟨_, calls⟩ | ⟨⟨exchange, member, finalise, some⟩, _⟩
    · rw [calls, Keystream.counters_zero]
    · exact absurd (unfinished exchange member finalise) some
  · rintro ⟨exchange, member, finalise, some⟩
    rcases summary.2 with ⟨unfinished, _⟩ | ⟨_, calls⟩
    · exact absurd (unfinished exchange member finalise) some
    · rw [calls, inputs]
  · intro limited valid
    rw [inputs]
    exact Keystream.nodup_inputs (bounded limited valid)
  · intro standard limited valid
    rw [inputs]
    exact Keystream.zero_not_mem_inputs (Counter.number_preCounterBlock standard _ _)
      (bounded limited valid)
  · intro standard other otherDirection otherIv otherAad otherOperations otherAccepted
      otherFirst otherUnbroken otherStandard different
    let otherPreCounter :=
      preCounterBlock (BlockCipher.encrypt other.key Block.zero) other.config.backend otherIv
    -- All blocks of a message start with its initialisation vector.
    have apart : Counter.fixed preCounter ≠ Counter.fixed otherPreCounter := by
      rw [Counter.fixed_preCounterBlock standard, Counter.fixed_preCounterBlock otherStandard]
      exact different.symm
    intro block member otherMember
    exact Keystream.disjoint_inputs apart (calls_subset_inputs accepted unbroken member)
      (calls_subset_inputs otherAccepted otherUnbroken otherMember)

theorem cipher_inputs_distinct_three_bytes :
    let context := Context.new (id : Block → Block)
    let iv := List.replicate 12 7
    let first := (context.initialise .encrypt iv [1]).value.context
    let operations := [Operation.updateInPlace [2, 3], .update [4] [], .updateInPlace [4],
      .finaliseEncryption]
    let preCounter := Block.ofBytes (iv ++ [0, 0, 0, 1])
    (context.initialise .encrypt iv [1]).value.answer = .ok () ∧
      Unbroken (first.exchanges operations) ∧
      (first.run operations).calls = [Counter.increment preCounter, preCounter] ∧
      [Counter.increment preCounter, preCounter].Nodup ∧
      Block.zero ∉ [Counter.increment preCounter, preCounter] := by
  intro context iv first operations preCounter
  have accepted : (context.initialise .encrypt iv [1]).value.answer = .ok () := rfl
  have unbroken : Unbroken (first.exchanges operations) := by decide +kernel
  have completed : ∃ exchange ∈ first.exchanges operations, exchange.operation.isFinalise ∧
      ¬Rejected exchange.reply.answer := by decide +kernel
  have three : ((first.exchanges operations).flatMap Exchange.text).length = 3 := by
    decide +kernel
  have distinct := context.cipher_inputs_distinct .encrypt iv [1] accepted operations unbroken
  dsimp only at distinct
  rw [three] at distinct
  rcases distinct with ⟨_, within, _, calls, nodup, nonzero, _⟩
  exact ⟨accepted, unbroken, calls completed, nodup 3 within, nonzero rfl 3 within⟩

end Context

end GaloisCounter
