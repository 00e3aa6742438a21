import GaloisCounter.Proofs.Bytewise

/-!
Processing in one direction and back.

A session keeps the ciphertext side of a text and nothing of the other side. So from the same
session, the two directions undo each other's work on the text and leave the same session, in all of
its bytes.
-/

namespace GaloisCounter

namespace Direction

def opposite : Direction → Direction
  | encrypt => decrypt
  | decrypt => encrypt

theorem ciphertext_opposite (direction : Direction) (input output : Text) :
    direction.opposite.ciphertext output input = direction.ciphertext input output := by
  cases direction with
  | encrypt => rfl
  | decrypt => rfl

end Direction

theorem Bytes.mask_mask (data keystream : Bytes) : mask (mask data keystream) keystream = data := by
  induction data generalizing keystream with
  | nil => simp [mask]
  | cons byte rest induction =>
      cases keystream with
      | nil => simp [mask]
      | cons value keystream =>
          exact congrArg₂ List.cons (Block.byte_xor_xor byte value) (induction keystream)

theorem Bytes.cut_append {first second : Bytes} {count : Nat}
    (length : first.length = min count (first.length + second.length)) :
    (first ++ second).take count = first ∧ (first ++ second).drop count = second := by
  by_cases within : count = first.length
  · exact ⟨List.take_left' within.symm, List.drop_left' within.symm⟩
  · have none : second = [] := List.eq_nil_of_length_eq_zero (by omega)
    subst none
    rw [List.append_nil]
    exact ⟨List.take_of_length_le (by omega), List.drop_eq_nil_of_le (by omega)⟩

theorem Block.cut_append {whole short : Bytes} (aligned : whole.length % 16 = 0)
    (incomplete : short.length < 16) :
    complete (whole ++ short) = complete whole ∧ Block.incomplete (whole ++ short) = short := by
  rw [complete_append, incomplete_append, incomplete_of_whole aligned, List.nil_append,
    complete_short incomplete, incomplete_short incomplete, List.append_nil]
  exact ⟨rfl, rfl⟩

namespace Session

variable {Key : Type} [BlockCipher Key]

/-- The second computation gives the data, and does what the first one does in all else: it leaves
the same session, has the same blocks encrypted and reports the same events. -/
structure Returns (data : Bytes) (there back : Traced (Session × Bytes)) : Prop where
  session : back.value.1 = there.value.1
  output : back.value.2 = data
  calls : back.calls = there.calls
  events : back.events = there.events

theorem Returns.followedBy {data more : Bytes} {there back : Traced (Session × Bytes)}
    {next other : Session → Traced (Session × Bytes)} (returns : Returns data there back)
    (nextReturns : Returns more (next there.value.1) (other there.value.1)) :
    Returns (data ++ more) (followedBy there next) (followedBy back other) := by
  rw [← returns.session] at nextReturns
  constructor
  all_goals
    simp only [Session.followedBy, Traced.value_bind, Traced.value_pure, Traced.calls_bind,
      Traced.calls_pure, Traced.events_bind, Traced.events_pure, ← returns.session]
  case session => exact nextReturns.session
  case output => rw [returns.output, nextReturns.output]
  case calls => rw [returns.calls, nextReturns.calls]
  case events => rw [returns.events, nextReturns.events]

section

variable (session : Session) (key : Key) (direction : Direction)

/-! ## Parts of a piece -/

theorem maskPartial_opposite (data : Bytes) :
    session.maskPartial direction.opposite (session.maskPartial direction data).2 =
      ((session.maskPartial direction data).1, data) := by
  simp only [maskPartial, Bytes.mask_mask, direction.ciphertext_opposite, Bytes.length_mask]

theorem resume_opposite (data : Bytes) {output : Bytes}
    (front : output.take session.room = (session.resume direction data).2) :
    session.resume direction.opposite output =
      ((session.resume direction data).1, data.take session.room) := by
  unfold resume at front ⊢
  split at front
  · next fresh => rw [if_pos fresh, if_pos fresh, room, if_pos fresh, List.take_zero]
  · next begun =>
    dsimp only at front
    rw [if_neg begun, if_neg begun, front, maskPartial_opposite]

theorem begin_nil : session.begin key direction [] = pure (session, []) := rfl

theorem begin_of_ne_nil {data : Bytes} (some : data ≠ []) :
    session.begin key direction data = (do
      let drawn ← session.draw key
      return drawn.maskPartial direction data) := by
  rw [begin, if_neg (by simpa using some)]
  rfl

theorem begin_opposite (data : Bytes) :
    Returns data (session.begin key direction data)
      (session.begin key direction.opposite (session.begin key direction data).value.2) := by
  have length := (session.passes_begin key direction data).output
  by_cases none : data = []
  · rw [none, begin_nil, Traced.value_pure, begin_nil]
    exact ⟨rfl, rfl, rfl, rfl⟩
  · have some : (session.begin key direction data).value.2 ≠ [] := by
      rw [← List.length_pos_iff, length]
      exact List.length_pos_iff.mpr none
    have masked := maskPartial_opposite (session.draw key).value direction data
    rw [session.begin_of_ne_nil key direction none] at some ⊢
    rw [session.begin_of_ne_nil key direction.opposite some]
    constructor
    all_goals
      simp only [Traced.value_bind, Traced.value_pure, Traced.calls_bind, Traced.calls_pure,
        Traced.events_bind, Traced.events_pure]
    case session => rw [masked]
    case output => rw [masked]

theorem processBlock_opposite (block : Block) :
    let output := block.xor (BlockCipher.encrypt key session.counter.block)
    Returns block.toList
      ((fun result => (result.1, result.2.toList)) <$> session.processBlock key direction block)
      ((fun result => (result.1, result.2.toList)) <$>
        session.processBlock key direction.opposite output) := by
  intro output
  rw [map_processBlock, map_processBlock, Block.xor_xor]
  dsimp only
  rw [direction.ciphertext_opposite]
  exact ⟨rfl, rfl, rfl, rfl⟩

theorem processBlocks_opposite (blocks : List Block) :
    Returns (blocks.flatMap Vector.toList) (session.processBlocks key direction blocks)
      (session.processBlocks key direction.opposite
        (Block.complete (session.processBlocks key direction blocks).value.2)) := by
  induction blocks generalizing session with
  | nil =>
      have none : Block.complete [] = [] := Block.complete_short (by decide)
      rw [processBlocks, Traced.value_pure, none, processBlocks]
      exact ⟨rfl, rfl, rfl, rfl⟩
  | cons block rest induction =>
      have output : (session.processBlocks key direction (block :: rest)).value.2 =
          (block.xor (BlockCipher.encrypt key session.counter.block)).toList ++
            ((session.processBlock key direction block).value.1.processBlocks key direction
              rest).value.2 :=
        rfl
      rw [output, Block.complete_toList_append, processBlocks_cons, processBlocks_cons,
        List.flatMap_cons]
      exact (session.processBlock_opposite key direction block).followedBy (induction _)

/-! ## Pieces -/

theorem cut_output (data : Bytes) :
    let rest := data.drop session.room
    let resumed := session.resume direction data
    let advanced := resumed.1.processBlocks key direction (Block.complete rest)
    let begun := advanced.value.1.begin key direction (Block.incomplete rest)
    let output := (session.processParts key direction data).value.2
    output.take session.room = resumed.2 ∧
      Block.complete (output.drop session.room) = Block.complete advanced.value.2 ∧
      Block.incomplete (output.drop session.room) = begun.value.2 := by
  intro rest resumed advanced begun output
  have first : resumed.2.length = min session.room data.length :=
    (session.passes_resume direction data).output.trans List.length_take
  have middle : advanced.value.2.length = 16 * (rest.length / 16) := by
    rw [← Block.length_complete]
    exact (resumed.1.passes_processBlocks key direction (Block.complete rest)).output
  have last : begun.value.2.length = rest.length % 16 := by
    rw [← Block.length_incomplete]
    exact (advanced.value.1.passes_begin key direction (Block.incomplete rest)).output
  have more : rest.length = data.length - session.room := List.length_drop
  have joined : output = resumed.2 ++ (advanced.value.2 ++ begun.value.2) :=
    List.append_assoc ..
  rw [joined]
  obtain ⟨front, back⟩ :
      (resumed.2 ++ (advanced.value.2 ++ begun.value.2)).take session.room = resumed.2 ∧
        (resumed.2 ++ (advanced.value.2 ++ begun.value.2)).drop session.room =
          advanced.value.2 ++ begun.value.2 := by
    apply Bytes.cut_append
    rw [List.length_append]
    omega
  rw [front, back]
  exact ⟨rfl, Block.cut_append (by omega) (by omega)⟩

theorem processParts_opposite (data : Bytes) :
    Returns data (session.processParts key direction data)
      (session.processParts key direction.opposite
        (session.processParts key direction data).value.2) := by
  obtain ⟨front, blocks, tail⟩ := session.cut_output key direction data
  generalize (session.processParts key direction data).value.2 = output at front blocks tail ⊢
  have resumed : Returns (data.take session.room) (pure (session.resume direction data))
      (pure (session.resume direction.opposite output)) := by
    rw [session.resume_opposite direction data front]
    exact ⟨rfl, rfl, rfl, rfl⟩
  have advanced := processBlocks_opposite (session.resume direction data).1 key direction
    (Block.complete (data.drop session.room))
  have begun := begin_opposite (processBlocks (session.resume direction data).1 key direction
    (Block.complete (data.drop session.room))).value.1 key direction
    (Block.incomplete (data.drop session.room))
  rw [← blocks] at advanced
  rw [← tail] at begun
  have all : Returns
      (data.take session.room ++ (Block.complete (data.drop session.room)).flatMap Vector.toList ++
        Block.incomplete (data.drop session.room))
      (session.processParts key direction data)
      (session.processParts key direction.opposite output) := by
    unfold processParts
    exact Returns.followedBy (Returns.followedBy resumed advanced) begun
  rw [Block.take_append_blocks] at all
  exact all

theorem process_opposite (data : Bytes) :
    Returns data (session.process key direction data)
      (session.process key direction.opposite (session.process key direction data).value.2) := by
  have parts := session.processParts_opposite key direction data
  have length := session.length_process key direction data
  have output : (session.process key direction data).value.2 =
      (session.processParts key direction data).value.2 := by
    rw [process_eq, Traced.value_map]
  rw [process_eq session direction.opposite, length, output, process_eq]
  exact {
    session := by rw [Traced.value_map, Traced.value_map, parts.session]
    output := parts.output
    calls := by rw [Traced.calls_map, Traced.calls_map, parts.calls]
    events := congrArg (· ++ []) parts.events }

end

/-- From one session, encrypting a piece and decrypting the result gives the piece back, and both
leave the same session in every field, stale bytes included. The same holds the other way round. -/
theorem directions_move_in_lockstep (session : Session) (key : Key) (data : Bytes) :
    (let sealed := session.process key .encrypt data
      let opened := session.process key .decrypt sealed.value.2
      opened.value = (sealed.value.1, data) ∧ opened.calls = sealed.calls) ∧
    (let opened := session.process key .decrypt data
      let sealed := session.process key .encrypt opened.value.2
      sealed.value = (opened.value.1, data) ∧ sealed.calls = opened.calls) := by
  have encrypted := session.process_opposite key .encrypt data
  have decrypted := session.process_opposite key .decrypt data
  exact ⟨⟨Prod.ext encrypted.session encrypted.output, encrypted.calls⟩,
    Prod.ext decrypted.session decrypted.output, decrypted.calls⟩

end Session

end GaloisCounter
