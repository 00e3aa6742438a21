import GaloisCounter.Session
import GaloisCounter.Proofs.Keystream

/-!
What a session holds in the middle of a message, and what a piece of text does to it.

All is said relative to the session that the message started with and to the ciphertext since then.
In either direction a piece is masked from its position on, and the ciphertext side of it is what
the session holds afterwards.
-/

namespace GaloisCounter

namespace Direction

theorem length_ciphertext (direction : Direction) {input output : Bytes}
    (same : output.length = input.length) :
    (direction.ciphertext input output).length = input.length := by
  cases direction with
  | encrypt => exact same
  | decrypt => rfl

theorem ciphertext_append (direction : Direction) (input output moreInput moreOutput : Bytes) :
    direction.ciphertext (input ++ moreInput) (output ++ moreOutput) =
      direction.ciphertext input output ++ direction.ciphertext moreInput moreOutput := by
  cases direction with
  | encrypt => rfl
  | decrypt => rfl

theorem toList_ciphertext (direction : Direction) (input output : Block) :
    (direction.ciphertext input output).toList =
      direction.ciphertext input.toList output.toList := by
  cases direction with
  | encrypt => rfl
  | decrypt => rfl

end Direction

namespace GHash

theorem absorbAll_append (hash : GHash) (first second : List Block) :
    hash.absorbAll (first ++ second) = (hash.absorbAll first).absorbAll second :=
  List.foldl_append

end GHash

namespace Session

variable {Key : Type} [BlockCipher Key]

/-- The session has come to a ciphertext since its start. Bytes of the buffers that belong to no
incomplete block are left open. -/
structure Reached (key : Key) (initial : Session) (ciphertext : Bytes) (session : Session) :
    Prop where
  preCounter : session.preCounter = initial.preCounter
  hash : session.hash = initial.hash.absorbAll (Block.complete ciphertext)
  counter : session.counter.block =
    Counter.increment^[Keystream.begun ciphertext.length + 1] initial.preCounter
  keystream : session.leftoverLength ≠ 0 →
    session.keystream = BlockCipher.encrypt key
      (Counter.increment^[ciphertext.length / 16 + 1] initial.preCounter)
  leftover : session.leftover.toList.take session.leftoverLength = Block.incomplete ciphertext
  leftoverLength : session.leftoverLength = ciphertext.length % 16
  aadLength : session.aadLength = initial.aadLength

/-- A computation processes data from a session on that has come to a ciphertext. The count of the
text is left as it was. -/
structure Advances (key : Key) (initial : Session) (direction : Direction) (session : Session)
    (ciphertext data : Bytes) (result : Traced (Session × Bytes)) : Prop where
  output : result.value.2 =
    Keystream.mask key initial.preCounter ciphertext.length data
  reached : Reached key initial
    (ciphertext ++ direction.ciphertext data result.value.2) result.value.1
  calls : result.calls =
    Keystream.counters initial.preCounter ciphertext.length (ciphertext.length + data.length)
  textLength : result.value.1.textLength = session.textLength

def followedBy (first : Traced (Session × Bytes)) (second : Session → Traced (Session × Bytes)) :
    Traced (Session × Bytes) := do
  let (next, output) ← first
  let (last, outputs) ← second next
  return (last, output ++ outputs)

section

variable {key : Key} {initial session : Session} {direction : Direction}
  {ciphertext data : Bytes}

namespace Advances

theorem length_output {result : Traced (Session × Bytes)}
    (advances : Advances key initial direction session ciphertext data result) :
    result.value.2.length = data.length := by
  rw [advances.output, Keystream.length_mask]

theorem length_ciphertext {result : Traced (Session × Bytes)}
    (advances : Advances key initial direction session ciphertext data result) :
    (ciphertext ++ direction.ciphertext data result.value.2).length =
      ciphertext.length + data.length := by
  rw [List.length_append, direction.length_ciphertext advances.length_output]

theorem nothing (reached : Reached key initial ciphertext session) :
    Advances key initial direction session ciphertext [] (pure (session, [])) where
  output := rfl
  reached := by
    have none : direction.ciphertext ([] : Bytes) [] = [] := by cases direction <;> rfl
    rw [Traced.value_pure, none, List.append_nil]
    exact reached
  calls := (Keystream.counters_of_begun_eq initial.preCounter rfl).symm
  textLength := rfl

theorem andThen {more : Bytes} {first : Traced (Session × Bytes)}
    {second : Session → Traced (Session × Bytes)}
    (firstAdvances : Advances key initial direction session ciphertext data first)
    (secondAdvances : Advances key initial direction first.value.1
      (ciphertext ++ direction.ciphertext data first.value.2) more (second first.value.1)) :
    Advances key initial direction session ciphertext (data ++ more)
      (followedBy first second) where
  output := by
    calc first.value.2 ++ (second first.value.1).value.2
        = Keystream.mask key initial.preCounter ciphertext.length data ++
            Keystream.mask key initial.preCounter (ciphertext.length + data.length) more := by
          rw [secondAdvances.output, firstAdvances.length_ciphertext, firstAdvances.output]
      _ = Keystream.mask key initial.preCounter ciphertext.length (data ++ more) := by
          rw [Keystream.mask_append]
  reached := by
    have joined : ciphertext ++ direction.ciphertext (data ++ more)
        (first.value.2 ++ (second first.value.1).value.2) =
        ciphertext ++ direction.ciphertext data first.value.2 ++
          direction.ciphertext more (second first.value.1).value.2 := by
      rw [direction.ciphertext_append, List.append_assoc]
    exact joined ▸ secondAdvances.reached
  calls := by
    have secondCalls := secondAdvances.calls
    rw [firstAdvances.length_ciphertext] at secondCalls
    calc first.calls ++ ((second first.value.1).calls ++ [])
        = Keystream.counters initial.preCounter ciphertext.length
              (ciphertext.length + data.length) ++
            Keystream.counters initial.preCounter (ciphertext.length + data.length)
              (ciphertext.length + data.length + more.length) := by
          rw [List.append_nil, firstAdvances.calls, secondCalls]
      _ = Keystream.counters initial.preCounter ciphertext.length
            (ciphertext.length + (data ++ more).length) := by
          rw [Keystream.counters_append _ (by omega) (by omega), List.length_append,
            Nat.add_assoc]
  textLength := secondAdvances.textLength.trans firstAdvances.textLength

end Advances

/-! ## Incomplete blocks -/

theorem fst_maskPartial (session : Session) (direction : Direction) (data : Bytes) :
    (session.maskPartial direction data).1 =
      { session with
        leftover := session.leftover.overwrite session.leftoverLength
          (direction.ciphertext data (session.maskPartial direction data).2)
        leftoverLength := session.leftoverLength + data.length } :=
  rfl

/-- The session has drawn the keystream for the block in which the ciphertext ends, and has added
some bytes to what the ciphertext leaves over. -/
structure Filling (key : Key) (initial : Session) (ciphertext bytes : Bytes) (session : Session) :
    Prop where
  preCounter : session.preCounter = initial.preCounter
  hash : session.hash = initial.hash.absorbAll (Block.complete ciphertext)
  counter : session.counter.block =
    Counter.increment^[ciphertext.length / 16 + 2] initial.preCounter
  keystream : session.keystream = BlockCipher.encrypt key
    (Counter.increment^[ciphertext.length / 16 + 1] initial.preCounter)
  leftover : session.leftover.toList.take session.leftoverLength =
    Block.incomplete ciphertext ++ bytes
  leftoverLength : session.leftoverLength = ciphertext.length % 16 + bytes.length
  aadLength : session.aadLength = initial.aadLength

theorem Reached.counter_of_whole (reached : Reached key initial ciphertext session)
    (whole : ciphertext.length % 16 = 0) :
    session.counter.block =
      Counter.increment^[ciphertext.length / 16 + 1] initial.preCounter := by
  rw [reached.counter, Keystream.begun_of_whole whole]

theorem Reached.filling (reached : Reached key initial ciphertext session)
    (begun : session.leftoverLength ≠ 0) : Filling key initial ciphertext [] session where
  preCounter := reached.preCounter
  hash := reached.hash
  counter := by
    rw [reached.leftoverLength] at begun
    rw [reached.counter, Keystream.begun_of_incomplete begun]
  keystream := reached.keystream begun
  leftover := by rw [reached.leftover, List.append_nil]
  leftoverLength := reached.leftoverLength
  aadLength := reached.aadLength

namespace Filling

theorem output_maskPartial (filling : Filling key initial ciphertext [] session)
    (within : ciphertext.length % 16 + data.length ≤ 16) :
    (session.maskPartial direction data).2 =
      Keystream.mask key initial.preCounter ciphertext.length data := by
  have offset : session.leftoverLength = ciphertext.length % 16 := filling.leftoverLength
  rw [← Keystream.mask_within key initial.preCounter within, ← filling.keystream, ← offset]
  rfl

theorem maskPartial (filling : Filling key initial ciphertext [] session)
    (within : ciphertext.length % 16 + data.length ≤ 16) :
    Filling key initial ciphertext
      (direction.ciphertext data (session.maskPartial direction data).2)
      (session.maskPartial direction data).1 := by
  have size : (direction.ciphertext data (session.maskPartial direction data).2).length =
      data.length :=
    direction.length_ciphertext
      (by rw [filling.output_maskPartial within, Keystream.length_mask])
  have offset : session.leftoverLength = ciphertext.length % 16 := filling.leftoverLength
  rw [fst_maskPartial]
  exact {
    preCounter := filling.preCounter
    hash := filling.hash
    counter := filling.counter
    keystream := filling.keystream
    leftover := by
      have fits : session.leftoverLength +
          (direction.ciphertext data (session.maskPartial direction data).2).length ≤ 16 := by
        rw [size, offset]
        exact within
      have kept := filling.leftover
      rw [List.append_nil] at kept
      rw [← kept, ← Block.take_overwrite session.leftover fits, size]
    leftoverLength := by
      rw [size, ← offset]
    aadLength := filling.aadLength }

theorem reached {bytes : Bytes} (filling : Filling key initial ciphertext bytes session)
    (within : ciphertext.length % 16 + bytes.length ≤ 16)
    (some : 0 < ciphertext.length % 16 + bytes.length) :
    Reached key initial (ciphertext ++ bytes) session.absorbLeftover := by
  have counter : session.counter.block =
      Counter.increment^[Keystream.begun (ciphertext ++ bytes).length + 1] initial.preCounter := by
    have count : Keystream.begun (ciphertext ++ bytes).length = ciphertext.length / 16 + 1 := by
      rw [List.length_append, Keystream.begun]
      omega
    rw [count, filling.counter]
  have length := filling.leftoverLength
  by_cases full : session.leftoverLength = 16
  · -- The buffer is the next complete block.
    have whole : session.leftover.toList = Block.incomplete ciphertext ++ bytes := by
      rw [← filling.leftover, full, List.take_of_length_le (by simp)]
    rw [absorbLeftover, if_pos full]
    exact {
      preCounter := filling.preCounter
      hash := by
        rw [Block.complete_append, ← whole, Block.complete_toList, GHash.absorbAll_append,
          ← filling.hash]
        rfl
      counter := counter
      keystream := fun more => absurd rfl more
      leftover := by
        rw [Block.incomplete_append, ← whole, Block.incomplete_toList, List.take_zero]
      leftoverLength := by
        rw [List.length_append]
        change 0 = _
        omega
      aadLength := filling.aadLength }
  · have short : (Block.incomplete ciphertext ++ bytes).length < 16 := by
      rw [List.length_append, Block.length_incomplete]
      omega
    rw [absorbLeftover, if_neg full]
    exact {
      preCounter := filling.preCounter
      hash := by
        rw [Block.complete_append, Block.complete_short short, List.append_nil, filling.hash]
      counter := counter
      keystream := fun _ => by
        have quotient : (ciphertext ++ bytes).length / 16 = ciphertext.length / 16 := by
          rw [List.length_append]
          omega
        rw [quotient, filling.keystream]
      leftover := by
        rw [filling.leftover, Block.incomplete_append, Block.incomplete_short short]
      leftoverLength := by
        rw [List.length_append]
        omega
      aadLength := filling.aadLength }

end Filling

theorem textLength_absorbLeftover (session : Session) :
    session.absorbLeftover.textLength = session.textLength := by
  rw [absorbLeftover]
  split <;> rfl

theorem Filling.advances {result : Traced (Session × Bytes)} {drawn : Session}
    (filling : Filling key initial ciphertext [] drawn)
    (within : ciphertext.length % 16 + data.length ≤ 16)
    (some : 0 < ciphertext.length % 16 + data.length)
    (text : drawn.textLength = session.textLength)
    (value : result.value =
      ((drawn.maskPartial direction data).1.absorbLeftover, (drawn.maskPartial direction data).2))
    (calls : result.calls =
      Keystream.counters initial.preCounter ciphertext.length (ciphertext.length + data.length)) :
    Advances key initial direction session ciphertext data result where
  output := by rw [value, filling.output_maskPartial within]
  reached := by
    have size : (direction.ciphertext data (drawn.maskPartial direction data).2).length =
        data.length :=
      direction.length_ciphertext
        (by rw [filling.output_maskPartial within, Keystream.length_mask])
    rw [value]
    exact (filling.maskPartial within).reached (by rw [size]; exact within)
      (by rw [size]; exact some)
  calls := calls
  textLength := by
    rw [value, textLength_absorbLeftover, fst_maskPartial]
    exact text

theorem advances_resume (direction : Direction) (data : Bytes)
    (reached : Reached key initial ciphertext session) :
    Advances key initial direction session ciphertext (data.take session.room)
      (pure (session.resume direction data)) := by
  by_cases fresh : session.leftoverLength = 0
  · rw [room, resume, if_pos fresh, if_pos fresh, List.take_zero]
    exact Advances.nothing reached
  · have length := reached.leftoverLength
    have room : session.room = 16 - session.leftoverLength := if_neg fresh
    have within : ciphertext.length % 16 + (data.take session.room).length ≤ 16 := by
      rw [List.length_take]
      omega
    refine (reached.filling fresh).advances within (by omega) rfl ?_ ?_
    · rw [resume, if_neg fresh]
      rfl
    · exact (Keystream.counters_of_incomplete initial.preCounter (by omega) within).symm

theorem advances_begin (direction : Direction) (data : Bytes)
    (reached : Reached key initial ciphertext session)
    (aligned : data ≠ [] → ciphertext.length % 16 = 0) (short : data.length < 16) :
    Advances key initial direction session ciphertext data
      (session.begin key direction data) := by
  cases data with
  | nil => exact Advances.nothing reached
  | cons byte rest =>
      have whole := aligned (List.cons_ne_nil byte rest)
      have empty : session.leftoverLength = 0 := reached.leftoverLength.trans whole
      have counter := reached.counter_of_whole whole
      let drawn : Session := { session with
        keystream := BlockCipher.encrypt key session.counter.block
        counter := ⟨Counter.increment session.counter.block⟩ }
      have filling : Filling key initial ciphertext [] drawn := {
        preCounter := reached.preCounter
        hash := reached.hash
        counter := by
          change Counter.increment session.counter.block = _
          rw [counter, ← Function.iterate_succ_apply' Counter.increment]
        keystream := by
          change BlockCipher.encrypt key session.counter.block = _
          rw [counter]
        leftover := by rw [List.append_nil]; exact reached.leftover
        leftoverLength := reached.leftoverLength
        aadLength := reached.aadLength }
      have total : (drawn.maskPartial direction (byte :: rest)).1.leftoverLength =
          (byte :: rest).length := by
        rw [fst_maskPartial]
        change session.leftoverLength + _ = _
        rw [empty, Nat.zero_add]
      have kept : (drawn.maskPartial direction (byte :: rest)).1.absorbLeftover =
          (drawn.maskPartial direction (byte :: rest)).1 := by
        rw [absorbLeftover, if_neg (by omega)]
      refine filling.advances (by omega) (by rw [List.length_cons]; omega) rfl ?_ ?_
      · rw [kept]
        rfl
      · have some : 0 < (byte :: rest).length := Nat.succ_pos _
        rw [Keystream.counters_of_whole initial.preCounter whole some (Nat.le_of_lt short),
          ← counter]
        rfl

/-! ## Complete blocks -/

theorem map_processBlock (session : Session) (direction : Direction) (block : Block) :
    (fun result => (result.1, result.2.toList)) <$> session.processBlock key direction block =
      let output := block.xor (BlockCipher.encrypt key session.counter.block)
      ⟨({ session with
          hash := session.hash.absorb (direction.ciphertext block output)
          counter := ⟨Counter.increment session.counter.block⟩ },
        output.toList),
        [session.counter.block], []⟩ :=
  rfl

theorem advances_processBlock (direction : Direction) (block : Block)
    (reached : Reached key initial ciphertext session) (aligned : ciphertext.length % 16 = 0) :
    Advances key initial direction session ciphertext block.toList
      ((fun result => (result.1, result.2.toList)) <$>
        session.processBlock key direction block) := by
  have counter := reached.counter_of_whole aligned
  have empty : session.leftoverLength = 0 := reached.leftoverLength.trans aligned
  have nothingLeft := Block.incomplete_of_whole aligned
  have output : (block.xor (BlockCipher.encrypt key session.counter.block)).toList =
      Keystream.mask key initial.preCounter ciphertext.length block.toList := by
    rw [← Keystream.mask_block key initial.preCounter aligned, ← counter]
  have calls : [session.counter.block] = Keystream.counters initial.preCounter
      ciphertext.length (ciphertext.length + block.toList.length) := by
    rw [Block.length_toList, Keystream.counters_of_whole initial.preCounter aligned (by decide)
      (Nat.le_refl 16), ← counter]
  rw [map_processBlock]
  generalize block.xor (BlockCipher.encrypt key session.counter.block) = masked at output
  refine ⟨output, ?_, calls, rfl⟩
  have total (hashed : Block) : (ciphertext ++ hashed.toList).length = ciphertext.length + 16 := by
    rw [List.length_append, Block.length_toList]
  dsimp only
  rw [← direction.toList_ciphertext]
  generalize direction.ciphertext block masked = hashed
  exact {
    preCounter := reached.preCounter
    hash := by
      rw [Block.complete_append, nothingLeft, List.nil_append, Block.complete_toList,
        GHash.absorbAll_append, ← reached.hash]
      rfl
    counter := by
      have next : Keystream.begun (ciphertext.length + 16) = ciphertext.length / 16 + 1 := by
        rw [Keystream.begun_of_whole (by omega), Nat.add_div_right _ (by decide)]
      rw [total, next, counter, ← Function.iterate_succ_apply' Counter.increment]
    keystream := fun some => absurd empty some
    leftover := by
      rw [Block.incomplete_append, nothingLeft, List.nil_append, Block.incomplete_toList, empty,
        List.take_zero]
    leftoverLength := by
      rw [total, empty]
      omega
    aadLength := reached.aadLength }

theorem processBlocks_cons (session : Session) (direction : Direction) (block : Block)
    (rest : List Block) :
    session.processBlocks key direction (block :: rest) =
      followedBy
        ((fun result => (result.1, result.2.toList)) <$> session.processBlock key direction block)
        fun next => next.processBlocks key direction rest := by
  rw [followedBy, bind_map_left, processBlocks]

theorem advances_processBlocks (direction : Direction) (blocks : List Block)
    (reached : Reached key initial ciphertext session)
    (aligned : blocks ≠ [] → ciphertext.length % 16 = 0) :
    Advances key initial direction session ciphertext (blocks.flatMap Vector.toList)
      (session.processBlocks key direction blocks) := by
  induction blocks generalizing session ciphertext with
  | nil => exact Advances.nothing reached
  | cons block rest induction =>
      have whole := aligned (List.cons_ne_nil block rest)
      have first := advances_processBlock direction block reached whole
      have stillWhole := first.length_ciphertext
      rw [Block.length_toList] at stillWhole
      rw [processBlocks_cons, List.flatMap_cons]
      exact first.andThen (induction first.reached fun _ => by omega)

/-! ## Pieces -/

/-- A piece without its count: the begun block, the complete blocks and the rest. -/
def processParts (session : Session) (key : Key) (direction : Direction) (data : Bytes) :
    Traced (Session × Bytes) :=
  let rest := data.drop session.room
  followedBy
    (followedBy (pure (session.resume direction data))
      fun resumed => resumed.processBlocks key direction (Block.complete rest))
    fun advanced => advanced.begin key direction (Block.incomplete rest)

theorem process_eq (session : Session) (direction : Direction) (data : Bytes) :
    session.process key direction data =
      (fun result =>
        ({ result.1 with textLength := result.1.textLength + UInt64.ofNat data.length },
          result.2)) <$> session.processParts key direction data := by
  ext1
  · rfl
  · simp [process, processParts, followedBy]
  · simp [process, processParts, followedBy]

theorem aligned_of_drop_room (session : Session) (fits : session.leftoverLength ≤ 15)
    {data : Bytes} (more : data.drop session.room ≠ []) :
    (session.leftoverLength + (data.take session.room).length) % 16 = 0 := by
  have beyond : session.room < data.length := List.drop_eq_nil_iff.not.mp more |> Nat.lt_of_not_le
  rw [List.length_take]
  unfold room at beyond ⊢
  split at beyond <;> split <;> omega

theorem advances_processParts (direction : Direction) (data : Bytes)
    (reached : Reached key initial ciphertext session) :
    Advances key initial direction session ciphertext data
      (session.processParts key direction data) := by
  let rest := data.drop session.room
  have resumed : Advances key initial direction session ciphertext (data.take session.room)
      (pure (session.resume direction data)) := advances_resume direction data reached
  have afterResumed := resumed.length_ciphertext
  have aligned : rest ≠ [] → (ciphertext.length + (data.take session.room).length) % 16 = 0 := by
    intro more
    have begun := reached.leftoverLength
    have filled := session.aligned_of_drop_room (by omega) more
    omega
  have blocks := advances_processBlocks direction (Block.complete rest) resumed.reached
    fun some => by
      rw [afterResumed]
      apply aligned
      intro none
      exact some (by rw [none, Block.complete_short (by decide)])
  have upToBlocks : Advances key initial direction session ciphertext
      (data.take session.room ++ (Block.complete rest).flatMap Vector.toList)
      (followedBy (pure (session.resume direction data))
        fun resumed => resumed.processBlocks key direction (Block.complete rest)) :=
    resumed.andThen blocks
  have afterBlocks := upToBlocks.length_ciphertext
  have last := advances_begin direction (Block.incomplete rest) upToBlocks.reached
    (fun some => by
      have whole : rest ≠ [] := by
        intro none
        exact some (by rw [none, Block.incomplete_short (by decide)])
      have alignedRest := aligned whole
      rw [afterBlocks, List.length_append, Block.length_flatMap_toList]
      omega)
    (by
      rw [Block.length_incomplete]
      omega)
  have all : Advances key initial direction session ciphertext
      (data.take session.room ++ (Block.complete rest).flatMap Vector.toList ++
        Block.incomplete rest)
      (followedBy
        (followedBy (pure (session.resume direction data))
          fun resumed => resumed.processBlocks key direction (Block.complete rest))
        fun advanced => advanced.begin key direction (Block.incomplete rest)) :=
    upToBlocks.andThen last
  rw [Block.take_append_blocks] at all
  exact all

theorem Reached.counted (reached : Reached key initial ciphertext session) (total : UInt64) :
    Reached key initial ciphertext { session with textLength := total } where
  preCounter := reached.preCounter
  hash := reached.hash
  counter := reached.counter
  keystream := reached.keystream
  leftover := reached.leftover
  leftoverLength := reached.leftoverLength
  aadLength := reached.aadLength

section

variable (reached : Reached key initial ciphertext session) (direction : Direction) (data : Bytes)

include reached

theorem output_process :
    (session.process key direction data).value.2 =
      Keystream.mask key initial.preCounter ciphertext.length data := by
  rw [process_eq]
  exact (advances_processParts direction data reached).output

theorem reached_process :
    Reached key initial
      (ciphertext ++ direction.ciphertext data
        (Keystream.mask key initial.preCounter ciphertext.length data))
      (session.process key direction data).value.1 := by
  rw [← output_process reached direction data, process_eq]
  exact (advances_processParts direction data reached).reached.counted _

theorem calls_process :
    (session.process key direction data).calls =
      Keystream.counters initial.preCounter ciphertext.length
        (ciphertext.length + data.length) := by
  rw [process_eq, ← (advances_processParts direction data reached).calls]
  exact List.append_nil _

theorem textLength_process :
    (session.process key direction data).value.1.textLength =
      session.textLength + UInt64.ofNat data.length := by
  rw [process_eq, ← (advances_processParts direction data reached).textLength]
  rfl

end

/-! ## The ends of a message -/

theorem reached_start (key : Key) (backend : Backend) (iv aad : Bytes) :
    let initial := (start key backend iv aad).value
    Reached key initial [] initial where
  preCounter := rfl
  hash := by
    rw [Block.complete_short (by decide)]
    rfl
  counter := rfl
  keystream := fun some => absurd rfl some
  leftover := List.take_zero
  leftoverLength := rfl
  aadLength := rfl

theorem tagBlock_eq (reached : Reached key initial ciphertext session) :
    session.tagBlock key =
      Tag.blockOf key initial.preCounter
        ((initial.hash.absorbPadded ciphertext).absorbLengths (initial.aadLength * 8)
          (session.textLength * 8)).value := by
  have hash : session.hash.absorbPadded (session.leftover.toList.take session.leftoverLength) =
      initial.hash.absorbPadded ciphertext := by
    rw [reached.leftover, reached.hash, GHash.absorbPadded, ← GHash.absorbAll_append,
      ← Block.padded_eq, GHash.absorbPadded]
  rw [tagBlock, hash, reached.aadLength, reached.preCounter]

end

/-! ## Lengths -/

/-- What processing does with lengths, whatever the session holds. -/
structure Passes (session : Session) (length : Nat) (result : Session × Bytes) : Prop where
  output : result.2.length = length
  aadLength : result.1.aadLength = session.aadLength
  textLength : result.1.textLength = session.textLength

theorem Passes.followedBy {session : Session} {length more : Nat}
    {first : Traced (Session × Bytes)} {next : Session → Traced (Session × Bytes)}
    (passes : session.Passes length first.value)
    (nextPasses : first.value.1.Passes more (next first.value.1).value) :
    session.Passes (length + more) (Session.followedBy first next).value where
  output := by
    rw [← passes.output, ← nextPasses.output, ← List.length_append]
    rfl
  aadLength := nextPasses.aadLength.trans passes.aadLength
  textLength := nextPasses.textLength.trans passes.textLength

theorem aadLength_absorbLeftover (session : Session) :
    session.absorbLeftover.aadLength = session.aadLength := by
  rw [absorbLeftover]
  split <;> rfl

section

variable (session : Session) (key : Key) (direction : Direction)

theorem passes_maskPartial (data : Bytes) :
    session.Passes data.length (session.maskPartial direction data) where
  output := Bytes.length_mask _ _
  aadLength := by rw [fst_maskPartial]
  textLength := by rw [fst_maskPartial]

theorem passes_resume (data : Bytes) :
    session.Passes (data.take session.room).length (session.resume direction data) := by
  unfold resume
  split
  · next aligned =>
    rw [room, if_pos aligned]
    exact ⟨rfl, rfl, rfl⟩
  · have masked := session.passes_maskPartial direction (data.take session.room)
    exact ⟨masked.output, (aadLength_absorbLeftover _).trans masked.aadLength,
      (textLength_absorbLeftover _).trans masked.textLength⟩

theorem passes_begin (data : Bytes) :
    session.Passes data.length (session.begin key direction data).value := by
  unfold begin
  split
  · next empty =>
    rw [List.isEmpty_iff.mp empty]
    exact ⟨rfl, rfl, rfl⟩
  · have masked (keystream : Block) (counter : Counter) :=
      passes_maskPartial { session with keystream, counter } direction data
    exact ⟨(masked _ _).output, (masked _ _).aadLength, (masked _ _).textLength⟩

theorem passes_processBlocks (blocks : List Block) :
    session.Passes (16 * blocks.length) (session.processBlocks key direction blocks).value := by
  induction blocks generalizing session with
  | nil => exact ⟨rfl, rfl, rfl⟩
  | cons block rest induction =>
      rw [processBlocks_cons, List.length_cons, Nat.mul_succ, Nat.add_comm]
      refine Passes.followedBy ?_ (induction _)
      exact {
        output := by
          rw [map_processBlock]
          dsimp only
          rw [Block.length_toList]
        aadLength := by rw [map_processBlock]
        textLength := by rw [map_processBlock] }

theorem passes_processParts (data : Bytes) :
    session.Passes data.length (session.processParts key direction data).value := by
  have length : data.length = (data.take session.room).length +
      16 * (Block.complete (data.drop session.room)).length +
      (Block.incomplete (data.drop session.room)).length := by
    rw [Block.length_complete, Block.length_incomplete, List.length_take, List.length_drop]
    omega
  rw [length]
  exact ((session.passes_resume direction data).followedBy (passes_processBlocks ..)).followedBy
    (passes_begin ..)

theorem length_process (data : Bytes) :
    (session.process key direction data).value.2.length = data.length := by
  rw [process_eq]
  exact (session.passes_processParts key direction data).output

end

end Session

end GaloisCounter
