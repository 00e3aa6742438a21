import GaloisCounter.Proofs.Session

/-!
Processing text byte by byte.

A piece is processed block by block as far as it goes. That comes to the same as processing its
bytes one at a time, except for bytes of the buffers that are not in use. Bytes that follow each
other can be cut anywhere, and so can pieces.
-/

namespace GaloisCounter

/-! ## Parts of a block -/

namespace Block

theorem overwrite_nil (block : Block) (start : Nat) : block.overwrite start [] = block := by
  ext index bound
  simp [overwrite]

theorem overwrite_append (block : Block) (start : Nat) (first second : Bytes) :
    block.overwrite start (first ++ second) =
      (block.overwrite start first).overwrite (start + first.length) second := by
  ext index bound
  by_cases before : index < start + first.length
  · have notSecond : ¬start + first.length ≤ index := by omega
    by_cases after : start ≤ index
    · have inside : index - start < first.length := by omega
      simp [overwrite, notSecond, after, List.getElem?_append_left inside]
    · simp [overwrite, notSecond, after]
  · have inSecond : start + first.length ≤ index := by omega
    have after : start ≤ index := by omega
    have outside : first.length ≤ index - start := by omega
    have offset : index - start - first.length = index - (start + first.length) := by omega
    simp [overwrite, inSecond, after, List.getElem?_append_right outside,
      List.getElem?_eq_none outside, offset]

theorem overwrite_whole (block : Block) {bytes : Bytes} (whole : bytes.length = 16) :
    block.overwrite 0 bytes = ofBytes bytes := by
  ext index bound
  have inside : index < bytes.length := by omega
  simp [overwrite, ofBytes, inside]

end Block

theorem Bytes.mask_append (first second keystream : Bytes) :
    mask (first ++ second) keystream =
      mask first keystream ++ mask second (keystream.drop first.length) := by
  induction first generalizing keystream with
  | nil => simp [mask]
  | cons byte rest induction =>
      cases keystream with
      | nil => simp [mask]
      | cons value keystream => simpa [mask] using induction keystream

theorem Bytes.mask_block (block keystream : Block) :
    mask block.toList keystream.toList = (block.xor keystream).toList := by
  have none : block.toList.drop keystream.toList.length = [] :=
    List.drop_eq_nil_of_le (by simp)
  rw [mask, none, List.append_nil, Block.toList_xor]

theorem Traced.bind_eq_of_value {first : Traced First} {next other : First → Traced Second}
    (same : next first.value = other first.value) : first >>= next = first >>= other := by
  ext1
  · rw [value_bind, value_bind, same]
  · rw [calls_bind, calls_bind, same]
  · rw [events_bind, events_bind, same]

namespace Session

variable {Key : Type} [BlockCipher Key]

/-! ## One byte at a time -/

/-- Processes bytes that fit into the block whose keystream is drawn, and hashes the block if they
complete it. -/
def fill (session : Session) (direction : Direction) (data : Bytes) : Session × Bytes :=
  let (filled, output) := session.maskPartial direction data
  (filled.absorbLeftover, output)

def draw (session : Session) (key : Key) : Traced Session := do
  let (keystream, counter) ← session.counter.keystream key
  return { session with keystream, counter }

theorem draw_eq (session : Session) (key : Key) :
    session.draw key =
      ⟨{ session with
          keystream := BlockCipher.encrypt key session.counter.block
          counter := ⟨Counter.increment session.counter.block⟩ },
        [session.counter.block], []⟩ :=
  rfl

theorem leftoverLength_draw (session : Session) (key : Key) :
    (session.draw key).value.leftoverLength = session.leftoverLength := by
  rw [draw_eq]

def processByte (session : Session) (key : Key) (direction : Direction) (byte : UInt8) :
    Traced (Session × Bytes) :=
  if session.leftoverLength = 0 then do
    let drawn ← session.draw key
    return drawn.fill direction [byte]
  else
    return session.fill direction [byte]

def processBytes (session : Session) (key : Key) (direction : Direction) :
    Bytes → Traced (Session × Bytes)
  | [] => return (session, [])
  | byte :: rest =>
      followedBy (session.processByte key direction byte) fun next =>
        next.processBytes key direction rest

theorem followedBy_assoc (first : Traced (Session × Bytes))
    (second third : Session → Traced (Session × Bytes)) :
    followedBy (followedBy first second) third =
      followedBy first fun next => followedBy (second next) third := by
  simp [followedBy]

theorem nil_followedBy (session : Session) (next : Session → Traced (Session × Bytes)) :
    followedBy (pure (session, [])) next = next session := by
  simp [followedBy]

theorem followedBy_nil (first : Traced (Session × Bytes)) :
    (followedBy first fun next => pure (next, [])) = first := by
  simp [followedBy]

theorem processBytes_append (session : Session) (key : Key) (direction : Direction)
    (first second : Bytes) :
    session.processBytes key direction (first ++ second) =
      followedBy (session.processBytes key direction first) fun next =>
        next.processBytes key direction second := by
  induction first generalizing session with
  | nil => exact (nil_followedBy session fun next => next.processBytes key direction second).symm
  | cons byte rest induction =>
      rw [List.cons_append, processBytes, processBytes, followedBy_assoc]
      congr 1
      funext next
      exact induction next

/-! ## Filling a block -/

theorem maskPartial_nil (session : Session) (direction : Direction) :
    session.maskPartial direction [] = (session, []) := by
  have none : direction.ciphertext ([] : Bytes) [] = [] := by cases direction <;> rfl
  have output : Bytes.mask [] (session.keystream.toList.drop session.leftoverLength) = [] := by
    rw [Bytes.mask, List.zipWith_nil_left, List.drop_nil, List.append_nil]
  rw [maskPartial, output, none, Block.overwrite_nil]
  rfl

theorem maskPartial_append (session : Session) (direction : Direction) (first second : Bytes) :
    session.maskPartial direction (first ++ second) =
      let head := session.maskPartial direction first
      let tail := head.1.maskPartial direction second
      (tail.1, head.2 ++ tail.2) := by
  have size (keystream : Bytes) : (direction.ciphertext first (Bytes.mask first keystream)).length =
      first.length :=
    direction.length_ciphertext (Bytes.length_mask first keystream)
  simp only [maskPartial]
  rw [Bytes.mask_append, direction.ciphertext_append, Block.overwrite_append, size,
    List.drop_drop, List.length_append, Nat.add_assoc]

theorem absorbLeftover_of_unfilled {session : Session} (unfilled : session.leftoverLength ≠ 16) :
    session.absorbLeftover = session := by
  rw [absorbLeftover, if_neg unfilled]

theorem fill_eq (session : Session) (direction : Direction) (data : Bytes) :
    session.fill direction data =
      ((session.maskPartial direction data).1.absorbLeftover,
        (session.maskPartial direction data).2) :=
  rfl

theorem fill_nil (session : Session) (direction : Direction)
    (unfilled : session.leftoverLength ≠ 16) : session.fill direction [] = (session, []) := by
  rw [fill_eq, maskPartial_nil, absorbLeftover_of_unfilled unfilled]

theorem fill_append (session : Session) (direction : Direction) (first second : Bytes)
    (unfilled : session.leftoverLength + first.length ≠ 16) :
    session.fill direction (first ++ second) =
      let head := session.fill direction first
      let tail := head.1.fill direction second
      (tail.1, head.2 ++ tail.2) := by
  have kept : (session.maskPartial direction first).1.absorbLeftover =
      (session.maskPartial direction first).1 := absorbLeftover_of_unfilled unfilled
  simp only [fill_eq]
  rw [kept, maskPartial_append]

theorem leftoverLength_fill (session : Session) (direction : Direction) (data : Bytes) :
    (session.fill direction data).1.leftoverLength =
      if session.leftoverLength + data.length = 16 then 0
      else session.leftoverLength + data.length := by
  rw [fill_eq, fst_maskPartial, absorbLeftover]
  dsimp only
  split <;> rfl

theorem fill_followedBy_processBytes (session : Session) (key : Key) (direction : Direction)
    (byte : UInt8) (rest : Bytes) (within : session.leftoverLength + (byte :: rest).length ≤ 16) :
    (followedBy (pure (session.fill direction [byte])) fun next =>
      next.processBytes key direction rest) = pure (session.fill direction (byte :: rest)) := by
  -- The block is not full before the last byte.
  induction rest generalizing session byte with
  | nil => exact followedBy_nil _
  | cons second rest induction =>
      rw [List.length_cons, List.length_cons] at within
      have unfilled : session.leftoverLength + [byte].length ≠ 16 := by
        rw [List.length_singleton]
        omega
      have length := session.leftoverLength_fill direction [byte]
      rw [if_neg unfilled, List.length_singleton] at length
      have split := session.fill_append direction [byte] (second :: rest) unfilled
      rw [List.singleton_append] at split
      rw [split]
      generalize session.fill direction [byte] = filled at length
      have begun : filled.1.leftoverLength ≠ 0 := by omega
      have more := induction filled.1 second (by rw [List.length_cons]; omega)
      have next : filled.1.processBytes key direction (second :: rest) =
          pure (filled.1.fill direction (second :: rest)) := by
        rw [processBytes, processByte, if_neg begun]
        exact more
      simp [followedBy, next]

theorem processBytes_of_begun (session : Session) (key : Key) (direction : Direction)
    (data : Bytes) (begun : session.leftoverLength ≠ 0) (unfilled : session.leftoverLength ≠ 16)
    (within : session.leftoverLength + data.length ≤ 16) :
    session.processBytes key direction data = pure (session.fill direction data) := by
  cases data with
  | nil => rw [fill_nil session direction unfilled, processBytes]
  | cons byte rest =>
      rw [processBytes, processByte, if_neg begun]
      exact session.fill_followedBy_processBytes key direction byte rest within

theorem processBytes_of_fresh (session : Session) (key : Key) (direction : Direction)
    (data : Bytes) (fresh : session.leftoverLength = 0) (some : data ≠ [])
    (within : data.length ≤ 16) :
    session.processBytes key direction data = (do
      let drawn ← session.draw key
      return drawn.fill direction data) := by
  cases data with
  | nil => exact absurd rfl some
  | cons byte rest =>
      have length := session.leftoverLength_draw key
      have first := fill_followedBy_processBytes (session.draw key).value key direction byte rest
        (by omega)
      rw [processBytes, processByte, if_pos fresh, followedBy, bind_assoc]
      exact Traced.bind_eq_of_value first

/-! ## Bytes that are not in use -/

/-- The sessions may differ in their count of text, and in bytes of the buffers that are not in use:
kept bytes beyond the incomplete block, and keystream that is used up. -/
structure SimilarUncounted (first second : Session) : Prop where
  hash : first.hash = second.hash
  preCounter : first.preCounter = second.preCounter
  counter : first.counter = second.counter
  keystream : first.leftoverLength ≠ 0 →
    first.keystream.toList.drop first.leftoverLength =
      second.keystream.toList.drop second.leftoverLength
  leftover : first.leftover.toList.take first.leftoverLength =
    second.leftover.toList.take second.leftoverLength
  leftoverLength : first.leftoverLength = second.leftoverLength
  aadLength : first.aadLength = second.aadLength

structure Similar (first second : Session) : Prop extends SimilarUncounted first second where
  textLength : first.textLength = second.textLength

namespace SimilarUncounted

variable {first second third : Session}

protected theorem refl (session : Session) : SimilarUncounted session session :=
  ⟨rfl, rfl, rfl, fun _ => rfl, rfl, rfl, rfl⟩

protected theorem symm (similar : SimilarUncounted first second) :
    SimilarUncounted second first where
  hash := similar.hash.symm
  preCounter := similar.preCounter.symm
  counter := similar.counter.symm
  keystream := fun some => (similar.keystream (similar.leftoverLength ▸ some)).symm
  leftover := similar.leftover.symm
  leftoverLength := similar.leftoverLength.symm
  aadLength := similar.aadLength.symm

protected theorem trans (similar : SimilarUncounted first second)
    (next : SimilarUncounted second third) : SimilarUncounted first third where
  hash := similar.hash.trans next.hash
  preCounter := similar.preCounter.trans next.preCounter
  counter := similar.counter.trans next.counter
  keystream := fun some =>
    (similar.keystream some).trans (next.keystream (similar.leftoverLength ▸ some))
  leftover := similar.leftover.trans next.leftover
  leftoverLength := similar.leftoverLength.trans next.leftoverLength
  aadLength := similar.aadLength.trans next.aadLength

end SimilarUncounted

theorem Similar.refl (session : Session) : Similar session session :=
  ⟨.refl session, rfl⟩

/-- The same output and the same inputs to the cipher, and similar sessions but for their counts. -/
structure SimilarResults (first second : Traced (Session × Bytes)) : Prop where
  sessions : SimilarUncounted first.value.1 second.value.1
  output : first.value.2 = second.value.2
  calls : first.calls = second.calls

namespace SimilarResults

variable {first second third : Traced (Session × Bytes)}

protected theorem refl (result : Traced (Session × Bytes)) : SimilarResults result result :=
  ⟨.refl _, rfl, rfl⟩

protected theorem symm (similar : SimilarResults first second) : SimilarResults second first :=
  ⟨similar.sessions.symm, similar.output.symm, similar.calls.symm⟩

protected theorem trans (similar : SimilarResults first second)
    (next : SimilarResults second third) : SimilarResults first third :=
  ⟨similar.sessions.trans next.sessions, similar.output.trans next.output,
    similar.calls.trans next.calls⟩

protected theorem followedBy {next other : Session → Traced (Session × Bytes)}
    (similar : SimilarResults first second)
    (nextSimilar : SimilarResults (next first.value.1) (other second.value.1)) :
    SimilarResults (followedBy first next) (followedBy second other) where
  sessions := nextSimilar.sessions
  output := by
    change first.value.2 ++ _ = second.value.2 ++ _
    rw [similar.output, nextSimilar.output]
  calls := by
    simp only [Session.followedBy, Traced.calls_bind, Traced.calls_pure]
    rw [similar.calls, nextSimilar.calls]

end SimilarResults

theorem similar_maskPartial {first second : Session} (similar : SimilarUncounted first second)
    (keystream : first.keystream.toList.drop first.leftoverLength =
      second.keystream.toList.drop second.leftoverLength)
    (direction : Direction) {data : Bytes} (within : first.leftoverLength + data.length ≤ 16) :
    SimilarUncounted (first.maskPartial direction data).1 (second.maskPartial direction data).1 ∧
      (first.maskPartial direction data).2 = (second.maskPartial direction data).2 := by
  have output : (first.maskPartial direction data).2 = (second.maskPartial direction data).2 :=
    congrArg (Bytes.mask data) keystream
  have length := similar.leftoverLength
  have size : (direction.ciphertext data (second.maskPartial direction data).2).length =
      data.length :=
    direction.length_ciphertext (Bytes.length_mask _ _)
  refine ⟨?_, output⟩
  rw [fst_maskPartial, fst_maskPartial, output]
  generalize direction.ciphertext data (second.maskPartial direction data).2 = written at size
  rw [← size] at within ⊢
  have kept := Block.take_overwrite first.leftover within
  have otherKept := Block.take_overwrite second.leftover (length ▸ within)
  generalize first.leftover.overwrite first.leftoverLength written = filled at kept ⊢
  generalize second.leftover.overwrite second.leftoverLength written = otherFilled at otherKept ⊢
  exact {
    hash := similar.hash
    preCounter := similar.preCounter
    counter := similar.counter
    keystream := fun _ => by
      dsimp only
      rw [← List.drop_drop, ← List.drop_drop, keystream]
    leftover := by
      dsimp only
      rw [kept, otherKept, similar.leftover]
    leftoverLength := congrArg (· + written.length) length
    aadLength := similar.aadLength }

theorem similar_absorbLeftover {first second : Session} (similar : SimilarUncounted first second) :
    SimilarUncounted first.absorbLeftover second.absorbLeftover := by
  have length := similar.leftoverLength
  by_cases full : first.leftoverLength = 16
  · have otherFull : second.leftoverLength = 16 := by omega
    -- All bytes of a complete block are in use.
    have whole : first.leftover = second.leftover := by
      have leftover := similar.leftover
      rw [full, otherFull, List.take_of_length_le (by simp), List.take_of_length_le (by simp)]
        at leftover
      exact Vector.toList_inj.mp leftover
    rw [absorbLeftover, absorbLeftover, if_pos full, if_pos otherFull]
    exact {
      hash := by rw [similar.hash, whole]
      preCounter := similar.preCounter
      counter := similar.counter
      keystream := fun some => absurd rfl some
      leftover := by rw [List.take_zero, List.take_zero]
      leftoverLength := rfl
      aadLength := similar.aadLength }
  · rw [absorbLeftover_of_unfilled full, absorbLeftover_of_unfilled (by omega)]
    exact similar

theorem similar_fill {first second : Session} (similar : SimilarUncounted first second)
    (keystream : first.keystream.toList.drop first.leftoverLength =
      second.keystream.toList.drop second.leftoverLength)
    (direction : Direction) {data : Bytes} (within : first.leftoverLength + data.length ≤ 16) :
    SimilarUncounted (first.fill direction data).1 (second.fill direction data).1 ∧
      (first.fill direction data).2 = (second.fill direction data).2 := by
  rcases similar_maskPartial similar keystream direction within with ⟨masked, output⟩
  exact ⟨similar_absorbLeftover masked, output⟩

theorem similar_draw {first second : Session} (similar : SimilarUncounted first second) (key : Key)
    (fresh : first.leftoverLength = 0) :
    SimilarUncounted (first.draw key).value (second.draw key).value := by
  rw [draw_eq, draw_eq, similar.counter]
  generalize BlockCipher.encrypt key second.counter.block = keystream
  generalize Counter.increment second.counter.block = next
  exact {
    hash := similar.hash
    preCounter := similar.preCounter
    counter := rfl
    keystream := fun some => absurd fresh some
    leftover := similar.leftover
    leftoverLength := similar.leftoverLength
    aadLength := similar.aadLength }

theorem similar_processByte {first second : Session} (similar : SimilarUncounted first second)
    (fits : first.leftoverLength ≤ 15) (key : Key) (direction : Direction) (byte : UInt8) :
    SimilarResults (first.processByte key direction byte)
      (second.processByte key direction byte) := by
  have length := similar.leftoverLength
  have within : first.leftoverLength + [byte].length ≤ 16 := Nat.add_le_add_right fits 1
  by_cases fresh : first.leftoverLength = 0
  · -- Both draw the keystream from the same counter.
    have keystream : (first.draw key).value.keystream = (second.draw key).value.keystream := by
      rw [draw_eq, draw_eq, similar.counter]
    have calls : (first.draw key).calls = (second.draw key).calls := by
      rw [draw_eq, draw_eq, similar.counter]
    have filled := similar_fill (similar_draw similar key fresh)
      (by rw [keystream, leftoverLength_draw, leftoverLength_draw, length]) direction
      (by rw [leftoverLength_draw]; exact within)
    rw [processByte, processByte, if_pos fresh, if_pos (length ▸ fresh)]
    exact ⟨filled.1, filled.2, congrArg (· ++ []) calls⟩
  · have filled := similar_fill similar (similar.keystream fresh) direction within
    rw [processByte, processByte, if_neg fresh, if_neg (length ▸ fresh)]
    exact ⟨filled.1, filled.2, rfl⟩

theorem leftoverLength_processByte (session : Session) (fits : session.leftoverLength ≤ 15)
    (key : Key) (direction : Direction) (byte : UInt8) :
    (session.processByte key direction byte).value.1.leftoverLength =
      (session.leftoverLength + 1) % 16 := by
  have filled (drawn : Session) (same : drawn.leftoverLength = session.leftoverLength) :
      (drawn.fill direction [byte]).1.leftoverLength = (session.leftoverLength + 1) % 16 := by
    rw [leftoverLength_fill, same, List.length_singleton]
    split <;> omega
  rw [processByte]
  split
  · exact filled (session.draw key).value (session.leftoverLength_draw key)
  · exact filled session rfl

theorem leftoverLength_processBytes (session : Session) (fits : session.leftoverLength ≤ 15)
    (key : Key) (direction : Direction) (data : Bytes) :
    (session.processBytes key direction data).value.1.leftoverLength =
      (session.leftoverLength + data.length) % 16 := by
  induction data generalizing session with
  | nil => exact (Nat.mod_eq_of_lt (Nat.lt_succ_of_le fits)).symm
  | cons byte rest induction =>
      have first := session.leftoverLength_processByte fits key direction byte
      have last := induction (session.processByte key direction byte).value.1 (by omega)
      rw [List.length_cons]
      change ((session.processByte key direction byte).value.1.processBytes key direction
        rest).value.1.leftoverLength = _
      omega

theorem similar_processBytes {first second : Session} (similar : SimilarUncounted first second)
    (fits : first.leftoverLength ≤ 15) (key : Key) (direction : Direction) (data : Bytes) :
    SimilarResults (first.processBytes key direction data)
      (second.processBytes key direction data) := by
  induction data generalizing first second with
  | nil => exact ⟨similar, rfl, rfl⟩
  | cons byte rest induction =>
      have step := similar_processByte similar fits key direction byte
      have length := first.leftoverLength_processByte fits key direction byte
      exact step.followedBy (induction step.sessions (by omega))

/-! ## Pieces -/

theorem resume_eq (session : Session) (fits : session.leftoverLength ≤ 15) (key : Key)
    (direction : Direction) (data : Bytes) :
    pure (session.resume direction data) =
      session.processBytes key direction (data.take session.room) := by
  by_cases fresh : session.leftoverLength = 0
  · rw [resume, room, if_pos fresh, if_pos fresh, List.take_zero, processBytes]
  · have room : session.room = 16 - session.leftoverLength := if_neg fresh
    have within : session.leftoverLength + (data.take session.room).length ≤ 16 := by
      rw [List.length_take]
      omega
    rw [session.processBytes_of_begun key direction _ fresh (by omega) within, resume,
      if_neg fresh, fill_eq]

theorem begin_eq (session : Session) (key : Key) (direction : Direction) (data : Bytes)
    (fresh : data ≠ [] → session.leftoverLength = 0) (short : data.length < 16) :
    session.begin key direction data = session.processBytes key direction data := by
  cases data with
  | nil => rfl
  | cons byte rest =>
      have some : byte :: rest ≠ [] := List.cons_ne_nil byte rest
      have unfilled : (session.draw key).value.leftoverLength + (byte :: rest).length ≠ 16 := by
        rw [leftoverLength_draw, fresh some, Nat.zero_add]
        exact Nat.ne_of_lt short
      have kept : (session.draw key).value.fill direction (byte :: rest) =
          (session.draw key).value.maskPartial direction (byte :: rest) := by
        rw [fill_eq, absorbLeftover_of_unfilled unfilled]
      calc session.begin key direction (byte :: rest)
          = (do
              let drawn ← session.draw key
              return drawn.maskPartial direction (byte :: rest)) := rfl
        _ = (do
              let drawn ← session.draw key
              return drawn.fill direction (byte :: rest)) :=
            Traced.bind_eq_of_value (congrArg pure kept.symm)
        _ = session.processBytes key direction (byte :: rest) :=
            (session.processBytes_of_fresh key direction _ (fresh some) some
              (Nat.le_of_lt short)).symm

theorem maskPartial_block (session : Session) (direction : Direction) (block : Block)
    (fresh : session.leftoverLength = 0) :
    session.maskPartial direction block.toList =
      let output := block.xor session.keystream
      ({ session with leftover := direction.ciphertext block output, leftoverLength := 16 },
        output.toList) := by
  rw [maskPartial, fresh, List.drop_zero, Bytes.mask_block, ← direction.toList_ciphertext,
    Block.overwrite_whole _ (Block.length_toList _), Block.ofBytes_toList, Block.length_toList]

theorem similar_processBlock (session : Session) (key : Key) (direction : Direction)
    (block : Block) (fresh : session.leftoverLength = 0) :
    SimilarResults
      ((fun result => (result.1, result.2.toList)) <$> session.processBlock key direction block)
      (session.processBytes key direction block.toList) := by
  have length := block.length_toList
  have some : block.toList ≠ [] := List.ne_nil_of_length_pos (by omega)
  have filled (drawn : Session) (empty : drawn.leftoverLength = 0) :
      drawn.fill direction block.toList =
        let output := block.xor drawn.keystream
        let hashed := direction.ciphertext block output
        ({ drawn with
            hash := drawn.hash.absorb hashed
            leftover := hashed
            leftoverLength := 0 },
          output.toList) := by
    rw [fill_eq, drawn.maskPartial_block direction block empty, absorbLeftover, if_pos rfl]
  have value := filled (session.draw key).value ((session.leftoverLength_draw key).trans fresh)
  rw [session.processBytes_of_fresh key direction _ fresh some (Nat.le_of_eq length),
    map_processBlock]
  refine ⟨?_, ?_, rfl⟩
  · change SimilarUncounted _ ((session.draw key).value.fill direction block.toList).1
    rw [value, draw_eq]
    exact {
      hash := rfl
      preCounter := rfl
      counter := rfl
      keystream := fun some => absurd fresh some
      leftover := by
        dsimp only
        rw [fresh, List.take_zero, List.take_zero]
      leftoverLength := fresh
      aadLength := rfl }
  · change _ = ((session.draw key).value.fill direction block.toList).2
    rw [value, draw_eq]

theorem similar_processBlocks (session : Session) (key : Key) (direction : Direction)
    (blocks : List Block) (fresh : blocks ≠ [] → session.leftoverLength = 0) :
    SimilarResults (session.processBlocks key direction blocks)
      (session.processBytes key direction (blocks.flatMap Vector.toList)) := by
  induction blocks generalizing session with
  | nil => exact .refl _
  | cons block rest induction =>
      have empty := fresh (List.cons_ne_nil block rest)
      have first := session.similar_processBlock key direction block empty
      rw [processBlocks_cons, List.flatMap_cons, processBytes_append]
      refine first.followedBy ((induction _ fun _ => ?_).trans
        (similar_processBytes first.sessions ?_ key direction _))
      · exact empty
      · exact Nat.le_trans (Nat.le_of_eq empty) (Nat.zero_le 15)

theorem similar_processParts (session : Session) (fits : session.leftoverLength ≤ 15) (key : Key)
    (direction : Direction) (data : Bytes) :
    SimilarResults (session.processParts key direction data)
      (session.processBytes key direction data) := by
  let rest := data.drop session.room
  let whole := (Block.complete rest).flatMap Vector.toList
  have resumed := session.resume_eq fits key direction data
  have blocks : SimilarResults
      (followedBy (pure (session.resume direction data))
        fun resumed => resumed.processBlocks key direction (Block.complete rest))
      (session.processBytes key direction (data.take session.room ++ whole)) := by
    rw [resumed, processBytes_append]
    refine (SimilarResults.refl _).followedBy (similar_processBlocks _ key direction _ fun some => ?_)
    have more : rest ≠ [] := by
      intro none
      exact some (by rw [none, Block.complete_short (by decide)])
    rw [session.leftoverLength_processBytes fits]
    exact session.aligned_of_drop_room fits more
  have length := session.leftoverLength_processBytes fits key direction
    (data.take session.room ++ whole)
  rw [← blocks.sessions.leftoverLength] at length
  have begun := begin_eq _ key direction (Block.incomplete rest)
    (fun some => by
      have more : rest ≠ [] := by
        intro none
        exact some (by rw [none, Block.incomplete_short (by decide)])
      have aligned := session.aligned_of_drop_room fits more
      rw [length, List.length_append, Block.length_flatMap_toList]
      omega)
    (by
      rw [Block.length_incomplete]
      omega)
  have last := similar_processBytes blocks.sessions (by omega) key direction (Block.incomplete rest)
  rw [← begun] at last
  have bytes : session.processBytes key direction data =
      followedBy (session.processBytes key direction (data.take session.room ++ whole))
        fun next => next.processBytes key direction (Block.incomplete rest) := by
    rw [← processBytes_append, Block.take_append_blocks]
  rw [processParts, bytes]
  exact blocks.followedBy last

theorem similar_process (session : Session) (fits : session.leftoverLength ≤ 15) (key : Key)
    (direction : Direction) (data : Bytes) :
    SimilarResults (session.process key direction data)
      (session.processBytes key direction data) := by
  have parts := session.similar_processParts fits key direction data
  rw [process_eq]
  exact {
    sessions := ⟨parts.sessions.hash, parts.sessions.preCounter, parts.sessions.counter,
      parts.sessions.keystream, parts.sessions.leftover, parts.sessions.leftoverLength,
      parts.sessions.aadLength⟩
    output := parts.output
    calls := (Traced.calls_map _ _).trans parts.calls }

theorem leftoverLength_process (session : Session) (fits : session.leftoverLength ≤ 15) (key : Key)
    (direction : Direction) (data : Bytes) :
    (session.process key direction data).value.1.leftoverLength ≤ 15 := by
  have sessions := (session.similar_process fits key direction data).sessions
  have length := session.leftoverLength_processBytes fits key direction data
  rw [← sessions.leftoverLength] at length
  omega

theorem count_process (session : Session) (key : Key) (direction : Direction) (data : Bytes) :
    (session.process key direction data).value.1.textLength =
      session.textLength + UInt64.ofNat data.length := by
  rw [process_eq]
  change _ + UInt64.ofNat data.length = _
  rw [(session.passes_processParts key direction data).textLength]

theorem Similar.process {first second : Session} (similar : Similar first second)
    (fits : first.leftoverLength ≤ 15) (key : Key) (direction : Direction) (data : Bytes) :
    SimilarResults (first.process key direction data) (second.process key direction data) ∧
      Similar (first.process key direction data).value.1
        (second.process key direction data).value.1 := by
  have otherFits : second.leftoverLength ≤ 15 := similar.leftoverLength ▸ fits
  have results := (first.similar_process fits key direction data).trans
    ((similar_processBytes similar.toSimilarUncounted fits key direction data).trans
      (second.similar_process otherFits key direction data).symm)
  refine ⟨results, results.sessions, ?_⟩
  rw [count_process, count_process, similar.textLength]

theorem similar_process_append (session : Session) (fits : session.leftoverLength ≤ 15) (key : Key)
    (direction : Direction) (first second : Bytes) :
    let whole := session.process key direction (first ++ second)
    let pieces := followedBy (session.process key direction first) fun next =>
      next.process key direction second
    SimilarResults whole pieces ∧ Similar whole.value.1 pieces.value.1 := by
  intro whole pieces
  have head := session.similar_process fits key direction first
  have headFits := session.leftoverLength_process fits key direction first
  have tail := (session.process key direction first).value.1.similar_process headFits key direction
    second
  have bytes : SimilarResults pieces (session.processBytes key direction (first ++ second)) := by
    rw [processBytes_append]
    exact head.followedBy
      (tail.trans (similar_processBytes head.sessions headFits key direction second))
  have results := (session.similar_process fits key direction (first ++ second)).trans bytes.symm
  refine ⟨results, results.sessions, ?_⟩
  have count : pieces.value.1.textLength =
      session.textLength + UInt64.ofNat first.length + UInt64.ofNat second.length := by
    change ((session.process key direction first).value.1.process key direction
      second).value.1.textLength = _
    rw [count_process, count_process]
  rw [count, count_process, List.length_append, UInt64.ofNat_add, UInt64.add_assoc]

theorem Similar.tagBlock {first second : Session} (similar : Similar first second) (key : Key) :
    first.tagBlock key = second.tagBlock key := by
  rw [Session.tagBlock, Session.tagBlock, similar.hash, similar.leftover, similar.aadLength,
    similar.textLength, similar.preCounter]

end Session

end GaloisCounter
