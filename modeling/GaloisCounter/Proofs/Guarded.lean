import GaloisCounter.Context.Run
import GaloisCounter.Proofs.Bytewise

/-!
The calls with every step guarded.

A guarded call does what the call does, but moves through its data by positions and fails where a
number does not fit 64 bits, where a difference is negative, or where a position is out of range.
For a session the guards hold as long as the incomplete block is short of a block and the counts fit.
-/

namespace GaloisCounter

/-! ## Guards -/

namespace Guarded

def word (number : Nat) : Option UInt64 :=
  if number < UInt64.size then some (UInt64.ofNat number) else none

def difference (left right : Nat) : Option Nat :=
  if right ≤ left then some (left - right) else none

def slice (bytes : Bytes) (start stop : Nat) : Option Bytes :=
  if start ≤ stop ∧ stop ≤ bytes.length then some ((bytes.take stop).drop start) else none

def load (block : Block) (index : Nat) : Option UInt8 :=
  if inside : index < 16 then some block[index] else none

def store (block : Block) (index : Nat) (byte : UInt8) : Option Block :=
  if inside : index < 16 then some (block.set index byte) else none

example : slice [1, 2] 1 3 = none := rfl

theorem word_eq_some_iff {number : Nat} {value : UInt64} :
    word number = some value ↔ value.toNat = number := by
  unfold word
  constructor
  · intro found
    split at found
    · next fits =>
      rw [← Option.some.inj found]
      exact UInt64.toNat_ofNat_of_lt' fits
    · cases found
  · intro same
    rw [← same, if_pos value.toNat_lt_size, UInt64.ofNat_toNat]

theorem word_of_fits {number : Nat} (fits : number < UInt64.size) :
    word number = some (UInt64.ofNat number) :=
  if_pos fits

theorem word_eq_none_iff {number : Nat} : word number = none ↔ UInt64.size ≤ number := by
  unfold word
  split
  · next fits => simp [fits]
  · next beyond => simp [Nat.le_of_not_lt beyond]

theorem word_sum {left right : UInt64} (fits : left.toNat + right.toNat < UInt64.size) :
    word (left.toNat + right.toNat) = some (left + right) := by
  rw [word_eq_some_iff, UInt64.toNat_add]
  exact Nat.mod_eq_of_lt fits

theorem word_bits {bytes : UInt64} (fits : bytes.toNat * 8 < UInt64.size) :
    word (bytes.toNat * 8) = some (bytes * 8) := by
  rw [word_eq_some_iff, UInt64.toNat_mul]
  exact Nat.mod_eq_of_lt fits

theorem difference_eq_some_iff {left right value : Nat} :
    difference left right = some value ↔ right ≤ left ∧ value = left - right := by
  unfold difference
  constructor
  · intro found
    split at found
    · next within => exact ⟨within, (Option.some.inj found).symm⟩
    · cases found
  · intro exactly
    rw [exactly.2]
    exact if_pos exactly.1

theorem slice_of_inside {bytes : Bytes} {start stop : Nat} (ordered : start ≤ stop)
    (inside : stop ≤ bytes.length) :
    slice bytes start stop = some ((bytes.take stop).drop start) :=
  if_pos ⟨ordered, inside⟩

theorem slice_front {bytes : Bytes} {stop : Nat} (inside : stop ≤ bytes.length) :
    slice bytes 0 stop = some (bytes.take stop) :=
  slice_of_inside (Nat.zero_le stop) inside

theorem slice_back {bytes : Bytes} {start : Nat} (inside : start ≤ bytes.length) :
    slice bytes start bytes.length = some (bytes.drop start) := by
  rw [slice_of_inside inside (Nat.le_refl _), List.take_length]

theorem load_of_inside (block : Block) {index : Nat} (inside : index < 16) :
    load block index = some block[index] :=
  dif_pos inside

theorem store_of_inside (block : Block) {index : Nat} (inside : index < 16) (byte : UInt8) :
    store block index byte = some (block.set index byte) :=
  dif_pos inside

end Guarded

/-! ## Sessions -/

namespace Session

variable {Key : Type} [BlockCipher Key]

def maskGuarded (session : Session) (direction : Direction) : Bytes → Option (Session × Bytes)
  | [] => some (session, [])
  | input :: rest => do
      let key ← Guarded.load session.keystream session.leftoverLength
      let output := input ^^^ key
      let leftover ← Guarded.store session.leftover session.leftoverLength
        (direction.ciphertext input output)
      let next := { session with leftover, leftoverLength := session.leftoverLength + 1 }
      let (last, outputs) ← next.maskGuarded direction rest
      return (last, output :: outputs)

/-- Continues a block that is already begun, and gives the position of the text after it. -/
def resumeGuarded (session : Session) (direction : Direction) (data : Bytes) :
    Option (Session × Bytes × Nat) :=
  if session.leftoverLength = 0 then
    return (session, [], 0)
  else do
    let room ← Guarded.difference 16 session.leftoverLength
    let taken := min room data.length
    let front ← Guarded.slice data 0 taken
    let (filled, output) ← session.maskGuarded direction front
    return (filled.absorbLeftover, output, taken)

/-- Processes the complete blocks from a position on, and gives the position after them. -/
def processBlocksGuarded (session : Session) (key : Key) (direction : Direction) (data : Bytes)
    (position : Nat) : Option (Session × Bytes × Nat) :=
  match _ : Guarded.difference data.length position with
  | none => none
  | some remaining =>
      if 16 ≤ remaining then do
        let chunk ← Guarded.slice data position (position + 16)
        let (next, output) := (session.processBlock key direction (Block.ofBytes chunk)).value
        let (last, outputs, stop) ← next.processBlocksGuarded key direction data (position + 16)
        return (last, output.toList ++ outputs, stop)
      else
        return (session, [], position)
termination_by data.length - position
decreasing_by
  have within :=
    Guarded.difference_eq_some_iff.mp ‹Guarded.difference data.length position = some remaining›
  omega

def beginGuarded (session : Session) (key : Key) (direction : Direction) (data : Bytes)
    (position : Nat) : Option (Session × Bytes) :=
  if position < data.length then do
    let (keystream, counter) := (session.counter.keystream key).value
    let back ← Guarded.slice data position data.length
    { session with keystream, counter }.maskGuarded direction back
  else
    return (session, [])

def processGuarded (session : Session) (key : Key) (direction : Direction) (data : Bytes) :
    Option (Session × Bytes) := do
  let (resumed, first, start) ← session.resumeGuarded direction data
  let (advanced, middle, stop) ← resumed.processBlocksGuarded key direction data start
  let (begun, last) ← advanced.beginGuarded key direction data stop
  let length ← Guarded.word data.length
  let textLength ← Guarded.word (begun.textLength.toNat + length.toNat)
  return ({ begun with textLength }, first ++ middle ++ last)

def tagBlockGuarded (session : Session) (key : Key) : Option Block := do
  let tail ← Guarded.slice session.leftover.toList 0 session.leftoverLength
  let aadBits ← Guarded.word (session.aadLength.toNat * 8)
  let textBits ← Guarded.word (session.textLength.toNat * 8)
  let hash := (session.hash.absorbPadded tail).absorbLengths aadBits textBits
  return (Tag.blockOf key session.preCounter hash.value).value

end Session

def preCounterBlockGuarded (subkey : Block) (backend : Backend) (iv : Bytes) : Option Block :=
  if iv.length = 12 then
    return Block.ofBytes (iv ++ Bytes.toBigEndian 4 1)
  else do
    let length ← Guarded.word iv.length
    let bits ← Guarded.word (length.toNat * 8)
    return GHash.digest subkey backend iv 0 bits

def Session.startGuarded [BlockCipher Key] (key : Key) (backend : Backend) (iv aad : Bytes) :
    Option Session := do
  let subkey := BlockCipher.encrypt key Block.zero
  let first ← preCounterBlockGuarded subkey backend iv
  let aadLength ← Guarded.word aad.length
  return {
    hash := (GHash.start subkey backend).absorbPadded aad
    preCounter := first
    counter := Counter.start first
    keystream := Block.zero
    leftover := Block.zero
    leftoverLength := 0
    aadLength := aadLength
    textLength := 0 }

/-! ## Guards that hold -/

theorem Block.overwrite_singleton (block : Block) {index : Nat} (inside : index < 16)
    (byte : UInt8) : block.overwrite index [byte] = block.set index byte := by
  ext place bound
  by_cases same : index = place
  · simp [overwrite, same]
  · by_cases after : index ≤ place
    · have beyond : place - index ≠ 0 := by omega
      simp [overwrite, same, after, List.getElem?_singleton, beyond]
    · simp [overwrite, same, after]

theorem Bytes.mask_singleton (byte : UInt8) (keystream : Block) {index : Nat}
    (inside : index < 16) :
    mask [byte] (keystream.toList.drop index) = [byte ^^^ keystream[index]] := by
  have bound : index < keystream.toList.length := by
    rw [Block.length_toList]
    exact inside
  rw [List.drop_eq_getElem_cons bound]
  simp [mask]

namespace Session

variable {Key : Type} [BlockCipher Key] (session : Session)

theorem maskPartial_singleton (direction : Direction) (input : UInt8)
    (inside : session.leftoverLength < 16) :
    session.maskPartial direction [input] =
      let output := input ^^^ session.keystream[session.leftoverLength]
      ({ session with
          leftover := session.leftover.set session.leftoverLength
            (direction.ciphertext input output)
          leftoverLength := session.leftoverLength + 1 },
        [output]) := by
  have ciphertext (output : UInt8) :
      direction.ciphertext [input] [output] = [direction.ciphertext input output] := by
    cases direction <;> rfl
  rw [maskPartial, Bytes.mask_singleton input session.keystream inside]
  dsimp only
  rw [ciphertext, Block.overwrite_singleton _ inside, List.length_singleton]

theorem maskGuarded_eq (direction : Direction) (data : Bytes)
    (within : session.leftoverLength + data.length ≤ 16) :
    session.maskGuarded direction data = some (session.maskPartial direction data) := by
  -- Each byte has a place in the block before the next is masked.
  induction data generalizing session with
  | nil => rw [maskGuarded, maskPartial_nil]
  | cons input rest induction =>
      rw [List.length_cons] at within
      have inside : session.leftoverLength < 16 := by omega
      have first := session.maskPartial_singleton direction input inside
      have all := session.maskPartial_append direction [input] rest
      rw [List.singleton_append, first] at all
      have later := induction
        { session with
          leftover := session.leftover.set session.leftoverLength
            (direction.ciphertext input (input ^^^ session.keystream[session.leftoverLength]))
          leftoverLength := session.leftoverLength + 1 }
        (by dsimp only; omega)
      simp only [maskGuarded, Guarded.load_of_inside _ inside, Guarded.store_of_inside _ inside,
        Option.bind_eq_bind, Option.bind_some]
      rw [later, all]
      rfl

theorem resumeGuarded_eq (direction : Direction) (data : Bytes)
    (fits : session.leftoverLength ≤ 15) :
    session.resumeGuarded direction data =
      some ((session.resume direction data).1, (session.resume direction data).2,
        min session.room data.length) := by
  by_cases fresh : session.leftoverLength = 0
  · rw [resumeGuarded, resume, room, if_pos fresh, if_pos fresh, if_pos fresh, Nat.zero_min]
    rfl
  · have room : session.room = 16 - session.leftoverLength := if_neg fresh
    have front : data.take (min session.room data.length) = data.take session.room :=
      List.take_eq_take_min.symm
    have within : session.leftoverLength + (data.take session.room).length ≤ 16 := by
      rw [List.length_take]
      omega
    have difference := Guarded.difference_eq_some_iff.mpr
      ⟨(by omega : session.leftoverLength ≤ 16), room⟩
    rw [resumeGuarded, resume, if_neg fresh, if_neg fresh, difference]
    simp only [Option.bind_eq_bind, Option.bind_some]
    rw [Guarded.slice_front (Nat.min_le_right _ _), front, Option.bind_some,
      session.maskGuarded_eq direction _ within]
    rfl

section

variable (key : Key) (direction : Direction) {data : Bytes} {position : Nat}

theorem processBlocksGuarded_of_inside (inside : position ≤ data.length) :
    session.processBlocksGuarded key direction data position =
      if 16 ≤ data.length - position then do
        let chunk ← Guarded.slice data position (position + 16)
        let (next, output) := (session.processBlock key direction (Block.ofBytes chunk)).value
        let (last, outputs, stop) ← next.processBlocksGuarded key direction data (position + 16)
        return (last, output.toList ++ outputs, stop)
      else
        return (session, [], position) := by
  have difference := Guarded.difference_eq_some_iff.mpr ⟨inside, rfl⟩
  rw [processBlocksGuarded]
  split
  · next none =>
    rw [difference] at none
    cases none
  · next remaining found =>
    rw [(Guarded.difference_eq_some_iff.mp found).2]

theorem processBlocksGuarded_of_enough (enough : position + 16 ≤ data.length) :
    session.processBlocksGuarded key direction data position = (do
      let (next, output) := (session.processBlock key direction
        (Block.ofBytes (data.drop position))).value
      let (last, outputs, stop) ← next.processBlocksGuarded key direction data (position + 16)
      return (last, output.toList ++ outputs, stop)) := by
  have chunk : Guarded.slice data position (position + 16) =
      some ((data.drop position).take 16) := by
    rw [Guarded.slice_of_inside (Nat.le_add_right position 16) enough, List.drop_take,
      Nat.add_sub_cancel_left]
  have block : Block.ofBytes ((data.drop position).take 16) =
      Block.ofBytes (data.drop position) := by
    have whole : ((data.drop position).take 16).length = 16 := by
      rw [List.length_take, List.length_drop]
      omega
    rw [← Block.ofBytes_append whole ((data.drop position).drop 16), List.take_append_drop]
  rw [session.processBlocksGuarded_of_inside key direction (by omega), if_pos (by omega), chunk,
    ← block]
  rfl

theorem processBlocksGuarded_eq (inside : position ≤ data.length) :
    session.processBlocksGuarded key direction data position =
      let rest := data.drop position
      let result := (session.processBlocks key direction (Block.complete rest)).value
      some (result.1, result.2, position + rest.length / 16 * 16) := by
  dsimp only
  -- On the number of complete blocks from the position on.
  induction count : (data.length - position) / 16 generalizing session position with
  | zero =>
      have short : (data.drop position).length < 16 := by
        rw [List.length_drop]
        omega
      rw [session.processBlocksGuarded_of_inside key direction inside, if_neg (by omega),
        Block.complete_short short, List.length_drop, count, Nat.zero_mul]
      rfl
  | succ count induction =>
      have enough : position + 16 ≤ data.length := by omega
      have long : 16 ≤ (data.drop position).length := by
        rw [List.length_drop]
        omega
      have later (next : Session) := induction next enough (by omega)
      rw [session.processBlocksGuarded_of_enough key direction enough, Block.complete, if_pos long,
        List.drop_drop, processBlocks]
      dsimp only
      rw [later]
      have stop : position + 16 + (data.drop (position + 16)).length / 16 * 16 =
          position + (data.drop position).length / 16 * 16 := by
        rw [List.length_drop, List.length_drop]
        omega
      rw [stop]
      rfl

theorem beginGuarded_eq (inside : position ≤ data.length) (short : data.length < position + 16)
    (fresh : position < data.length → session.leftoverLength = 0) :
    session.beginGuarded key direction data position =
      some (session.begin key direction (data.drop position)).value := by
  by_cases more : position < data.length
  · have some : (data.drop position).isEmpty = false := by
      rw [List.isEmpty_eq_false_iff, List.ne_nil_iff_length_pos, List.length_drop]
      omega
    have within : session.leftoverLength + (data.drop position).length ≤ 16 := by
      rw [fresh more, List.length_drop]
      omega
    let drawn : Session := { session with
      keystream := (session.counter.keystream key).value.1
      counter := (session.counter.keystream key).value.2 }
    have masked := drawn.maskGuarded_eq direction _ within
    rw [beginGuarded, if_pos more, begin, some, Guarded.slice_back inside]
    exact masked
  · have none : data.drop position = [] := List.drop_eq_nil_of_le (by omega)
    rw [beginGuarded, if_neg more, none]
    rfl

theorem leftoverLength_processBlocks (blocks : List Block) :
    (session.processBlocks key direction blocks).value.1.leftoverLength =
      session.leftoverLength := by
  induction blocks generalizing session with
  | nil => rfl
  | cons block rest induction =>
      have first : (session.processBlock key direction block).value.1.leftoverLength =
          session.leftoverLength := rfl
      exact (induction (session.processBlock key direction block).value.1).trans first

theorem leftoverLength_resume (fits : session.leftoverLength ≤ 15)
    (more : session.room < data.length) :
    (session.resume direction data).1.leftoverLength = 0 := by
  by_cases fresh : session.leftoverLength = 0
  · rw [resume, if_pos fresh]
    exact fresh
  · have room : session.room = 16 - session.leftoverLength := if_neg fresh
    have whole : session.leftoverLength + (data.take session.room).length = 16 := by
      rw [List.length_take]
      omega
    have filled := session.leftoverLength_fill direction (data.take session.room)
    rw [if_pos whole] at filled
    rw [resume, if_neg fresh]
    exact filled

theorem processGuarded_eq (fits : session.leftoverLength ≤ 15)
    (counted : session.textLength.toNat + data.length < UInt64.size) :
    session.processGuarded key direction data =
      some (session.process key direction data).value := by
  let rest := data.drop session.room
  let start := min session.room data.length
  have inside : start ≤ data.length := Nat.min_le_right _ _
  have fromStart : data.drop start = rest := List.drop_eq_drop_min.symm
  have remaining : rest.length = data.length - start := by
    rw [← fromStart, List.length_drop]
  let resumed := session.resume direction data
  let advanced := (resumed.1.processBlocks key direction (Block.complete rest)).value
  let stop := start + rest.length / 16 * 16
  have stopInside : stop ≤ data.length := by omega
  have fromStop : data.drop stop = Block.incomplete rest := by
    rw [Block.incomplete, ← fromStart, List.drop_drop, fromStart]
  have blocks := resumed.1.processBlocksGuarded_eq key direction inside
  rw [fromStart] at blocks
  -- The bytes after the complete blocks get a block of their own.
  have fresh : stop < data.length → advanced.1.leftoverLength = 0 := by
    intro more
    rw [leftoverLength_processBlocks]
    exact session.leftoverLength_resume direction fits (by omega)
  have begun := advanced.1.beginGuarded_eq key direction stopInside (by omega) fresh
  rw [fromStop] at begun
  let last := (advanced.1.begin key direction (Block.incomplete rest)).value
  have text : last.1.textLength = session.textLength :=
    (advanced.1.passes_begin key direction _).textLength.trans
      ((resumed.1.passes_processBlocks key direction _).textLength.trans
        (session.passes_resume direction data).textLength)
  have length : Guarded.word data.length = some (UInt64.ofNat data.length) :=
    Guarded.word_of_fits (by omega)
  have total : Guarded.word (last.1.textLength.toNat + (UInt64.ofNat data.length).toNat) =
      some (last.1.textLength + UInt64.ofNat data.length) := by
    apply Guarded.word_sum
    rw [text, Guarded.word_eq_some_iff.mp length]
    exact counted
  simp only [processGuarded, session.resumeGuarded_eq direction data fits, Option.bind_eq_bind,
    Option.bind_some]
  rw [blocks]
  dsimp only [Option.bind_some]
  rw [begun, Option.bind_some, length, Option.bind_some, total]
  rfl

end

structure InBounds : Prop where
  leftoverLength : session.leftoverLength ≤ 15
  aadBits : session.aadLength.toNat * 8 < UInt64.size
  textBits : session.textLength.toNat * 8 < UInt64.size

theorem tagBlockGuarded_eq (bounds : session.InBounds) (key : Key) :
    session.tagBlockGuarded key = some (session.tagBlock key).value := by
  have inside : session.leftoverLength ≤ session.leftover.toList.length := by
    rw [Block.length_toList]
    exact Nat.le_succ_of_le bounds.leftoverLength
  rw [tagBlockGuarded, Guarded.slice_front inside, Guarded.word_bits bounds.aadBits,
    Guarded.word_bits bounds.textBits]
  rfl

end Session

theorem preCounterBlockGuarded_eq (subkey : Block) (backend : Backend) {iv : Bytes}
    (fits : iv.length * 8 < UInt64.size) :
    preCounterBlockGuarded subkey backend iv = some (preCounterBlock subkey backend iv) := by
  have length : Guarded.word iv.length = some (UInt64.ofNat iv.length) :=
    Guarded.word_of_fits (by omega)
  have bits : Guarded.word ((UInt64.ofNat iv.length).toNat * 8) =
      some (UInt64.ofNat iv.length * 8) := by
    apply Guarded.word_bits
    rw [Guarded.word_eq_some_iff.mp length]
    exact fits
  rw [preCounterBlockGuarded, preCounterBlock, length]
  split
  · rfl
  · rw [Option.bind_eq_bind, Option.bind_some, bits]
    rfl

theorem Session.startGuarded_eq {Key : Type} [BlockCipher Key] (key : Key) (backend : Backend)
    {iv aad : Bytes} (ivFits : iv.length * 8 < UInt64.size) (aadFits : aad.length < UInt64.size) :
    startGuarded key backend iv aad = some (start key backend iv aad).value := by
  rw [startGuarded, preCounterBlockGuarded_eq _ backend ivFits, Guarded.word_of_fits aadFits]
  rfl

end GaloisCounter
