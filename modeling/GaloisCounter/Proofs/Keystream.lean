import GaloisCounter.Counter
import GaloisCounter.Proofs.Blocks
import Mathlib.Logic.Function.Iterate

/-!
Counter blocks by their number, and the keystream by byte position.

The text at position `p` of a message is masked with byte `p % 16` of the encrypted counter block
number `p / 16 + 1` after J0. Pieces of a text are masked alike, each from its own position on.
-/

namespace GaloisCounter

namespace Counter

/-! ## The counting bytes -/

def fixed (block : Block) : Bytes := block.toList.take 12

def number (block : Block) : Nat := Bytes.bigEndian (block.toList.drop 12)

theorem capacity_four : Bytes.capacity 4 = 4294967296 := by decide

theorem number_lt (block : Block) : number block < Bytes.capacity 4 := by
  have bound := Bytes.bigEndian_lt (block.toList.drop 12)
  rwa [List.length_drop, Block.length_toList] at bound

theorem toList_increment (block : Block) :
    (increment block).toList = fixed block ++ Bytes.toBigEndian 4 (number block + 1) := by
  apply Block.toList_ofBytes
  simp

theorem fixed_increment (block : Block) : fixed (increment block) = fixed block := by
  have length : (fixed block).length = 12 := by simp [fixed]
  rw [fixed, toList_increment, List.take_left' length]

theorem number_increment (block : Block) :
    number (increment block) = (number block + 1) % Bytes.capacity 4 := by
  have length : (fixed block).length = 12 := by simp [fixed]
  rw [number, toList_increment, List.drop_left' length, Bytes.bigEndian_toBigEndian]

theorem fixed_iterate (block : Block) (count : Nat) :
    fixed (increment^[count] block) = fixed block := by
  induction count with
  | zero => rfl
  | succ count induction => rw [Function.iterate_succ_apply', fixed_increment, induction]

theorem number_iterate (block : Block) (count : Nat) :
    number (increment^[count] block) = (number block + count) % Bytes.capacity 4 := by
  induction count with
  | zero => exact (Nat.mod_eq_of_lt (number_lt block)).symm
  | succ count induction =>
      rw [Function.iterate_succ_apply', number_increment, induction, Nat.mod_add_mod, Nat.add_assoc]

theorem iterate_injective (block : Block) {left right : Nat} (leftSmall : left < Bytes.capacity 4)
    (rightSmall : right < Bytes.capacity 4)
    (equal : increment^[left] block = increment^[right] block) : left = right := by
  have numbers := congrArg number equal
  have bound := number_lt block
  rw [number_iterate, number_iterate] at numbers
  rw [capacity_four] at leftSmall rightSmall bound numbers
  omega

end Counter

namespace Keystream

variable {Key : Type} [BlockCipher Key] (key : Key) (preCounter : Block)

/-! ## Bytes by position -/

def byte (position : Nat) : UInt8 :=
  (BlockCipher.encrypt key (Counter.increment^[position / 16 + 1] preCounter))[position % 16]

/-- What data becomes that stands at a position of a message. -/
def mask (position : Nat) (data : Bytes) : Bytes :=
  data.mapIdx fun index value => value ^^^ byte key preCounter (position + index)

@[simp] theorem length_mask (position : Nat) (data : Bytes) :
    (mask key preCounter position data).length = data.length := by
  simp [mask]

theorem mask_append (position : Nat) (first second : Bytes) :
    mask key preCounter position (first ++ second) =
      mask key preCounter position first ++
        mask key preCounter (position + first.length) second := by
  rw [mask, List.mapIdx_append, mask, mask]
  congr 2
  funext index value
  rw [Nat.add_assoc, Nat.add_comm first.length]

theorem mask_mask (position : Nat) (data : Bytes) :
    mask key preCounter position (mask key preCounter position data) = data := by
  apply List.ext_getElem
  · simp
  · intro index _ _
    simp only [mask, List.getElem_mapIdx]
    exact Block.byte_xor_xor _ _

theorem mask_within {position : Nat} {data : Bytes} (within : position % 16 + data.length ≤ 16) :
    Bytes.mask data
        ((BlockCipher.encrypt key (Counter.increment^[position / 16 + 1] preCounter)).toList.drop
          (position % 16)) =
      mask key preCounter position data := by
  have enough : data.length ≤ 16 - position % 16 := by omega
  apply List.ext_getElem
  · simp
  · intro index inside _
    rw [Bytes.length_mask] at inside
    have quotient : (position + index) / 16 = position / 16 := by omega
    have remainder : (position + index) % 16 = position % 16 + index := by omega
    have masked : index < (data.zipWith (· ^^^ ·)
        ((BlockCipher.encrypt key (Counter.increment^[position / 16 + 1] preCounter)).toList.drop
          (position % 16))).length := by
      simp
      omega
    simp only [Bytes.mask, mask, List.getElem_append_left masked, List.getElem_mapIdx, byte,
      quotient, remainder]
    simp

theorem mask_block {position : Nat} (aligned : position % 16 = 0) (block : Block) :
    (block.xor
      (BlockCipher.encrypt key (Counter.increment^[position / 16 + 1] preCounter))).toList =
      mask key preCounter position block.toList := by
  apply List.ext_getElem
  · simp
  · intro index inside _
    rw [Block.length_toList] at inside
    have quotient : (position + index) / 16 = position / 16 := by omega
    have remainder : (position + index) % 16 = index := by omega
    simp only [mask, List.getElem_mapIdx, byte, quotient, remainder]
    simp [Block.xor]

/-! ## Counter blocks in use -/

def begun (length : Nat) : Nat := (length + 15) / 16

theorem begun_mono {start stop : Nat} (ordered : start ≤ stop) : begun start ≤ begun stop :=
  Nat.div_le_div_right (Nat.add_le_add_right ordered 15)

theorem begun_of_whole {length : Nat} (whole : length % 16 = 0) : begun length = length / 16 := by
  rw [begun]
  omega

theorem begun_of_incomplete {length : Nat} (incomplete : length % 16 ≠ 0) :
    begun length = length / 16 + 1 := by
  rw [begun]
  omega

/-- The counter blocks of a text from one length to another. A block belongs to the length at which
it is begun. -/
def counters (start stop : Nat) : List Block :=
  (List.range' (begun start) (begun stop - begun start)).map fun index =>
    Counter.increment^[index + 1] preCounter

theorem counters_of_begun_eq {start stop : Nat} (none : begun stop = begun start) :
    counters preCounter start stop = [] := by
  rw [counters, none, Nat.sub_self]
  rfl

theorem counters_of_incomplete {start count : Nat} (incomplete : start % 16 ≠ 0)
    (within : start % 16 + count ≤ 16) : counters preCounter start (start + count) = [] := by
  apply counters_of_begun_eq
  rw [begun_of_incomplete incomplete, begun]
  omega

theorem counters_of_whole {start count : Nat} (whole : start % 16 = 0) (some : 0 < count)
    (within : count ≤ 16) :
    counters preCounter start (start + count) =
      [Counter.increment^[start / 16 + 1] preCounter] := by
  have more : begun (start + count) = start / 16 + 1 := by
    rw [begun]
    omega
  rw [counters, more, begun_of_whole whole, Nat.add_sub_cancel_left, List.range'_one,
    List.map_singleton]

theorem counters_append {start middle stop : Nat} (first : start ≤ middle)
    (second : middle ≤ stop) :
    counters preCounter start middle ++ counters preCounter middle stop =
      counters preCounter start stop := by
  have lower := begun_mono first
  have upper := begun_mono second
  have rest : begun middle = begun start + (begun middle - begun start) := by omega
  have total : begun stop - begun start =
      (begun middle - begun start) + (begun stop - begun middle) := by omega
  rw [counters, counters, counters, ← List.map_append, total, ← List.range'_append_1, ← rest]

end Keystream

end GaloisCounter
