import GaloisCounter.Bytes

/-!
Blocks of sixteen bytes, and byte strings cut into blocks.
-/

namespace GaloisCounter

abbrev Block := Vector UInt8 16

namespace Block

/-- The block that starts with `bytes` and goes on with zeros. Bytes past the sixteenth are
dropped. -/
def ofBytes (bytes : Bytes) : Block :=
  Vector.ofFn fun index => bytes.getD index 0

def zero : Block := Vector.replicate 16 0

def xor (left right : Block) : Block := Vector.ofFn fun index => left[index] ^^^ right[index]

/-- Replaces the bytes from `start` on by `bytes`, as far as the block reaches. -/
def overwrite (block : Block) (start : Nat) (bytes : Bytes) : Block :=
  Vector.ofFn fun index =>
    if start ≤ index then bytes.getD (index - start) block[index] else block[index]

@[simp] theorem length_toList (block : Block) : block.toList.length = 16 := by simp

theorem ofBytes_toList (block : Block) : ofBytes block.toList = block := by
  ext index bound
  simp [ofBytes]

theorem toList_ofBytes {bytes : Bytes} (whole : bytes.length = 16) :
    (ofBytes bytes).toList = bytes := by
  apply List.ext_getElem
  · simp [whole]
  · intro index _ bound
    simp [ofBytes, bound]

/-! ## Cutting byte strings -/

/-- The blocks of a byte string. A last incomplete block is filled up with zeros. -/
def padded (bytes : Bytes) : List Block :=
  match bytes with
  | [] => []
  | first :: rest => ofBytes (first :: rest) :: padded ((first :: rest).drop 16)
termination_by bytes.length

def complete (bytes : Bytes) : List Block :=
  if 16 ≤ bytes.length then ofBytes bytes :: complete (bytes.drop 16) else []
termination_by bytes.length

def incomplete (bytes : Bytes) : Bytes :=
  bytes.drop (bytes.length / 16 * 16)

theorem length_complete (bytes : Bytes) : (complete bytes).length = bytes.length / 16 := by
  fun_induction complete bytes with
  | case1 bytes enough induction =>
      rw [List.length_cons, induction, List.length_drop]
      omega
  | case2 bytes short =>
      rw [List.length_nil]
      omega

theorem length_incomplete (bytes : Bytes) : (incomplete bytes).length = bytes.length % 16 := by
  rw [incomplete, List.length_drop]
  omega

end Block

end GaloisCounter
