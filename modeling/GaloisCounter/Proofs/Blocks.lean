import GaloisCounter.Block

/-!
How byte strings that follow each other are cut into blocks.

What is complete in the first string stays as it is, and its incomplete bytes are continued by the
second.
-/

namespace GaloisCounter.Block

/-! ## Blocks as byte strings -/

theorem ofBytes_append {bytes : Bytes} (whole : bytes.length = 16) (rest : Bytes) :
    ofBytes (bytes ++ rest) = ofBytes bytes := by
  ext index bound
  have inside : index < bytes.length := by omega
  simp [ofBytes, List.getElem?_append_left inside]

theorem toList_ofBytes_of_le {bytes : Bytes} (enough : 16 ≤ bytes.length) :
    (ofBytes bytes).toList = bytes.take 16 := by
  have whole : (bytes.take 16).length = 16 := by
    rw [List.length_take]
    omega
  calc (ofBytes bytes).toList
      = (ofBytes (bytes.take 16 ++ bytes.drop 16)).toList := by rw [List.take_append_drop]
    _ = bytes.take 16 := by rw [ofBytes_append whole, toList_ofBytes whole]

theorem ofBytes_toList_append (block : Block) (rest : Bytes) :
    ofBytes (block.toList ++ rest) = block := by
  rw [ofBytes_append block.length_toList, ofBytes_toList]

theorem ofBytes_append_zeros (bytes : Bytes) (count : Nat) :
    ofBytes (bytes ++ List.replicate count 0) = ofBytes bytes := by
  ext index bound
  by_cases inside : index < bytes.length
  · simp [ofBytes, List.getElem?_append_left inside]
  · have outside : bytes.length ≤ index := by omega
    simp only [ofBytes, Vector.getElem_ofFn, List.getD_eq_getElem?_getD,
      List.getElem?_append_right outside, List.getElem?_eq_none outside]
    rw [List.getElem?_replicate]
    split <;> rfl

theorem byte_xor_xor (byte value : UInt8) : (byte ^^^ value) ^^^ value = byte := by
  rw [UInt8.xor_assoc, UInt8.xor_self, UInt8.xor_zero]

theorem xor_xor (block keystream : Block) : (block.xor keystream).xor keystream = block := by
  refine Vector.ext fun index bound => ?_
  have same := byte_xor_xor block[index] keystream[index]
  simpa only [xor, Vector.getElem_ofFn, Fin.getElem_fin] using same

theorem toList_xor (left right : Block) :
    (left.xor right).toList = left.toList.zipWith (· ^^^ ·) right.toList := by
  apply List.ext_getElem
  · simp
  · intro index _ _
    simp [xor]

theorem take_overwrite (block : Block) {start : Nat} {bytes : Bytes}
    (fits : start + bytes.length ≤ 16) :
    (block.overwrite start bytes).toList.take (start + bytes.length) =
      block.toList.take start ++ bytes := by
  apply List.ext_getElem
  · simp
    omega
  · intro index inside _
    have bound : index < 16 := by
      rw [List.length_take] at inside
      omega
    by_cases before : index < start
    · have notAfter : ¬start ≤ index := by omega
      rw [List.getElem_append_left (by simp; omega)]
      simp [overwrite, notAfter]
    · have after : start ≤ index := by omega
      have offset : index - start < bytes.length := by
        rw [List.length_take] at inside
        omega
      have prefixLength : (block.toList.take start).length = start := by
        rw [List.length_take, length_toList]
        omega
      rw [List.getElem_append_right (by omega)]
      simp only [prefixLength]
      simp [overwrite, after, List.getElem?_eq_getElem offset]

/-! ## Complete blocks and what is left -/

theorem complete_short {bytes : Bytes} (short : bytes.length < 16) : complete bytes = [] := by
  rw [complete, if_neg (by omega)]

theorem incomplete_short {bytes : Bytes} (short : bytes.length < 16) :
    incomplete bytes = bytes := by
  have none : bytes.length / 16 = 0 := by omega
  rw [incomplete, none, Nat.zero_mul, List.drop_zero]

theorem incomplete_of_whole {bytes : Bytes} (whole : bytes.length % 16 = 0) :
    incomplete bytes = [] := by
  apply List.eq_nil_of_length_eq_zero
  rw [length_incomplete, whole]

theorem complete_toList_append (block : Block) (rest : Bytes) :
    complete (block.toList ++ rest) = block :: complete rest := by
  have enough : 16 ≤ (block.toList ++ rest).length := by
    rw [List.length_append, length_toList]
    omega
  rw [complete, if_pos enough, ofBytes_toList_append, List.drop_left' block.length_toList]

theorem incomplete_toList_append (block : Block) (rest : Bytes) :
    incomplete (block.toList ++ rest) = incomplete rest := by
  have more : (16 + rest.length) / 16 * 16 = 16 + rest.length / 16 * 16 := by omega
  rw [incomplete, List.length_append, length_toList, more, ← List.drop_drop,
    List.drop_left' block.length_toList, incomplete]

theorem complete_toList (block : Block) : complete block.toList = [block] := by
  rw [← List.append_nil block.toList, complete_toList_append, complete_short (by simp)]

theorem incomplete_toList (block : Block) : incomplete block.toList = [] := by
  rw [← List.append_nil block.toList, incomplete_toList_append, incomplete_short (by simp)]

theorem length_flatMap_toList (blocks : List Block) :
    (blocks.flatMap Vector.toList).length = 16 * blocks.length := by
  induction blocks with
  | nil => rfl
  | cons block blocks induction =>
      rw [List.flatMap_cons, List.length_append, length_toList, induction, List.length_cons]
      omega

theorem complete_flatMap_append (blocks : List Block) (rest : Bytes) :
    complete (blocks.flatMap Vector.toList ++ rest) = blocks ++ complete rest := by
  induction blocks with
  | nil => rfl
  | cons block blocks induction =>
      rw [List.flatMap_cons, List.append_assoc, complete_toList_append, induction,
        List.cons_append]

theorem incomplete_flatMap_append (blocks : List Block) (rest : Bytes) :
    incomplete (blocks.flatMap Vector.toList ++ rest) = incomplete rest := by
  induction blocks with
  | nil => rfl
  | cons block blocks induction =>
      rw [List.flatMap_cons, List.append_assoc, incomplete_toList_append, induction]

theorem flatMap_complete_append_incomplete (bytes : Bytes) :
    (complete bytes).flatMap Vector.toList ++ incomplete bytes = bytes := by
  fun_induction complete bytes with
  | case1 bytes enough induction =>
      have cut : (ofBytes bytes).toList ++ bytes.drop 16 = bytes := by
        rw [toList_ofBytes_of_le enough, List.take_append_drop]
      calc (ofBytes bytes :: complete (bytes.drop 16)).flatMap Vector.toList ++ incomplete bytes
          = (ofBytes bytes).toList ++ ((complete (bytes.drop 16)).flatMap Vector.toList ++
              incomplete ((ofBytes bytes).toList ++ bytes.drop 16)) := by
            rw [List.flatMap_cons, List.append_assoc, cut]
        _ = (ofBytes bytes).toList ++ bytes.drop 16 := by
            rw [incomplete_toList_append, induction]
        _ = bytes := cut
  | case2 bytes short => exact incomplete_short (by omega)

theorem take_append_blocks (bytes : Bytes) (count : Nat) :
    bytes.take count ++ (complete (bytes.drop count)).flatMap Vector.toList ++
      incomplete (bytes.drop count) = bytes := by
  rw [List.append_assoc, flatMap_complete_append_incomplete, List.take_append_drop]

/-- The bytes that the first string leaves over are completed by the second. -/
theorem complete_append (first second : Bytes) :
    complete (first ++ second) = complete first ++ complete (incomplete first ++ second) := by
  have cut : first ++ second =
      (complete first).flatMap Vector.toList ++ (incomplete first ++ second) := by
    rw [← List.append_assoc, flatMap_complete_append_incomplete]
  rw [cut, complete_flatMap_append]

theorem incomplete_append (first second : Bytes) :
    incomplete (first ++ second) = incomplete (incomplete first ++ second) := by
  have cut : first ++ second =
      (complete first).flatMap Vector.toList ++ (incomplete first ++ second) := by
    rw [← List.append_assoc, flatMap_complete_append_incomplete]
  rw [cut, incomplete_flatMap_append]

/-! ## Padding -/

theorem padded_toList_append (block : Block) (rest : Bytes) :
    padded (block.toList ++ rest) = block :: padded rest := by
  cases cut : block.toList ++ rest with
  | nil =>
      have length := congrArg List.length cut
      rw [List.length_append, length_toList, List.length_nil] at length
      omega
  | cons byte bytes =>
      rw [padded, ← cut, ofBytes_toList_append, List.drop_left' block.length_toList]

theorem length_padded (bytes : Bytes) : (padded bytes).length = (bytes.length + 15) / 16 := by
  fun_induction padded bytes with
  | case1 => rfl
  | case2 first rest induction =>
      rw [List.length_cons, induction, List.length_drop, List.length_cons]
      omega

theorem padded_short {bytes : Bytes} (some : bytes ≠ []) (short : bytes.length ≤ 16) :
    padded bytes = [ofBytes bytes] := by
  cases bytes with
  | nil => exact absurd rfl some
  | cons byte bytes =>
      rw [padded, List.drop_eq_nil_of_le short, padded]

theorem padded_flatMap_append (blocks : List Block) (rest : Bytes) :
    padded (blocks.flatMap Vector.toList ++ rest) = blocks ++ padded rest := by
  induction blocks with
  | nil => rfl
  | cons block blocks induction =>
      rw [List.flatMap_cons, List.append_assoc, padded_toList_append, induction,
        List.cons_append]

theorem padded_eq (bytes : Bytes) : padded bytes = complete bytes ++ padded (incomplete bytes) := by
  rw [← padded_flatMap_append, flatMap_complete_append_incomplete]

theorem padded_of_ne_nil {bytes : Bytes} (some : bytes ≠ []) :
    padded bytes = ofBytes bytes :: padded (bytes.drop 16) := by
  cases bytes with
  | nil => exact absurd rfl some
  | cons byte rest => rw [padded]

theorem padded_append_of_whole {first : Bytes} (whole : first.length % 16 = 0) (second : Bytes) :
    padded (first ++ second) = padded first ++ padded second := by
  have all : (complete first).flatMap Vector.toList = first := by
    have cut := flatMap_complete_append_incomplete first
    rwa [incomplete_of_whole whole, List.append_nil] at cut
  have blocks : padded first = complete first := by
    rw [padded_eq, incomplete_of_whole whole, padded, List.append_nil]
  calc padded (first ++ second)
      = padded ((complete first).flatMap Vector.toList ++ second) := by rw [all]
    _ = padded first ++ padded second := by rw [padded_flatMap_append, blocks]

end GaloisCounter.Block
