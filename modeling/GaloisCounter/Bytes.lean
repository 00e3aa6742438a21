/-!
Byte strings, and the numbers they spell with the most significant byte first.

The two directions are inverse: `bigEndian_toBigEndian` reads a written number back modulo the
numbers of its width, and `toBigEndian_bigEndian` writes a read string again.
-/

namespace GaloisCounter

abbrev Bytes := List UInt8

namespace Bytes

/-! ## Numbers -/

def bigEndian (bytes : Bytes) : Nat :=
  bytes.foldl (fun value byte => value * 256 + byte.toNat) 0

/-- The lowest `width` bytes of a number, most significant first. Higher bytes are dropped. -/
def toBigEndian : (width : Nat) → (value : Nat) → Bytes
  | 0, _ => []
  | width + 1, value => toBigEndian width (value / 256) ++ [UInt8.ofNat value]

def capacity (width : Nat) : Nat := Nat.pow 256 width

example : bigEndian [1, 2] = 258 := rfl

example : toBigEndian 2 (65536 + 258) = [1, 2] := rfl

theorem capacity_succ (width : Nat) : capacity (width + 1) = capacity width * 256 := rfl

@[simp] theorem bigEndian_nil : bigEndian [] = 0 := rfl

theorem bigEndian_concat (bytes : Bytes) (byte : UInt8) :
    bigEndian (bytes ++ [byte]) = bigEndian bytes * 256 + byte.toNat := by
  simp [bigEndian]

@[simp] theorem length_toBigEndian (width value : Nat) :
    (toBigEndian width value).length = width := by
  induction width generalizing value with
  | zero => rfl
  | succ width induction => simp [toBigEndian, induction]

theorem bigEndian_toBigEndian (width value : Nat) :
    bigEndian (toBigEndian width value) = value % capacity width := by
  induction width generalizing value with
  | zero => exact (Nat.mod_one value).symm
  | succ width induction =>
      rw [toBigEndian, bigEndian_concat, induction, capacity_succ, Nat.mul_comm (capacity width),
        Nat.mod_mul, UInt8.toNat_ofNat']
      omega

private theorem bigEndian_reverse_lt (reversed : Bytes) :
    bigEndian reversed.reverse < capacity reversed.length := by
  induction reversed with
  | nil => exact Nat.one_pos
  | cons byte rest induction =>
      have small := byte.toNat_lt
      rw [List.reverse_cons, bigEndian_concat, List.length_cons, capacity_succ]
      omega

theorem bigEndian_lt (bytes : Bytes) : bigEndian bytes < capacity bytes.length := by
  simpa using bigEndian_reverse_lt bytes.reverse

private theorem toBigEndian_bigEndian_reverse (reversed : Bytes) :
    toBigEndian reversed.length (bigEndian reversed.reverse) = reversed.reverse := by
  induction reversed with
  | nil => rfl
  | cons byte rest induction =>
      have small := byte.toNat_lt
      have quotient : (bigEndian rest.reverse * 256 + byte.toNat) / 256 = bigEndian rest.reverse := by
        omega
      have remainder : UInt8.ofNat (bigEndian rest.reverse * 256 + byte.toNat) = byte := by
        apply UInt8.toNat_inj.mp
        rw [UInt8.toNat_ofNat']
        omega
      rw [List.reverse_cons, bigEndian_concat, List.length_cons, toBigEndian, quotient, remainder,
        induction]

theorem toBigEndian_bigEndian (bytes : Bytes) :
    toBigEndian bytes.length (bigEndian bytes) = bytes := by
  simpa using toBigEndian_bigEndian_reverse bytes.reverse

/-! ## Masking -/

/-- Adds a keystream to data byte by byte. The shorter of the two bounds the bytes changed. -/
def mask (data keystream : Bytes) : Bytes :=
  data.zipWith (· ^^^ ·) keystream ++ data.drop keystream.length

@[simp] theorem length_mask (data keystream : Bytes) :
    (mask data keystream).length = data.length := by
  simp [mask]
  omega

end Bytes

end GaloisCounter
