import GaloisCounter.Traced

/-!
Lengths of authentication tags.
-/

namespace GaloisCounter

structure TagLength where
  bytes : Nat
  atLeast : 8 ≤ bytes
  atMost : bytes ≤ 16
  deriving DecidableEq

namespace TagLength

def full : TagLength := ⟨16, by decide, by decide⟩

/-- Shorter tags are accepted, but reported as weak. -/
def recommended : Nat := 12

def bits (length : TagLength) : Nat := length.bytes * 8

def ofBytes (bytes : Nat) : Traced (Except Error TagLength) :=
  if bounds : 8 ≤ bytes ∧ bytes ≤ 16 then do
    if bytes < recommended then
      Traced.report (.tagTruncated (bytes * 8) (recommended * 8))
    return .ok ⟨bytes, bounds.1, bounds.2⟩
  else
    return .error (.tagLengthOutOfRange bytes)

@[simp] theorem value_ofBytes (bytes : Nat) :
    (ofBytes bytes).value =
      if bounds : 8 ≤ bytes ∧ bytes ≤ 16 then .ok ⟨bytes, bounds.1, bounds.2⟩
      else .error (.tagLengthOutOfRange bytes) := by
  unfold ofBytes
  split
  · split <;> rfl
  · rfl

end TagLength

end GaloisCounter
