import GaloisCounter.Traced

/-!
Counter blocks, from which the keystream of a message is made.

The pre-counter block J0 follows from the initialisation vector and is kept for the tag. The blocks
of the message use the counter blocks after it. Only the last four bytes of a block count.
-/

namespace GaloisCounter

/-- The block J0 of an initialisation vector. Twelve bytes are followed by the number 1, and any
other length is hashed. -/
def preCounterBlock (subkey : Block) (backend : Backend) (iv : Bytes) : Block :=
  if iv.length = 12 then
    Block.ofBytes (iv ++ Bytes.toBigEndian 4 1)
  else
    GHash.digest subkey backend iv 0 (UInt64.ofNat iv.length * 8)

structure Counter where
  block : Block
  deriving DecidableEq

namespace Counter

/-- Adds one to the number in the last four bytes, modulo 2^32. -/
def increment (block : Block) : Block :=
  Block.ofBytes
    (block.toList.take 12 ++ Bytes.toBigEndian 4 (Bytes.bigEndian (block.toList.drop 12) + 1))

example : increment (Vector.replicate 16 255) =
    Block.overwrite (Vector.replicate 16 255) 12 [0, 0, 0, 0] := by decide

/-- The first counter of a message, one after J0. -/
def start (preCounter : Block) : Counter where
  block := increment preCounter

def keystream [BlockCipher Key] (counter : Counter) (key : Key) : Traced (Block × Counter) := do
  let keystream ← Traced.encrypt key counter.block
  return (keystream, ⟨increment counter.block⟩)

def wiped : Counter where
  block := Block.zero

def description : String := "Counter([REDACTED])"

end Counter

end GaloisCounter
