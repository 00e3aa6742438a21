import GaloisCounter.Config.TagLength
import GaloisCounter.Hex

/-!
Authentication tags: the leading bytes of the encrypted pre-counter block plus the hash.
-/

namespace GaloisCounter

structure Tag where
  length : TagLength
  bytes : Bytes
  sized : bytes.length = length.bytes
  deriving DecidableEq

namespace Tag

def ofBlock (block : Block) (length : TagLength) : Tag where
  length := length
  bytes := block.toList.take length.bytes
  sized := by
    have bound := length.atMost
    rw [List.length_take, Block.length_toList]
    omega

def verify (tag : Tag) (received : Bytes) : Bool := received == tag.bytes

def description (tag : Tag) : String := "Tag(" ++ Hex.encode tag.bytes ++ ")"

/-- Whether a received tag is the beginning of a block. An empty one never is. -/
def verifyBlock (block : Block) (received : Bytes) : Bool :=
  !received.isEmpty && received.isPrefixOf block.toList

def blockOf [BlockCipher Key] (key : Key) (preCounter hash : Block) : Traced Block := do
  let mask ← Traced.encrypt key preCounter
  return mask.xor hash

end Tag

end GaloisCounter
