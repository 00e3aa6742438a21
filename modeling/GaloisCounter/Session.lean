import GaloisCounter.Config.Basic
import GaloisCounter.Counter
import GaloisCounter.Tag

/-!
One message in progress.

Text arrives in pieces of any length. A block that is incomplete at the end of a piece is kept,
with the keystream for it, until later pieces complete it. The ciphertext is hashed block by block
in either direction.
-/

namespace GaloisCounter

structure Session where
  hash : GHash
  preCounter : Block
  counter : Counter
  /-- The keystream for the incomplete block. -/
  keystream : Block
  /-- The ciphertext of the incomplete block, in its first `leftoverLength` bytes. -/
  leftover : Block
  leftoverLength : Nat
  aadLength : UInt64
  textLength : UInt64
  deriving DecidableEq

namespace Direction

/-- The side of a block or a piece of text that is hashed. -/
def ciphertext (direction : Direction) (input output : Text) : Text :=
  match direction with
  | encrypt => output
  | decrypt => input

end Direction

namespace Session

def start [BlockCipher Key] (key : Key) (backend : Backend) (iv aad : Bytes) : Traced Session := do
  let subkey ← Traced.encrypt key Block.zero
  let first := preCounterBlock subkey backend iv
  return {
    hash := (GHash.start subkey backend).absorbPadded aad
    preCounter := first
    counter := Counter.start first
    keystream := Block.zero
    leftover := Block.zero
    leftoverLength := 0
    aadLength := UInt64.ofNat aad.length
    textLength := 0 }

/-! ## Incomplete blocks -/

def maskPartial (session : Session) (direction : Direction) (data : Bytes) : Session × Bytes :=
  let output := Bytes.mask data (session.keystream.toList.drop session.leftoverLength)
  ({ session with
      leftover :=
        session.leftover.overwrite session.leftoverLength (direction.ciphertext data output)
      leftoverLength := session.leftoverLength + data.length },
    output)

def absorbLeftover (session : Session) : Session :=
  if session.leftoverLength = 16 then
    { session with hash := session.hash.absorb session.leftover, leftoverLength := 0 }
  else
    session

/-- How many of the next bytes go into a block that is already begun. -/
def room (session : Session) : Nat :=
  if session.leftoverLength = 0 then 0 else 16 - session.leftoverLength

def resume (session : Session) (direction : Direction) (data : Bytes) : Session × Bytes :=
  if session.leftoverLength = 0 then
    (session, [])
  else
    let (filled, output) := session.maskPartial direction (data.take session.room)
    (filled.absorbLeftover, output)

def begin [BlockCipher Key] (session : Session) (key : Key) (direction : Direction)
    (data : Bytes) : Traced (Session × Bytes) :=
  if data.isEmpty then
    return (session, [])
  else do
    let (keystream, counter) ← session.counter.keystream key
    return { session with keystream, counter }.maskPartial direction data

/-! ## Complete blocks -/

def processBlock [BlockCipher Key] (session : Session) (key : Key) (direction : Direction)
    (block : Block) : Traced (Session × Block) := do
  let (keystream, counter) ← session.counter.keystream key
  let output := block.xor keystream
  let hash := session.hash.absorb (direction.ciphertext block output)
  return ({ session with hash, counter }, output)

def processBlocks [BlockCipher Key] (session : Session) (key : Key) (direction : Direction) :
    List Block → Traced (Session × Bytes)
  | [] => return (session, [])
  | block :: rest => do
      let (next, output) ← session.processBlock key direction block
      let (last, outputs) ← next.processBlocks key direction rest
      return (last, output.toList ++ outputs)

/-! ## Pieces -/

def process [BlockCipher Key] (session : Session) (key : Key) (direction : Direction)
    (data : Bytes) : Traced (Session × Bytes) := do
  let rest := data.drop session.room
  let (resumed, first) := session.resume direction data
  let (advanced, middle) ← resumed.processBlocks key direction (Block.complete rest)
  let (begun, last) ← advanced.begin key direction (Block.incomplete rest)
  return ({ begun with textLength := begun.textLength + UInt64.ofNat data.length },
    first ++ middle ++ last)

/-- The block that the tag is cut from, after the incomplete block and the lengths are hashed. -/
def tagBlock [BlockCipher Key] (session : Session) (key : Key) : Traced Block :=
  let hash := session.hash.absorbPadded (session.leftover.toList.take session.leftoverLength)
  let hash := hash.absorbLengths (session.aadLength * 8) (session.textLength * 8)
  Tag.blockOf key session.preCounter hash.value

end Session

end GaloisCounter
