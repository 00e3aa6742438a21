import GaloisCounter.Field.Table
import GaloisCounter.Text.Record

/-!
GHASH, the keyed hash of block sequences.

The hash of the blocks B1, …, Bn under the subkey H is the sum of the products of Bi with
H^(n + 1 - i), kept in an accumulator that is multiplied by H after every block.
-/

namespace GaloisCounter

inductive Backend
  /-- One coefficient per step. -/
  | bitwise
  /-- Four coefficients per step, with the subkey's multiples in a table. -/
  | table
  deriving DecidableEq

namespace Backend

def name : Backend → String
  | bitwise => "Bitwise"
  | table => "Table"

end Backend

inductive Multiplier
  | bitwise (subkey : Element)
  | table (multiples : Table)
  deriving DecidableEq

namespace Multiplier

def ofSubkey (subkey : Element) : Backend → Multiplier
  | .bitwise => bitwise subkey
  | .table => table (Table.ofFactor subkey)

def backend : Multiplier → Backend
  | bitwise _ => .bitwise
  | table _ => .table

def multiply : Multiplier → Element → Element
  | bitwise subkey, element => element.multiply subkey
  | table multiples, element => multiples.multiply element

def wipe : Multiplier → Multiplier
  | bitwise _ => bitwise 0
  | table _ => table Table.wiped

end Multiplier

structure GHash where
  multiplier : Multiplier
  accumulator : Element
  deriving DecidableEq

namespace GHash

def start (subkey : Block) (backend : Backend) : GHash where
  multiplier := Multiplier.ofSubkey (Element.ofBlock subkey) backend
  accumulator := 0

def absorb (hash : GHash) (block : Block) : GHash :=
  { hash with
    accumulator := hash.multiplier.multiply (hash.accumulator ^^^ Element.ofBlock block) }

def absorbAll (hash : GHash) (blocks : List Block) : GHash :=
  blocks.foldl absorb hash

/-- Absorbs a byte string, filled up with zeros to whole blocks. -/
def absorbPadded (hash : GHash) (bytes : Bytes) : GHash :=
  hash.absorbAll (Block.padded bytes)

/-- The block of two bit counts of 64 bits each. -/
def lengthBlock (aadBits textBits : UInt64) : Block :=
  Block.ofBytes (Bytes.toBigEndian 8 aadBits.toNat ++ Bytes.toBigEndian 8 textBits.toNat)

def absorbLengths (hash : GHash) (aadBits textBits : UInt64) : GHash :=
  hash.absorb (lengthBlock aadBits textBits)

def value (hash : GHash) : Block := hash.accumulator.toBlock

def wipe (hash : GHash) : GHash where
  multiplier := hash.multiplier.wipe
  accumulator := 0

def description (hash : GHash) : String :=
  Text.record "Ghash"
    [("backend", hash.multiplier.backend.name), ("state", Text.redacted)]

def digest (subkey : Block) (backend : Backend) (bytes : Bytes) (aadBits textBits : UInt64) :
    Block :=
  (((start subkey backend).absorbPadded bytes).absorbLengths aadBits textBits).value

end GHash

end GaloisCounter
