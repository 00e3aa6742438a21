import GaloisCounter.Aes.KeySchedule
import GaloisCounter.Traced

/-!
Encryption of one block with AES.

The block is a square of four columns, byte `row + 4 * column` being in that row and column.
-/

namespace GaloisCounter.Aes

def substituteBytes (block : Block) : Block := block.map substitute

def shiftRows (block : Block) : Block :=
  Vector.ofFn fun index =>
    block.get ⟨(index.val + 4 * (index.val % 4)) % 16, Nat.mod_lt _ (Nat.succ_pos 15)⟩

/-- The byte of a column that is `offset` rows further down, going round. -/
def further (block : Block) (index : Fin 16) (offset : Nat) : UInt8 :=
  block.get ⟨index.val / 4 * 4 + (index.val + offset) % 4, by omega⟩

/-- Multiplies each column by the polynomial 3x^3 + x^2 + x + 2. -/
def mixColumns (block : Block) : Block :=
  Vector.ofFn fun index =>
    double (further block index 0) ^^^
      (double (further block index 1) ^^^ further block index 1) ^^^
      further block index 2 ^^^ further block index 3

example : mixColumns (Block.ofBytes [0xDB, 0x13, 0x53, 0x45]) =
    Block.ofBytes [0x8E, 0x4D, 0xA1, 0xBC] := by decide

/-- The rounds after the first key was added. The last one mixes no columns. -/
def rounds (block : Block) : List Block → Block
  | [] => block
  | [last] => (shiftRows (substituteBytes block)).xor last
  | key :: rest => rounds ((mixColumns (shiftRows (substituteBytes block))).xor key) rest

namespace KeySchedule

def encrypt (schedule : KeySchedule) (block : Block) : Block :=
  match schedule.roundKeys with
  | [] => block
  | first :: rest => rounds (block.xor first) rest

instance : BlockCipher KeySchedule where
  encrypt := encrypt

end KeySchedule

end GaloisCounter.Aes
