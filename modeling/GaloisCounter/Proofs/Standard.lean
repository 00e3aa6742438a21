import GaloisCounter.Proofs.Residue

/-!
The mode of operation in the terms of its standard, on whole byte strings.

These definitions are for comparison and cannot be run. The hash is a sum of products of
polynomials, reduced once at the end, and all padding is written out.
-/

namespace GaloisCounter.Standard

open Polynomial

/-! ## Hashing -/

def pad (bytes : Bytes) : Bytes :=
  bytes ++ List.replicate ((16 - bytes.length % 16) % 16) 0

/-- The blocks of a byte string that has only whole ones. -/
def blocks (bytes : Bytes) : List Block :=
  (List.range (bytes.length / 16)).map fun index => Block.ofBytes (bytes.drop (16 * index))

def bitLength (bytes : Bytes) : Bytes := Bytes.toBigEndian 8 (8 * bytes.length)

/-- The sum of X1 • H^m, X2 • H^(m - 1), …, Xm • H for the blocks X1, …, Xm and the subkey H. -/
noncomputable def sum (subkey : Block) (blocks : List Block) : (ZMod 2)[X] :=
  ∑ index : Fin blocks.length,
    (Element.ofBlock (blocks.get index)).polynomial *
      (Element.ofBlock subkey).polynomial ^ (blocks.length - index)

noncomputable def hash (subkey : Block) (bytes : Bytes) : Block :=
  (Element.ofPolynomial (sum subkey (blocks bytes) %ₘ fieldPolynomial)).toBlock

/-! ## Counters -/

/-- One is added to the lowest 32 bits of a block, modulo 2^32. -/
def increment (block : Block) : Block :=
  let number := Bytes.bigEndian block.toList
  Block.ofBytes (Bytes.toBigEndian 16 (number / 2 ^ 32 * 2 ^ 32 + (number + 1) % 2 ^ 32))

noncomputable def preCounter (subkey : Block) (iv : Bytes) : Block :=
  if iv.length = 12 then
    Block.ofBytes (iv ++ [0, 0, 0, 1])
  else
    hash subkey (pad iv ++ List.replicate 8 0 ++ bitLength iv)

/-! ## Messages -/

variable (cipher : Block → Block)

def keystream (preCounter : Block) (count : Nat) : Bytes :=
  (List.range count).flatMap fun index => (cipher (increment^[index + 1] preCounter)).toList

noncomputable def mask (iv text : Bytes) : Bytes :=
  text.zipWith (· ^^^ ·)
    (keystream cipher (preCounter (cipher Block.zero) iv) ((text.length + 15) / 16))

noncomputable def tag (iv aad ciphertext : Bytes) (length : Nat) : Bytes :=
  let subkey := cipher Block.zero
  let hashed := hash subkey (pad aad ++ pad ciphertext ++ bitLength aad ++ bitLength ciphertext)
  ((cipher (preCounter subkey iv)).xor hashed).toList.take length

end GaloisCounter.Standard
