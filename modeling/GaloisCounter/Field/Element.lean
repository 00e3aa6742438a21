import GaloisCounter.Block

/-!
The field of 2^128 elements over which messages are hashed.

An element is a polynomial over the two-element field of degree below 128, taken modulo
x^128 + x^7 + x^2 + x + 1. The coefficient of x^i is the bit `getMsbD i`, so the constant term is
the most significant bit and a product with x is a shift to the right. Addition is exclusive or.
-/

namespace GaloisCounter

abbrev Element := BitVec 128

namespace Element

def ofBlock (block : Block) : Element :=
  BitVec.ofNat 128 (Bytes.bigEndian block.toList)

def toBlock (element : Element) : Block :=
  Block.ofBytes (Bytes.toBigEndian 16 element.toNat)

def one : Element := 1#128 <<< 127

/-- The remainder x^7 + x^2 + x + 1 of x^128. -/
def reduction : Element := 0xE1#128 <<< 120

/-- The product with x. A term x^127 becomes x^128 and is replaced by its remainder. -/
def timesX (element : Element) : Element :=
  if element.getMsbD 127 then (element >>> 1) ^^^ reduction else element >>> 1

/-- One step of the product: `multiple` is the right factor times `x ^ degree`, and it is added to
`sum` if the left factor has the term of that degree. -/
def multiplyStep (left : Element) (state : Element × Element) (degree : Nat) :
    Element × Element :=
  let (sum, multiple) := state
  (if left.getMsbD degree then sum ^^^ multiple else sum, timesX multiple)

def multiply (left right : Element) : Element :=
  ((List.range 128).foldl (multiplyStep left) (0, right)).1

example : toBlock (BitVec.allOnes 128) = Vector.replicate 16 255 := by decide

example : timesX one = 1#128 <<< 126 := by decide

example : timesX 1 = reduction := by decide

theorem capacity_sixteen : Bytes.capacity 16 = 340282366920938463463374607431768211456 := by decide

theorem toBlock_ofBlock (block : Block) : toBlock (ofBlock block) = block := by
  have small := Bytes.bigEndian_lt block.toList
  have written := Bytes.toBigEndian_bigEndian block.toList
  rw [Block.length_toList] at small written
  rw [capacity_sixteen] at small
  rw [toBlock, ofBlock, BitVec.toNat_ofNat, Nat.mod_eq_of_lt small, written, Block.ofBytes_toList]

theorem ofBlock_toBlock (element : Element) : ofBlock (toBlock element) = element := by
  apply BitVec.eq_of_toNat_eq
  have bound := element.isLt
  rw [ofBlock, toBlock, Block.toList_ofBytes (Bytes.length_toBigEndian 16 _),
    Bytes.bigEndian_toBigEndian, BitVec.toNat_ofNat, capacity_sixteen]
  omega

end Element

end GaloisCounter
