import GaloisCounter.Aes.Substitution
import GaloisCounter.Error
import GaloisCounter.Text.Record

/-!
The round keys of AES.

A key of four, six or eight words of four bytes is expanded word by word. Each word is the sum of
the word one key length before it and of the last word, which is transformed at the start of each
key length, and in the longest keys also in the middle.
-/

namespace GaloisCounter.Aes

inductive KeySize
  | aes128
  | aes192
  | aes256
  deriving DecidableEq

namespace KeySize

def words : KeySize → Nat
  | aes128 => 4
  | aes192 => 6
  | aes256 => 8

def bytes (size : KeySize) : Nat := 4 * size.words

def rounds (size : KeySize) : Nat := size.words + 6

def ofBytes? : Nat → Option KeySize
  | 16 => some aes128
  | 24 => some aes192
  | 32 => some aes256
  | _ => none

end KeySize

abbrev Word := Vector UInt8 4

namespace Word

def xor (left right : Word) : Word := Vector.ofFn fun index => left[index] ^^^ right[index]

def substitute (word : Word) : Word := Vector.ofFn fun index => Aes.substitute word[index]

def rotate (word : Word) : Word := Vector.ofFn fun index => word[index + 1]

def ofBytes : Bytes → List Word
  | first :: second :: third :: fourth :: rest =>
      Vector.ofFn (fun index => [first, second, third, fourth].getD index 0) :: ofBytes rest
  | _ => []

end Word

/-- Adds a power of x to the first byte of the words that start a key length. -/
def roundConstant (round : Nat) : Word :=
  Vector.ofFn fun index => if index = 0 then Nat.repeat double (round - 1) 1 else 0

/-- What is added to the word one key length back to give the word at `index`. -/
def transform (size : KeySize) (index : Nat) (last : Word) : Word :=
  if index % size.words = 0 then
    last.rotate.substitute.xor (roundConstant (index / size.words))
  else if size = .aes256 ∧ index % size.words = 4 then
    last.substitute
  else
    last

/-- Appends `count` words to the words in `reversed`, which stand in reverse order. -/
def expand (size : KeySize) : (count : Nat) → (reversed : List Word) → List Word
  | 0, reversed => reversed.reverse
  | count + 1, reversed =>
      let zero : Word := Vector.replicate 4 0
      let back := reversed.getD (size.words - 1) zero
      let added := transform size reversed.length (reversed.headD zero)
      expand size count (back.xor added :: reversed)

def roundKeysOf : List Word → List Block
  | first :: second :: third :: fourth :: rest =>
      Block.ofBytes (first.toList ++ second.toList ++ third.toList ++ fourth.toList) ::
        roundKeysOf rest
  | _ => []

structure KeySchedule where
  size : KeySize
  /-- One block more than there are rounds. -/
  roundKeys : List Block
  deriving DecidableEq

namespace KeySchedule

def ofKey (key : Bytes) : Except Error KeySchedule :=
  match KeySize.ofBytes? key.length with
  | none => .error (.keySize key.length)
  | some size =>
      let count := 4 * (size.rounds + 1) - size.words
      .ok ⟨size, roundKeysOf (expand size count (Word.ofBytes key).reverse)⟩

def description (schedule : KeySchedule) : String :=
  Text.record "AesKeySchedule"
    [("key_bits", toString (schedule.size.bytes * 8)), ("round_keys", Text.redacted)]

end KeySchedule

end GaloisCounter.Aes
