import GaloisCounter.Aes.Cipher
import GaloisCounter.Gcm

/-!
A message with known ciphertext and tag, sealed with either backend.
-/

namespace GaloisCounter.SelfTest

def zeros (count : Nat) : Bytes := List.replicate count 0

def expectedCiphertext : Bytes :=
  [0x03, 0x88, 0xDA, 0xCE, 0x60, 0xB6, 0xA3, 0x92, 0xF3, 0x28, 0xC2, 0xB9, 0x71, 0xB2, 0xFE, 0x78]

def expectedTag : Bytes :=
  [0xAB, 0x6E, 0x47, 0xD4, 0x2C, 0xEC, 0x13, 0xBD, 0xF5, 0x3A, 0x67, 0xB2, 0x12, 0x57, 0xBD, 0xDF]

/-- Seals a zero block under the zero key and the zero vector, without associated data. -/
def runBackend (backend : Backend) : Traced (Except Error Unit) := ExceptT.run do
  let key ← ExceptT.mk (return Aes.KeySchedule.ofKey (zeros 16))
  let gcm : Gcm Aes.KeySchedule := { key, config := { aadPolicy := .optional, backend } }
  let (ciphertext, tag) ← ExceptT.mk (gcm.encryptDetached (zeros 12) [] (zeros 16))
  if ciphertext = expectedCiphertext ∧ tag.verify expectedTag then
    return ()
  else
    ExceptT.lift (Traced.report (.selfTestFailed backend))
    throw (.notAuthentic "init" "known-answer test mismatch")

def run : Traced (Except Error Unit) := ExceptT.run do
  ExceptT.mk (runBackend .bitwise)
  ExceptT.mk (runBackend .table)
  ExceptT.lift (Traced.report .selfTestPassed)

end GaloisCounter.SelfTest
