import GaloisCounter.Context.Calls

/-!
Sealing and opening of whole messages.

A sealed message is the ciphertext followed by the tag. Each call runs a context of its own through
one message, so errors are those of the context's calls, in their order.
-/

namespace GaloisCounter

structure Gcm (Key : Type) where
  key : Key
  config : Config := {}

namespace Gcm

variable {Key : Type}

def description (gcm : Gcm Key) (key : Key → String) : String :=
  Text.record "Gcm" [("key_schedule", key gcm.key), ("config", gcm.config.description)]

variable [BlockCipher Key]

def started (gcm : Gcm Key) (direction : Direction) (iv aad : Bytes) :
    Traced (Except Error (Context Key)) := do
  let outcome ← (Context.new gcm.key gcm.config).initialise direction iv aad
  return outcome.answer.map fun _ => outcome.context

/-- Processes the whole text of a message. Empty text needs no call. -/
def processed (context : Context Key) (text : Bytes) :
    Traced (Except Error (Bytes × Context Key)) :=
  if text.isEmpty then
    return .ok ([], context)
  else do
    let outcome ← context.updateInPlace text
    return outcome.answer.map fun _ => (outcome.buffer, outcome.context)

def encryptDetached (gcm : Gcm Key) (iv aad plaintext : Bytes) :
    Traced (Except Error (Bytes × Tag)) := ExceptT.run do
  let context ← ExceptT.mk (gcm.started .encrypt iv aad)
  let (ciphertext, context) ← ExceptT.mk (processed context plaintext)
  let tag ← ExceptT.mk (Outcome.answer <$> context.finaliseEncryption)
  return (ciphertext, tag)

def encrypt (gcm : Gcm Key) (iv aad plaintext : Bytes) : Traced (Except Error Bytes) := do
  let sealed ← gcm.encryptDetached iv aad plaintext
  return sealed.map fun (ciphertext, tag) => ciphertext ++ tag.bytes

/-- The plaintext is given only if the tag is right. -/
def decryptDetached (gcm : Gcm Key) (iv aad ciphertext tag : Bytes) :
    Traced (Except Error Bytes) := ExceptT.run do
  let context ← ExceptT.mk (gcm.started .decrypt iv aad)
  let (plaintext, context) ← ExceptT.mk (processed context ciphertext)
  ExceptT.mk (Outcome.answer <$> context.finaliseDecryption tag)
  return plaintext

def decrypt (gcm : Gcm Key) (iv aad sealed : Bytes) : Traced (Except Error Bytes) :=
  let tagLength := gcm.config.tagLength.bytes
  if sealed.length < tagLength then
    return .error (.tagMissing tagLength sealed.length)
  else
    let textLength := sealed.length - tagLength
    gcm.decryptDetached iv aad (sealed.take textLength) (sealed.drop textLength)

end Gcm

end GaloisCounter
