import GaloisCounter.Context.Calls

/-!
Sequences of calls on a context.
-/

namespace GaloisCounter

inductive Operation
  | initialise (direction : Direction) (iv aad : Bytes)
  /-- The output is the caller's buffer as it is before the call. -/
  | update (input output : Bytes)
  | updateInPlace (buffer : Bytes)
  | finaliseEncryption
  | finaliseDecryption (tag : Bytes)
  deriving DecidableEq

inductive Answer
  | done
  | written (count : Nat)
  | sealed (tag : Tag)
  deriving DecidableEq

/-- What the caller sees of a call: its answer, and the buffer that was passed to it. -/
structure Reply where
  answer : Except Error Answer
  /-- Empty for calls that take no buffer. -/
  buffer : Bytes

namespace Outcome

def reply (outcome : Outcome Key Value) (answer : Value → Answer) (buffer : Bytes) :
    Reply × Context Key :=
  (⟨outcome.answer.map answer, buffer⟩, outcome.context)

end Outcome

namespace Context

variable {Key : Type}

def perform [BlockCipher Key] (context : Context Key) :
    Operation → Traced (Reply × Context Key)
  | .initialise direction iv aad => do
      let outcome ← context.initialise direction iv aad
      return outcome.reply (fun _ => .done) []
  | .update input output => do
      let outcome ← context.update input output
      return outcome.reply .written outcome.buffer
  | .updateInPlace buffer => do
      let outcome ← context.updateInPlace buffer
      return outcome.reply (fun _ => .done) outcome.buffer
  | .finaliseEncryption => do
      let outcome ← context.finaliseEncryption
      return outcome.reply .sealed []
  | .finaliseDecryption tag => do
      let outcome ← context.finaliseDecryption tag
      return outcome.reply (fun _ => .done) []

def run [BlockCipher Key] (context : Context Key) :
    List Operation → Traced (List Reply × Context Key)
  | [] => return ([], context)
  | operation :: rest => do
      let (reply, next) ← context.perform operation
      let (replies, last) ← next.run rest
      return (reply :: replies, last)

end Context

end GaloisCounter
