import GaloisCounter.Aes.Cipher
import GaloisCounter.Context.Calls

/-!
Calls through opaque handles, for callers that pass pointers and lengths.

A handle or a pointer may be null. Every call answers a status. Null pointers, empty input, output
that is too short and updates against the direction of the message are rejected here; all else is
left to the context behind the handle.
-/

namespace GaloisCounter.Handle

inductive Status
  | success
  | failure
  | authenticationFailure
  deriving DecidableEq

namespace Status

def code : Status → Int
  | success => 1
  | failure => 0
  | authenticationFailure => -1

/-- A rejection is reported under the name of the call. A wrong tag is only a status. -/
def ofAnswer {Result : Type} (call : String) : Except Error Result → Traced Status
  | .ok _ => return success
  | .error error =>
      if error.isAuthenticationFailure then
        return authenticationFailure
      else do
        Traced.report (.callRejected call error)
        return failure

end Status

/-- A pointer to bytes, or null, with the length that is passed beside it. -/
structure Argument where
  pointer : Option Bytes
  length : Nat
  deriving DecidableEq

namespace Argument

def read (argument : Argument) (parameter : String) : Except Error Bytes :=
  match argument.pointer with
  | none => .error (.nullPointer parameter)
  | some bytes =>
      if argument.length = 0 then
        .error (.zeroLength parameter)
      else
        .ok (bytes.take argument.length)

end Argument

inductive Output
  /-- Over the input, whose pointer is passed a second time with a length of its own. -/
  | inPlace (length : Nat)
  | separate (pointer : Option Bytes)
  deriving DecidableEq

namespace Output

def pointer (input : Argument) : Output → Option Bytes
  | inPlace _ => input.pointer
  | separate pointer => pointer

end Output

structure Response (Key : Type) where
  status : Status
  handle : Option (Context Key)
  /-- The bytes behind the pointer that the call may write to. -/
  buffer : Option Bytes

namespace Response

variable {Key Result : Type}

def rejected (call : String) (handle : Option (Context Key)) (buffer : Option Bytes)
    (error : Error) : Traced (Response Key) := do
  let status ← Status.ofAnswer call (.error error : Except Error Unit)
  return { status, handle, buffer }

def settled (call : String) (outcome : Outcome Key Result) (buffer : Option Bytes) :
    Traced (Response Key) := do
  let status ← Status.ofAnswer call outcome.answer
  return { status, handle := some outcome.context, buffer }

end Response

def callName (direction : Direction) (call : String) : String :=
  "tinygcm_" ++ direction.name ++ "_" ++ call

/-! ## Making handles -/

def newKeySchedule (key : Argument) : Traced (Option Aes.KeySchedule) :=
  match (do Aes.KeySchedule.ofKey (← key.read "key") : Except Error Aes.KeySchedule) with
  | .ok schedule => return some schedule
  | .error error => do
      Traced.report (.handleRefused "tinygcm_key_schedule_new" error.message)
      return none

def newContext (schedule : Option Key) (tagLength : Nat) : Traced (Option (Context Key)) := do
  let call := "tinygcm_context_new"
  match schedule with
  | none =>
      Traced.report (.handleRefused call "null key schedule")
      return none
  | some key =>
      match ← TagLength.ofBytes tagLength with
      | .ok tagLength => return some (Context.new key { tagLength })
      | .error error =>
          Traced.report (.handleRefused call error.message)
          return none

/-! ## Driving a context -/

variable {Key : Type} [BlockCipher Key]

def initialise (handle : Option (Context Key)) (direction : Direction) (iv aad : Argument) :
    Traced (Response Key) :=
  let call := callName direction "init"
  match handle with
  | none => Response.rejected call handle none (.nullPointer "ctx")
  | some context =>
      match (do return (← iv.read "iv", ← aad.read "aad") : Except Error (Bytes × Bytes)) with
      | .error error => Response.rejected call handle none error
      | .ok (iv, aad) => do
          let outcome ← context.initialise direction iv aad
          Response.settled call outcome none

def update (handle : Option (Context Key)) (direction : Direction) (input : Argument)
    (output : Output) : Traced (Response Key) :=
  let call := callName direction "update"
  let pointer := output.pointer input
  match handle, pointer with
  | none, _ => Response.rejected call handle pointer (.nullPointer "ctx")
  | some _, none => Response.rejected call handle pointer (.nullPointer "out")
  | some context, some buffer =>
      if context.direction ≠ some direction then
        Response.rejected call handle pointer (.directionMismatch call context.phase.name)
      else
        match output with
        | .inPlace length =>
            if input.length = 0 then
              Response.rejected call handle pointer (.zeroLength "in")
            else if length < input.length then
              Response.rejected call handle pointer (.outputTooSmall "out" input.length length)
            else do
              let outcome ← context.updateInPlace (buffer.take input.length)
              Response.settled call outcome.toOutcome
                (some (outcome.buffer ++ buffer.drop input.length))
        | .separate _ =>
            match input.read "in" with
            | .error error => Response.rejected call handle pointer error
            | .ok data => do
                let outcome ← context.update data buffer
                Response.settled call outcome.toOutcome (some outcome.buffer)

def finaliseEncryption (handle : Option (Context Key)) (tag : Argument) :
    Traced (Response Key) :=
  let call := callName .encrypt "final"
  match handle, tag.pointer with
  | none, _ => Response.rejected call handle tag.pointer (.nullPointer "ctx")
  | some _, none => Response.rejected call handle tag.pointer (.nullPointer "tag")
  | some context, some buffer =>
      let expected := context.config.tagLength.bytes
      if tag.length ≠ expected then
        Response.rejected call handle tag.pointer (.tagLengthMismatch "tag_len" expected tag.length)
      else do
        let outcome ← context.finaliseEncryption
        let written := match outcome.answer with
          | .ok sealed => sealed.bytes ++ buffer.drop tag.length
          | .error _ => buffer
        Response.settled call outcome (some written)

def finaliseDecryption (handle : Option (Context Key)) (tag : Argument) :
    Traced (Response Key) :=
  let call := callName .decrypt "final"
  match handle with
  | none => Response.rejected call handle none (.nullPointer "ctx")
  | some context =>
      match tag.read "tag" with
      | .error error => Response.rejected call handle none error
      | .ok tag => do
          let outcome ← context.finaliseDecryption tag
          Response.settled call outcome none

end GaloisCounter.Handle
