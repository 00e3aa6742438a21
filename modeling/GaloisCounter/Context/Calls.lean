import GaloisCounter.Context.Basic

/-!
The calls that drive a context.

All arguments and the phase are checked before anything is changed, so a rejected call leaves the
context and the caller's buffer as they were. A tag that does not match is no rejection: it ends the
message.
-/

namespace GaloisCounter

structure Outcome (Key Answer : Type) where
  answer : Except Error Answer
  context : Context Key

structure BufferOutcome (Key Answer : Type) extends Outcome Key Answer where
  buffer : Bytes

namespace Context

variable {Key : Type}

/-! ## Starting a message -/

/-- Starts a message. What was left of an earlier one is dropped. -/
def initialise [BlockCipher Key] (context : Context Key) (direction : Direction)
    (iv aad : Bytes) : Traced (Outcome Key Unit) :=
  let config := context.config
  match (do config.validateIv iv; config.validateAad aad : Except Error Unit) with
  | .error error => return { answer := .error error, context }
  | .ok () => do
      let session ← Session.start context.key config.backend iv aad
      Traced.report (.initialised direction iv.length aad.length config.tagLength.bits)
      return {
        answer := .ok ()
        context := { context with
          session := some session
          direction := some direction
          phase := .aadAbsorbed } }

/-! ## Processing text -/

def checkUpdate (context : Context Key) (length : Nat) : Except Error Unit :=
  if !context.phase.isOpen then
    .error (.invalidPhase "update" context.phase.name)
  else if length = 0 then
    .error (.zeroLength "input")
  else
    context.config.validateText context.processedLength length

def process [BlockCipher Key] (context : Context Key) (data : Bytes) :
    Traced (Context Key × Bytes) :=
  match context.session, context.direction with
  | some session, some direction => do
      let (session, output) ← session.process context.key direction data
      Traced.report (.updated direction data.length session.textLength)
      return ({ context with session := some session, phase := .streaming }, output)
  | _, _ => return (context, data)

/-- Processes text into the front of an output buffer and answers the number of bytes written. -/
def update [BlockCipher Key] (context : Context Key) (input output : Bytes) :
    Traced (BufferOutcome Key Nat) :=
  if output.length < input.length then
    let error := Error.outputTooSmall "output" input.length output.length
    return { answer := .error error, context, buffer := output }
  else
    match context.checkUpdate input.length with
    | .error error => return { answer := .error error, context, buffer := output }
    | .ok () => do
        let (context, written) ← context.process input
        return {
          answer := .ok input.length
          context
          buffer := written ++ output.drop input.length }

def updateInPlace [BlockCipher Key] (context : Context Key) (buffer : Bytes) :
    Traced (BufferOutcome Key Unit) :=
  match context.checkUpdate buffer.length with
  | .error error => return { answer := .error error, context, buffer }
  | .ok () => do
      let (context, buffer) ← context.process buffer
      return { answer := .ok (), context, buffer }

/-! ## Completing a message -/

def checkFinalise (context : Context Key) (operation : String) (expected : Direction) :
    Except Error Unit :=
  if !context.phase.isOpen then
    .error (.invalidPhase operation context.phase.name)
  else if context.direction ≠ some expected then
    let actual := context.direction.elim "none" Direction.name
    .error (.directionMismatch operation (context.phase.name ++ " (" ++ actual ++ ")"))
  else
    .ok ()

def checkTagLength (context : Context Key) (length : Nat) : Traced (Except Error Unit) := do
  match ← TagLength.ofBytes length with
  | .error error => return .error error
  | .ok received =>
      if received = context.config.tagLength then
        return .ok ()
      else
        return .error (.tagLengthMismatch "tag" context.config.tagLength.bytes length)

def finaliseEncryption [BlockCipher Key] (context : Context Key) : Traced (Outcome Key Tag) :=
  let operation := "finalize_encryption"
  match context.checkFinalise operation .encrypt with
  | .error error => return { answer := .error error, context }
  | .ok () =>
      match context.session with
      | none =>
          return { answer := .error (.invalidPhase operation context.phase.name), context }
      | some session => do
          let block ← session.tagBlock context.key
          Traced.report (.finalised .encrypt session.aadLength session.textLength)
          return {
            answer := .ok (Tag.ofBlock block context.config.tagLength)
            context := { context with session := none, phase := .finalised } }

def finaliseDecryption [BlockCipher Key] (context : Context Key) (tag : Bytes) :
    Traced (Outcome Key Unit) := do
  let operation := "finalize_decryption"
  match context.checkFinalise operation .decrypt with
  | .error error => return { answer := .error error, context }
  | .ok () =>
      match ← context.checkTagLength tag.length with
      | .error error => return { answer := .error error, context }
      | .ok () =>
          match context.session with
          | none =>
              return { answer := .error (.invalidPhase operation context.phase.name), context }
          | some session => do
              let block ← session.tagBlock context.key
              if Tag.verifyBlock block tag then
                Traced.report (.finalised .decrypt session.aadLength session.textLength)
                return {
                  answer := .ok ()
                  context := { context with session := none, phase := .finalised } }
              else
                Traced.report (.verificationFailed session.textLength)
                return {
                  answer := .error (.notAuthentic operation "tag mismatch")
                  context := { context with session := none, phase := .failed } }

end Context

end GaloisCounter
