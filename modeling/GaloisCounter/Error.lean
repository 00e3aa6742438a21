/-!
What can go wrong with a call, and how it is reported.

Callers either broke a precondition, by an argument or by the order of their calls, or presented a
message that is not authentic.
-/

namespace GaloisCounter

abbrev ErrorCode := UInt32

namespace ErrorCode

/-! ## Arguments -/

def nullPointer : ErrorCode := 1001
def zeroLength : ErrorCode := 1002
def invalidTagLength : ErrorCode := 1003
def invalidIvLength : ErrorCode := 1004
def lengthLimitExceeded : ErrorCode := 1005
def outputTooSmall : ErrorCode := 1006
def invalidKeySize : ErrorCode := 1007

/-! ## Order of calls -/

def invalidPhase : ErrorCode := 2001
def directionMismatch : ErrorCode := 2002

/-! ## Authentication -/

def tagMismatch : ErrorCode := 3001

end ErrorCode

inductive Error
  | invalidParameter (parameter expected actual : String) (code : ErrorCode)
  | invalidState (operation phase : String) (code : ErrorCode)
  | authenticationFailed (operation cause : String) (code : ErrorCode)
  deriving DecidableEq

inductive ErrorCategory
  | invalidArgument
  | authenticationFailure
  deriving DecidableEq

namespace Error

/-! ## Causes -/

def byteCount (count : Nat) : String := toString count ++ " bytes"

def nullPointer (parameter : String) : Error :=
  invalidParameter parameter "a non-null pointer" "null" ErrorCode.nullPointer

def zeroLength (parameter : String) : Error :=
  invalidParameter parameter "a non-empty buffer" "0 bytes" ErrorCode.zeroLength

def tagLengthOutOfRange (length : Nat) : Error :=
  invalidParameter "tag_length" "8 to 16 bytes" (byteCount length) ErrorCode.invalidTagLength

def tagLengthMismatch (parameter : String) (expected actual : Nat) : Error :=
  invalidParameter parameter (byteCount expected) (byteCount actual) ErrorCode.invalidTagLength

def tagMissing (expected actual : Nat) : Error :=
  invalidParameter "ciphertext" ("at least " ++ byteCount expected) (byteCount actual)
    ErrorCode.invalidTagLength

def ivNotStandard (length : Nat) : Error :=
  invalidParameter "iv" "12 bytes" (byteCount length) ErrorCode.invalidIvLength

def ivTooLong (length : Nat) : Error :=
  invalidParameter "iv" "at most 2^61 - 1 bytes" (byteCount length) ErrorCode.invalidIvLength

def aadTooLong (limit length : Nat) : Error :=
  invalidParameter "aad" ("at most " ++ byteCount limit) (byteCount length)
    ErrorCode.lengthLimitExceeded

def updateTooLong (limit length : Nat) : Error :=
  invalidParameter "input" ("at most " ++ byteCount limit ++ " per call") (byteCount length)
    ErrorCode.lengthLimitExceeded

def messageTooLong (limit processed additional : Nat) : Error :=
  invalidParameter "input" ("at most " ++ byteCount limit ++ " per message")
    (toString processed ++ " + " ++ byteCount additional) ErrorCode.lengthLimitExceeded

def outputTooSmall (parameter : String) (needed actual : Nat) : Error :=
  invalidParameter parameter ("at least " ++ byteCount needed) (byteCount actual)
    ErrorCode.outputTooSmall

def keySize (length : Nat) : Error :=
  invalidParameter "key" "16, 24 or 32 bytes" (byteCount length) ErrorCode.invalidKeySize

def invalidPhase (operation phase : String) : Error :=
  invalidState operation phase ErrorCode.invalidPhase

def directionMismatch (operation phase : String) : Error :=
  invalidState operation phase ErrorCode.directionMismatch

def notAuthentic (operation cause : String) : Error :=
  authenticationFailed operation cause ErrorCode.tagMismatch

/-! ## Reports -/

def code : Error → ErrorCode
  | invalidParameter _ _ _ code => code
  | invalidState _ _ code => code
  | authenticationFailed _ _ code => code

def category : Error → ErrorCategory
  | invalidParameter .. => .invalidArgument
  | invalidState .. => .invalidArgument
  | authenticationFailed .. => .authenticationFailure

def isAuthenticationFailure (error : Error) : Bool :=
  error.category = .authenticationFailure

def kind : Error → String
  | invalidParameter .. => "InvalidParameter"
  | invalidState .. => "InvalidState"
  | authenticationFailed .. => "AuthenticationFailed"

def message : Error → String
  | invalidParameter parameter expected actual _ =>
      "Invalid parameter: " ++ parameter ++ " - expected " ++ expected ++ " - got " ++ actual
  | invalidState operation phase _ =>
      "Invalid state: " ++ operation ++ " is not permitted in the " ++ phase ++ " phase"
  | authenticationFailed operation cause _ =>
      "Authentication failed: " ++ operation ++ " - " ++ cause

def friendlyMessage : Error → String
  | invalidParameter parameter expected _ _ =>
      "Invalid parameter '" ++ parameter ++ "'. Expected " ++ expected ++ "."
  | invalidState operation phase _ =>
      "Operation '" ++ operation ++ "' cannot be performed while the context is in the '" ++ phase ++
        "' phase."
  | authenticationFailed .. =>
      "Message authentication failed. " ++
        "The data may have been tampered with and must be discarded."

/-- What the caller can do. The code alone decides, whatever the kind of the error. -/
def remediation (error : Error) : Option String :=
  let code := error.code
  if code = ErrorCode.invalidTagLength then
    some "Use a tag of 12 to 16 bytes. Tags shorter than 8 bytes are never accepted."
  else if code = ErrorCode.invalidIvLength then
    some "Use a 12-byte IV. Other lengths are only accepted with IvPolicy::Any."
  else if code = ErrorCode.lengthLimitExceeded then
    some "Split the message or switch the configuration to LengthLimit::Standard."
  else if code = ErrorCode.invalidPhase ∨ code = ErrorCode.directionMismatch then
    some "Call init, then update any number of times, then the matching finalize."
  else if code = ErrorCode.tagMismatch then
    some "Discard all plaintext produced for this message. Check key, IV and AAD."
  else
    none

end Error

namespace ErrorCategory

def name : ErrorCategory → String
  | invalidArgument => "InvalidArgument"
  | authenticationFailure => "AuthenticationFailure"

end ErrorCategory

end GaloisCounter
