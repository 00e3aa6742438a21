import GaloisCounter.Direction
import GaloisCounter.Error
import GaloisCounter.GHash

/-!
What the library reports about its work while it runs.

An event carries counts, directions and errors, and no byte of a key or a message.
-/

namespace GaloisCounter

inductive Level
  | trace
  | debug
  | warn
  | error
  deriving DecidableEq

inductive Event
  | tagTruncated (bits recommended : Nat)
  | initialised (direction : Direction) (ivLength aadLength tagBits : Nat)
  | updated (direction : Direction) (length : Nat) (total : UInt64)
  | finalised (direction : Direction) (aadLength textLength : UInt64)
  | verificationFailed (textLength : UInt64)
  | selfTestPassed
  | selfTestFailed (backend : Backend)
  | callRejected (operation : String) (error : Error)
  | handleRefused (operation reason : String)
  deriving DecidableEq

namespace Level

def name : Level → String
  | trace => "TRACE"
  | debug => "DEBUG"
  | warn => "WARN"
  | error => "ERROR"

end Level

namespace Event

def level : Event → Level
  | tagTruncated .. => .warn
  | initialised .. => .debug
  | updated .. => .trace
  | finalised .. => .debug
  | verificationFailed .. => .warn
  | selfTestPassed => .debug
  | selfTestFailed .. => .error
  | callRejected .. => .debug
  | handleRefused .. => .debug

def message : Event → String
  | tagTruncated bits recommended =>
      "GCM tag truncated to " ++ toString bits ++ " bits; at least " ++ toString recommended ++
        " bits are recommended"
  | initialised direction ivLength aadLength tagBits =>
      "GCM " ++ direction.name ++ " initialised: iv=" ++ toString ivLength ++ " bytes, aad=" ++
        toString aadLength ++ " bytes, tag=" ++ toString tagBits ++ " bits"
  | updated direction length total =>
      "GCM " ++ direction.name ++ " update: " ++ toString length ++ " bytes, " ++ toString total ++
        " total"
  | finalised direction aadLength textLength =>
      "GCM " ++ direction.name ++ " finalised: aad=" ++ toString aadLength ++ " bytes, text=" ++
        toString textLength ++ " bytes"
  | verificationFailed textLength =>
      "GCM tag verification failed after " ++ toString textLength ++ " bytes"
  | selfTestPassed => "GCM self test passed"
  | selfTestFailed backend =>
      "GCM self test failed for the " ++ backend.name ++ " GHASH backend"
  | callRejected operation error =>
      operation ++ " rejected (code " ++ toString error.code ++ "): " ++ error.message
  | handleRefused operation reason => operation ++ " rejected: " ++ reason

def line (event : Event) : String := event.level.name ++ " " ++ event.message

end Event

end GaloisCounter
