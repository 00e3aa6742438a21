import GaloisCounter.Config.Validation
import GaloisCounter.Session

/-!
A key with its settings and the message it is working on.

A context processes one message at a time: it is initialised, takes the text in pieces, and is
finalised. Then it can be initialised again.
-/

namespace GaloisCounter

inductive Phase
  | init
  /-- The associated data is absorbed and no text has arrived. -/
  | aadAbsorbed
  | streaming
  | finalised
  | failed
  deriving DecidableEq

namespace Phase

def name : Phase → String
  | init => "Init"
  | aadAbsorbed => "AadAbsorbed"
  | streaming => "Streaming"
  | finalised => "Finalized"
  | failed => "Failed"

def isOpen : Phase → Bool
  | aadAbsorbed => true
  | streaming => true
  | _ => false

end Phase

structure Context (Key : Type) where
  key : Key
  config : Config
  phase : Phase
  /-- The direction of the current message, or of the last one. -/
  direction : Option Direction
  session : Option Session
  deriving DecidableEq

namespace Context

def new (key : Key) (config : Config := {}) : Context Key where
  key := key
  config := config
  phase := .init
  direction := none
  session := none

def copy (context : Context Key) : Context Key where
  key := context.key
  config := context.config
  phase := context.phase
  direction := context.direction
  session := context.session

theorem copy_eq (context : Context Key) : context.copy = context := rfl

def aadLength (context : Context Key) : UInt64 :=
  context.session.elim 0 Session.aadLength

def processedLength (context : Context Key) : UInt64 :=
  context.session.elim 0 Session.textLength

def description (context : Context Key) : String :=
  let direction := match context.direction with
    | none => "None"
    | some direction => "Some(" ++ direction.description ++ ")"
  Text.record "GcmContext"
    [("config", context.config.description),
      ("phase", context.phase.name),
      ("direction", direction),
      ("aad_len", toString context.aadLength),
      ("processed_len", toString context.processedLength),
      ("state", Text.redacted)]

end Context

end GaloisCounter
