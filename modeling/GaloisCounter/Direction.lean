/-!
The direction in which a message is processed.
-/

namespace GaloisCounter

inductive Direction
  | encrypt
  | decrypt
  deriving DecidableEq

namespace Direction

def name : Direction → String
  | encrypt => "encryption"
  | decrypt => "decryption"

def description : Direction → String
  | encrypt => "Encrypt"
  | decrypt => "Decrypt"

end Direction

end GaloisCounter
