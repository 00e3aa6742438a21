import GaloisCounter.Block

/-!
Block ciphers, as far as this mode of operation needs them.

Only encryption is needed, of one block under a key that is already expanded, and nothing is assumed
of it.
-/

namespace GaloisCounter

class BlockCipher (Key : Type) where
  encrypt : Key → Block → Block

/-- Every function on blocks is a cipher that is keyed by itself. -/
instance : BlockCipher (Block → Block) where
  encrypt function := function

end GaloisCounter
