import GaloisCounter.Config.Basic

/-!
What a configuration accepts. Each check reports the first rule that is broken.
-/

namespace GaloisCounter.Config

/-- The length in bits of an initialisation vector has to fit 64 bits. -/
def maxIv : Nat := 0xFFFFFFFFFFFFFFFF / 8

def validateIv (config : Config) (iv : Bytes) : Except Error Unit :=
  if iv.isEmpty then
    .error (.zeroLength "iv")
  else if config.ivPolicy = .standardOnly ∧ iv.length ≠ 12 then
    .error (.ivNotStandard iv.length)
  else if iv.length > maxIv then
    .error (.ivTooLong iv.length)
  else
    .ok ()

def validateAad (config : Config) (aad : Bytes) : Except Error Unit :=
  if aad.isEmpty ∧ config.aadPolicy = .required then
    .error (.zeroLength "aad")
  else if aad.length > config.lengthLimit.maxAad then
    .error (.aadTooLong config.lengthLimit.maxAad aad.length)
  else
    .ok ()

def validateText (config : Config) (processed : UInt64) (additional : Nat) : Except Error Unit :=
  let limit := config.lengthLimit
  if additional > limit.maxUpdate then
    .error (.updateTooLong limit.maxUpdate additional)
  else if processed.toNat + additional > limit.maxMessage then
    .error (.messageTooLong limit.maxMessage processed.toNat additional)
  else
    .ok ()

end GaloisCounter.Config
