import SealedToken.Text.Basic

namespace SealedToken

inductive FaultClass
  | crypto
  | keyDerivation
  | encryption
  | decryption
  | value
  | malformedToken
  | malformedPayload
  | unicodeEncode
  | validation
  | overflow
  | key
  | type
  | missingAttribute
  | os
  deriving DecidableEq, Repr

namespace FaultClass

def name : FaultClass → Text
  | crypto => "CryptoError"
  | keyDerivation => "KeyDerivationError"
  | encryption => "EncryptionError"
  | decryption => "DecryptionError"
  | value => "ValueError"
  | malformedToken => "MalformedTokenError"
  | malformedPayload => "MalformedPayloadError"
  | unicodeEncode => "UnicodeEncodeError"
  | validation => "ValidationError"
  | overflow => "OverflowError"
  | key => "KeyError"
  | type => "TypeError"
  | missingAttribute => "AttributeError"
  | os => "OSError"

def parent? : FaultClass → Option FaultClass
  | keyDerivation | encryption | decryption => some crypto
  | malformedToken | malformedPayload | unicodeEncode | validation => some value
  | _ => none

theorem parent?_of_parent? {c base : FaultClass} (below : c.parent? = some base) :
    base.parent? = none := by
  cases c <;> cases below <;> rfl

/-- Whether a class is another one or below it. No class is two steps below another. -/
def isA (c base : FaultClass) : Bool :=
  c = base || c.parent? = some base

end FaultClass

end SealedToken
