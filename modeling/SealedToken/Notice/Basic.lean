import SealedToken.Cipher.Derivation
import SealedToken.Cipher.Sealing
import SealedToken.FaultClass

namespace SealedToken

inductive CryptoFault
  | derivation (fault : DerivationFault)
  | sealing (fault : SealFault)
  | unsealing (fault : UnsealFault)
  deriving DecidableEq, Repr

namespace CryptoFault

def faultClass : CryptoFault → FaultClass
  | derivation _ => .keyDerivation
  | sealing _ => .encryption
  | unsealing _ => .decryption

def name (f : CryptoFault) : Text :=
  f.faultClass.name

def message : CryptoFault → Text
  | derivation f => f.message
  | sealing f => f.message
  | unsealing f => f.message

theorem isA_crypto (f : CryptoFault) : f.faultClass.isA .crypto = true := by
  cases f <;> rfl

end CryptoFault

/-- The cause of an internal failure: a fault of the codec, or one reported by a caller. -/
inductive Cause
  | crypto (fault : CryptoFault)
  | reported (name message : Text)
  deriving DecidableEq, Repr

namespace Cause

def name : Cause → Text
  | crypto f => f.name
  | reported n _ => n

def message : Cause → Text
  | crypto f => f.message
  | reported _ m => m

end Cause

inductive NoticeKind
  | misuse
  | validation
  | internal
  deriving DecidableEq, Repr

def NoticeKind.label : NoticeKind → Text
  | .misuse => "misuse"
  | .validation => "validation"
  | .internal => "internal"

def NoticeKind.request : NoticeKind → Text
  | .misuse => "notify_misuse"
  | .validation => "notify_validation_failure"
  | .internal => "notify_internal_failure"

inductive Notice
  | misuse (message : Text)
  | validation (message : Text)
  | internal (message : Text) (cause : Cause)
  deriving DecidableEq, Repr

namespace Notice

def kind : Notice → NoticeKind
  | misuse _ => .misuse
  | validation _ => .validation
  | internal _ _ => .internal

def message : Notice → Text
  | misuse m => m
  | validation m => m
  | internal m _ => m

def cause? : Notice → Option Cause
  | internal _ c => some c
  | _ => none

end Notice

end SealedToken
