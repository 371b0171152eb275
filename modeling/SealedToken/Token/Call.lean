import SealedToken.Clock
import SealedToken.Notice.Basic
import SealedToken.Token.Payload

namespace SealedToken

/-- Why a call is refused. Rejected tokens and sessions are no such case: they give a notice. -/
inductive Fault
  | emptySession
  | noSession
  | noTokenName
  | noExpiry
  | negativeExpiry
  | noSink
  | twoSources
  | tokenIdSize
  | integer (fault : Decimal.TooLong)
  | clock (fault : ClockFault)
  | unknownName (name : Text)
  deriving DecidableEq, Repr

def Fault.message : Fault → Text
  | .emptySession => "Token cannot be generated from an empty session id"
  | .noSession => "Provided session id is None"
  | .noTokenName => "Provided CSRF token name is None"
  | .noExpiry => "Provided token expiration is None"
  | .negativeExpiry => "Provided token expiration is negative"
  | .noSink => "Provided diagnostics sink is None"
  | .twoSources => "Pass either crypto or random_source, not both"
  | .tokenIdSize => "Token ID length must be positive"
  | .integer f => f.message
  | .clock f => f.message
  | .unknownName n => Quoted.write n

def Fault.faultClass : Fault → FaultClass
  | .clock .infinite | .clock .tooLarge => .overflow
  | .unknownName _ => .key
  | _ => .value

theorem Fault.not_isA_crypto (f : Fault) : f.faultClass.isA .crypto = false := by
  cases f with
  | clock f => cases f <;> rfl
  | _ => rfl

structure Call (α : Type) where
  result : Except Fault α
  notice : Option Notice := none
  draws : List Nat := []
  reads : Nat := 0
  debug : List Text := []

end SealedToken
