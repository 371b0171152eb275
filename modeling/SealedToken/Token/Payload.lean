import SealedToken.Text.Decimal
import SealedToken.Token.Parts

namespace SealedToken

structure Payload where
  session : Text
  issuedAt : Int
  deriving DecidableEq, Repr

inductive PayloadFault
  | noSeparator
  | notAnInteger
  | tooLong (fault : Decimal.TooLong)
  deriving DecidableEq, Repr

def PayloadFault.message : PayloadFault → Text
  | .noSeparator => "Decrypted payload has no separator"
  | .notAnInteger => "Decrypted payload timestamp is not an integer"
  | .tooLong f => f.message

/-- A time of too many digits is no malformed payload: it is the reading of the integer that fails. -/
def PayloadFault.faultClass : PayloadFault → FaultClass
  | .noSeparator | .notAnInteger => .malformedPayload
  | .tooLong _ => .value

theorem PayloadFault.isA_value (f : PayloadFault) : f.faultClass.isA .value = true := by
  cases f <;> rfl

namespace Payload

def render (p : Payload) : Except Decimal.TooLong Text := do
  return p.session ++ separator :: (← Decimal.write p.issuedAt)

def parse (t : Text) : Except PayloadFault Payload :=
  match Text.splitLast separator t with
  | none => .error .noSeparator
  | some (session, stamp) =>
    match Decimal.read stamp with
    | .error f => .error (.tooLong f)
    | .ok none => .error .notAnInteger
    | .ok (some n) => .ok ⟨session, n⟩

def isExpired (p : Payload) (now allowed : Int) : Bool :=
  p.issuedAt + allowed < now

end Payload

end SealedToken
