import SealedToken.Number.Double
import SealedToken.Text.Basic

namespace SealedToken

inductive Reading
  | whole (n : Int)
  | double (d : Double)
  deriving DecidableEq, Repr

inductive ClockFault
  | notANumber
  | infinite
  | tooLarge
  deriving DecidableEq, Repr

def ClockFault.message : ClockFault → Text
  | .notANumber => "cannot convert float NaN to integer"
  | .infinite => "cannot convert float infinity to integer"
  | .tooLarge => "int too large to convert to float"

namespace Reading

def truncate : Reading → Except ClockFault Int
  | whole n => .ok n
  | double (.finite s m e) => .ok (Double.signed s (Double.wholePart m e))
  | double (.infinite _) => .error .infinite
  | double .nan => .error .notANumber

def toDouble : Reading → Except ClockFault Double
  | whole n =>
    match Double.ofInt? n with
    | some d => .ok d
    | none => .error .tooLarge
  | double d => .ok d

/-- The reading moved on: exactly between whole numbers, else as doubles. -/
def add : Reading → Reading → Except ClockFault Reading
  | whole m, whole n => .ok (whole (m + n))
  | r, s => do return double ((← r.toDouble).add (← s.toDouble))

end Reading

end SealedToken
