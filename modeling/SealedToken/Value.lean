import SealedToken.Named
import SealedToken.Number.Shortest
import SealedToken.Text.Quoted

namespace SealedToken

inductive Value
  | null
  | bool (b : Bool)
  | int (n : Int)
  | double (d : Double)
  | text (t : Text)
  | bytes (bs : Bytes)
  | list (vs : List Value)
  | fields (fs : List (Text × Value))

abbrev Fields := Named Value

namespace Value

/-- Whether a value counts as true: all do but null, false, zeros and what is empty. -/
def isTrue : Value → Bool
  | null => false
  | bool b => b
  | int n => n ≠ 0
  | double (.finite _ m _) => m ≠ 0
  | double _ => true
  | text t => !t.isEmpty
  | bytes bs => !bs.isEmpty
  | list vs => !vs.isEmpty
  | fields fs => !fs.isEmpty

def text? : Value → Option Text
  | text t => some t
  | _ => none

def typeName : Value → Text
  | null => "NoneType"
  | bool _ => "bool"
  | int _ => "int"
  | double _ => "float"
  | text _ => "str"
  | bytes _ => "bytes"
  | list _ => "list"
  | fields _ => "dict"

end Value

end SealedToken
