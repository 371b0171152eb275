import SealedToken.FaultClass
import SealedToken.Text.Blank
import SealedToken.Text.Utf8.Escaped
import SealedToken.Value

namespace SealedToken

inductive EnvironmentFault
  | encoding (fault : Utf8.EncodeFault)
  | notText (type : Text)
  | zeroByte
  | equalsInName
  | noName
  deriving DecidableEq, Repr

def EnvironmentFault.message : EnvironmentFault → Text
  | .encoding f => f.message
  | .notText type => "str expected, not " ++ type
  | .zeroByte => "embedded null byte"
  | .equalsInName => "illegal environment variable name"
  | .noName => "[Errno 22] Invalid argument"

def EnvironmentFault.faultClass : EnvironmentFault → FaultClass
  | .encoding _ => .unicodeEncode
  | .notText _ => .type
  | .zeroByte | .equalsInName => .value
  | .noName => .os

abbrev Environment := Named Text

namespace Environment

def equals : CodePoint := 0x3D

def zero : CodePoint := Fin.ofNat _ 0

def held (t : Text) : Except EnvironmentFault Text := do
  return Utf8.decodeEscaped (← (Utf8.encodeEscaped t).mapError .encoding)

def heldValue : Value → Except EnvironmentFault Text
  | .text t => held t
  | v => .error (.notText v.typeName)

def set (env : Environment) (name : Text) (value : Value) : Except EnvironmentFault Environment := do
  let name ← held name
  let value ← heldValue value
  if name.contains zero || value.contains zero then .error .zeroByte
  else if name.contains equals then .error .equalsInName
  else if name.isEmpty then .error .noName
  else return Named.put name value env

def assign (env : Environment) (name : Text) : Value → Except EnvironmentFault Environment
  | .null => .ok (Named.erase name env)
  | v => env.set name v

def assignAll (env : Environment) : Fields → Option EnvironmentFault × Environment
  | [] => (none, env)
  | (name, v) :: changes =>
    match env.assign name v with
    | .ok env => env.assignAll changes
    | .error f => (some f, env)

end Environment

namespace EnvironmentFile

def newline : CodePoint := 0x0A

def carriageReturn : CodePoint := 0x0D

def hash : CodePoint := 0x23

def byteOrderMark : CodePoint := 0xFEFF

/-- Lines end at a line feed or a carriage return; the blank lines between the two do not matter. -/
def lines (t : Text) : List Text :=
  (t.map fun c => if c = carriageReturn then newline else c).splitOn newline

def dropComment : Text → Text
  | c :: d :: t => if c.isSpace && d = hash then [] else c :: dropComment (d :: t)
  | t => t

def inName (c : CodePoint) : Bool :=
  c ≠ Environment.equals && c ≠ hash && !c.isSpace

def valueOf (t : Text) : Text :=
  Text.trimRight CodePoint.isSpace ((dropComment t).dropWhile CodePoint.isSpace)

/-- The name on a line and the value after its equals sign. A name may stand without a value; a line
without a name, and one that goes on in another way, has no entry. -/
def entry? (line : Text) : Option (Text × Option Text) :=
  let line := line.dropWhile CodePoint.isSpace
  let name := line.takeWhile inName
  if name.isEmpty then none
  else match (line.dropWhile inName).dropWhile CodePoint.isSpace with
    | [] => some (name, none)
    | c :: t =>
      if c = Environment.equals then some (name, some (valueOf t))
      else if c = hash then some (name, none)
      else none

/-- The entries of a file. A name that comes again takes a new value in its old place. -/
def parse (t : Text) : Named (Option Text) :=
  let t := if t.head? = some byteOrderMark then t.drop 1 else t
  Named.merge [] ((lines t).filterMap entry?)

end EnvironmentFile

end SealedToken
