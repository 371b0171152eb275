import SealedToken.Field.Problem
import SealedToken.Field.Spelling
import SealedToken.Text.Case
import SealedToken.Text.Utf8
import SealedToken.Value

namespace SealedToken

namespace Value

/-- The bound on integers that come as doubles, and on those that are looked at as truth values. -/
def wordBound : Nat := Nat.pow 2 63

def readText : Value → Except FieldProblem Text
  | text t => .ok t
  | bytes bs =>
    match Utf8.decode bs with
    | .ok t => .ok t
    | .error _ => .error .textEncoding
  | _ => .error .notText

def readSpelledInt (t : Text) : Except FieldProblem Int :=
  if !Utf8.encodable t then .error .textEncoding
  else match Decimal.Spelling.ofText t with
    | .integer n => .ok n
    | .tooLong => .error .integerSize
    | .malformed => .error .integerSpelling

def readInt : Value → Except FieldProblem Int
  | int n => .ok n
  | bool b => .ok (if b then 1 else 0)
  | double (.finite s m e) =>
    if !Double.isWhole m e then .error .fraction
    else if wordBound ≤ Double.wholePart m e then .error .integerSize
    else .ok (Double.signed s (Double.wholePart m e))
  | double _ => .error .notFinite
  | text t => readSpelledInt t
  | bytes bs =>
    match Utf8.decode bs with
    | .ok t => readSpelledInt t
    | .error _ => .error .integerSpelling
  | _ => .error .notInteger

def trueWords : List Text :=
  ["1", "t", "y", "yes", "on", "true"]

def falseWords : List Text :=
  ["0", "f", "n", "no", "off", "false"]

def readBoolWord (t : Text) : Except FieldProblem Bool :=
  if trueWords.contains t.lower then .ok true
  else if falseWords.contains t.lower then .ok false
  else .error .boolSpelling

def readBit (n : Int) : Except FieldProblem Bool :=
  if n = 0 then .ok false else if n = 1 then .ok true else .error .boolSpelling

def readBool : Value → Except FieldProblem Bool
  | bool b => .ok b
  | int n => if -wordBound ≤ n ∧ n < wordBound then readBit n else .error .notBool
  | double (.finite s m e) =>
    if Double.isWhole m e && Double.wholePart m e < wordBound then
      readBit (Double.signed s (Double.wholePart m e))
    else .error .notBool
  | text t => if Utf8.encodable t then readBoolWord t else .error .textEncoding
  | bytes bs =>
    match Utf8.decode bs with
    | .ok t => readBoolWord t
    | .error _ => .error .boolSpelling
  | _ => .error .notBool

end Value

/-- The value under exactly this name, read; the name must be there. -/
def Fields.required (fs : Fields) (name : Text) (read : Value → Except FieldProblem α) :
    Except FieldProblem α :=
  match fs.get? name with
  | some v => read v
  | none => .error .missing

end SealedToken
