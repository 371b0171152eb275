import SealedToken.Value

namespace SealedToken

namespace CodePoint

def isHighSurrogate (c : CodePoint) : Bool :=
  0xD800 ≤ c.val && c.val ≤ 0xDBFF

def isLowSurrogate (c : CodePoint) : Bool :=
  0xDC00 ≤ c.val && c.val ≤ 0xDFFF

def ofPair (high low : CodePoint) : CodePoint :=
  Fin.ofNat _ (0x10000 + 0x400 * (high.val - 0xD800) + (low.val - 0xDC00))

end CodePoint

def Text.joinPairs : Text → Text
  | c :: d :: t =>
    if c.isHighSurrogate && d.isLowSurrogate then CodePoint.ofPair c d :: joinPairs t
    else c :: joinPairs (d :: t)
  | t => t

namespace Value

mutual

def printed : Value → Except Decimal.TooLong Value
  | int n => do
    let _ ← Decimal.write n
    return int n
  | text t => return text t.joinPairs
  | bytes bs => return text (Quoted.writeBytes bs)
  | list vs => do return list (← printedList vs)
  | fields fs => do return fields (← printedFields fs)
  | v => return v

def printedList : List Value → Except Decimal.TooLong (List Value)
  | [] => return []
  | v :: vs => do return (← v.printed) :: (← printedList vs)

def printedFields : List (Text × Value) → Except Decimal.TooLong (List (Text × Value))
  | [] => return []
  | (n, v) :: fs => do return (n, ← v.printed) :: (← printedFields fs)

end

end Value

end SealedToken
