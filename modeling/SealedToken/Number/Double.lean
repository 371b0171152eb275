namespace SealedToken

/-- The quotient rounded to the nearest whole number, and to the even one of two equally near. -/
def roundQuotient (num den : Nat) : Nat :=
  let q := num / den
  let r := num % den
  if 2 * r < den then q else if den < 2 * r then q + 1 else q + q % 2

/-- A double. The finite ones are ±mantissa · 2^exponent. -/
inductive Double
  | finite (negative : Bool) (mantissa : Nat) (exponent : Int)
  | infinite (negative : Bool)
  | nan
  deriving DecidableEq, Repr

namespace Double

/-- A power of a base; one if the exponent is negative. -/
def power (base : Nat) (exponent : Int) : Nat :=
  base.pow exponent.toNat

def minExponent : Int := -1074

def maxExponent : Int := 972

def ofQuotient (negative : Bool) (num den : Nat) : Double :=
  if num = 0 then .finite negative 0 minExponent
  else
    let guess : Int := num.log2 - den.log2 - 52
    let exact : Int :=
      if num * power 2 (-guess) < den * power 2 guess * power 2 52 then guess - 1 else guess
    let exponent := max exact minExponent
    let mantissa := roundQuotient (num * power 2 (-exponent)) (den * power 2 exponent)
    let (mantissa, exponent) :=
      if mantissa = power 2 53 then (power 2 52, exponent + 1) else (mantissa, exponent)
    if maxExponent ≤ exponent then .infinite negative else .finite negative mantissa exponent

/-- The nearest double to ±digits · 10^exponent. Where the exponent alone puts a number out of range,
no power is taken. -/
def ofDecimal (negative : Bool) (digits : Nat) (exponent : Int) : Double :=
  if digits = 0 ∨ exponent < -(400 + digits.log2 : Nat) then .finite negative 0 minExponent
  else if 400 < exponent then .infinite negative
  else ofQuotient negative (digits * power 10 exponent) (power 10 (-exponent))

def ofInt? (n : Int) : Option Double :=
  match ofQuotient (n < 0) n.natAbs 1 with
  | .finite s m e => some (.finite s m e)
  | _ => none

/-- The nearest double to mantissa · 2^exponent. A zero takes the given sign. -/
def ofScaled (zeroSign : Bool) (mantissa : Int) (exponent : Int) : Double :=
  ofQuotient (if mantissa = 0 then zeroSign else mantissa < 0)
    (mantissa.natAbs * power 2 exponent) (power 2 (-exponent))

def signed (negative : Bool) (n : Nat) : Int :=
  if negative then -(n : Int) else n

def add : Double → Double → Double
  | .nan, _ => .nan
  | _, .nan => .nan
  | .infinite s, .infinite t => if s = t then .infinite s else .nan
  | .infinite s, _ => .infinite s
  | _, .infinite t => .infinite t
  | .finite s m e, .finite t n f =>
    let g := min e f
    ofScaled (s && t)
      (signed s (m * power 2 (e - g)) + signed t (n * power 2 (f - g))) g

def wholePart (mantissa : Nat) (exponent : Int) : Nat :=
  mantissa * power 2 exponent / power 2 (-exponent)

def isWhole (mantissa : Nat) (exponent : Int) : Bool :=
  mantissa % power 2 (-exponent) = 0

end Double

end SealedToken
