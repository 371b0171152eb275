import SealedToken.Number.Double
import SealedToken.Text.Decimal

namespace SealedToken.Double

/-- The numbers that round to m · 2^e, as a range of multiples of 2^(e-2): below the least mantissa
of 53 bits the neighbour is at half the distance. The ends belong to it if the mantissa is even. -/
structure Interval where
  low : Nat
  value : Nat
  high : Nat
  exponent : Int
  closed : Bool

def interval (m : Nat) (e : Int) : Interval :=
  let near := m = power 2 52 ∧ minExponent < e
  ⟨4 * m - (if near then 1 else 2), 4 * m, 4 * m + 2, e - 2, m % 2 = 0⟩

/-- The candidate on the grid of multiples of 10^k that lies in the interval and is nearest to its
value, if there is one. -/
def Interval.onGrid? (i : Interval) (k : Int) : Option Nat :=
  let unit := power 2 i.exponent * power 10 (-k)
  let step := power 10 k * power 2 (-i.exponent)
  let inside (c : Nat) : Bool :=
    if i.closed then i.low * unit ≤ c * step && c * step ≤ i.high * unit
    else i.low * unit < c * step && c * step < i.high * unit
  let below := i.value * unit / step
  let rest := i.value * unit % step
  match inside below, inside (below + 1) with
  | true, false => some below
  | false, true => some (below + 1)
  | true, true =>
    if 2 * rest < step ∨ (2 * rest = step ∧ below % 2 = 0) then some below else some (below + 1)
  | false, false => none

def places (x : Nat) (f : Int) : Int :=
  let guess : Int := (x.log2 + f) * 30103 / 100000
  let atLeast (p : Int) : Bool :=
    power 10 p * power 2 (-f) ≤ x * power 2 f * power 10 (-p)
  if atLeast (guess + 1) then guess + 2 else if atLeast guess then guess + 1 else guess

def search (i : Interval) (p : Int) : (count digits : Nat) → Nat × Int
  | 0, digits => ((i.onGrid? (p - digits)).getD 0, p - digits)
  | count + 1, digits =>
    match i.onGrid? (p - digits) with
    | some c => (c, p - digits)
    | none => search i p count (digits + 1)

def dropZeros : (fuel : Nat) → Nat × Int → Nat × Int
  | 0, p => p
  | fuel + 1, (n, k) => if n % 10 = 0 then dropZeros fuel (n / 10, k + 1) else (n, k)

def zeros (n : Nat) : Text :=
  List.replicate n 0x30

/-- Digits with the point after the first `point` of them: positional near the point, else with an
exponent of at least two digits. -/
def layout (digits : Text) (point : Int) : Text :=
  if -4 < point ∧ point ≤ 16 then
    if point ≤ 0 then "0." ++ zeros (-point).toNat ++ digits
    else if digits.length ≤ point.toNat then
      digits ++ zeros (point.toNat - digits.length) ++ ".0"
    else digits.take point.toNat ++ "." ++ digits.drop point.toNat
  else
    let exponent := point - 1
    let mantissa : Text :=
      if digits.length ≤ 1 then digits else digits.take 1 ++ "." ++ digits.drop 1
    let sign : Text := if exponent < 0 then "-" else "+"
    let size := Decimal.ofNat exponent.natAbs
    mantissa ++ "e" ++ sign ++ (if size.length < 2 then "0" ++ size else size)

def text : Double → Text
  | .nan => "nan"
  | .infinite negative => if negative then "-inf" else "inf"
  | .finite negative m e =>
    let sign : Text := if negative then "-" else []
    if m = 0 then sign ++ "0.0"
    else
      let i := interval m e
      let (c, k) := dropZeros 20 (search i (places i.value i.exponent) 16 1)
      let digits := Decimal.ofNat c
      sign ++ layout digits (digits.length + k)

end SealedToken.Double
