import SealedToken.Text.Blank
import SealedToken.Text.Decimal
import SealedToken.Text.Split

namespace SealedToken.Decimal

def zero : CodePoint := 0x30

def underscore : CodePoint := 0x5F

def point : CodePoint := 0x2E

def leadingDigits : Text → List (Fin 10) × Text
  | [] => ([], [])
  | c :: t =>
    match value? c with
    | some d =>
      let (ds, rest) := leadingDigits t
      (d :: ds, rest)
    | none => ([], c :: t)

/-- What a text is, taken for an integer. One that begins with more digits than are read is too
long, whatever follows them. -/
inductive Spelling
  | integer (n : Int)
  | tooLong
  | malformed
  deriving DecidableEq, Repr

namespace Spelling

def ofUnsigned (negative : Bool) (t : Text) : Spelling :=
  match leadingDigits t with
  | ([], _) => malformed
  | (d :: ds, rest) =>
    if d = 0 then if ds.isEmpty && rest.isEmpty then integer 0 else malformed
    else if maxDigits < ds.length + 1 then tooLong
    else if rest.isEmpty then integer (signed negative (ofDigits (d :: ds)))
    else malformed

def ofCanonical : Text → Spelling
  | [] => malformed
  | c :: t => if c = minus then ofUnsigned true t else ofUnsigned false (c :: t)

end Spelling

/-- What follows the zeros and underscores in front of a number, `last` being the one before. It may
begin with a minus sign. A number that is zero keeps the last of them. -/
def afterZeros? (last : CodePoint) : Text → Option Text
  | [] => some [last]
  | c :: t =>
    if c = zero ∨ c = underscore then afterZeros? c t
    else if c = minus ∨ (value? c).isSome then some (c :: t)
    else if c = point then some (last :: c :: t)
    else none

def dropZeros? : Text → Option Text
  | [] => none
  | c :: t =>
    if c = zero then afterZeros? zero t
    else if (value? c).isSome then some (c :: t)
    else none

def dropFraction (t : Text) : Text :=
  match Text.splitFirst point t with
  | some (whole, fraction) =>
    if fraction.isEmpty || fraction.any (· ≠ zero) then t else whole
  | none => t

def hasDoubled (c : CodePoint) : Text → Bool
  | x :: y :: t => (x = c && y = c) || hasDoubled c (y :: t)
  | _ => false

/-- A text without its underscores, if each of them stands alone between others. -/
def dropUnderscores (t : Text) : Text :=
  if t.head? = some underscore || t.getLast? = some underscore || hasDoubled underscore t then t
  else t.filter (· ≠ underscore)

def tidy? (t : Text) : Option Text :=
  let (negative, t) := splitSign t.trim
  (dropZeros? t).map fun t =>
    dropUnderscores (dropFraction (if negative then minus :: t else t))

/-- Reads a spelling as it stands, or tidied. -/
def Spelling.ofText (t : Text) : Spelling :=
  match ofCanonical t with
  | malformed =>
    match (tidy? t).map ofCanonical with
    | some (integer n) => integer n
    | _ => malformed
  | s => s

end SealedToken.Decimal
