import SealedToken.Text.Hex
import SealedToken.Text.Printable

namespace SealedToken.Quoted

def single : CodePoint := 0x27

def double : CodePoint := 0x22

def backslash : CodePoint := 0x5C

def quote (t : Text) : CodePoint :=
  if single ∈ t ∧ double ∉ t then double else single

def eightDigits (n : Nat) : Text :=
  Hex.encode [UInt8.ofNat (n / 16777216), UInt8.ofNat (n / 65536 % 256),
    UInt8.ofNat (n / 256 % 256), UInt8.ofNat (n % 256)]

def escape (q c : CodePoint) : Text :=
  if c = q ∨ c = backslash then [backslash, c]
  else if c.val = 0x0A then [backslash, 0x6E]
  else if c.val = 0x0D then [backslash, 0x72]
  else if c.val = 0x09 then [backslash, 0x74]
  else if c.printable then [c]
  else if c.val < 0x100 then backslash :: 0x78 :: (eightDigits c.val).drop 6
  else if c.val < 0x10000 then backslash :: 0x75 :: (eightDigits c.val).drop 4
  else backslash :: 0x55 :: eightDigits c.val

def write (t : Text) : Text :=
  quote t :: t.flatMap (escape (quote t)) ++ [quote t]

def escapeByte (q : CodePoint) (b : UInt8) : Text :=
  let c := Fin.ofNat _ b.toNat
  if b < 0x80 then escape q c else backslash :: 0x78 :: (eightDigits b.toNat).drop 6

def writeBytes (bs : Bytes) : Text :=
  let q := quote (bs.map fun b => Fin.ofNat _ b.toNat)
  0x62 :: q :: bs.flatMap (escapeByte q) ++ [q]

end SealedToken.Quoted
