import SealedToken.Text.Decimal
import SealedToken.Text.Hex

namespace SealedToken.Utf8

/-- The bytes of one code point; for a surrogate, bytes that no text decodes from. -/
def encodePoint (c : CodePoint) : Bytes :=
  if c.val < 0x80 then [UInt8.ofNat c.val]
  else if c.val < 0x800 then
    [UInt8.ofNat (0xC0 + c.val / 64), UInt8.ofNat (0x80 + c.val % 64)]
  else if c.val < 0x10000 then
    [UInt8.ofNat (0xE0 + c.val / 4096), UInt8.ofNat (0x80 + c.val / 64 % 64),
      UInt8.ofNat (0x80 + c.val % 64)]
  else
    [UInt8.ofNat (0xF0 + c.val / 262144), UInt8.ofNat (0x80 + c.val / 4096 % 64),
      UInt8.ofNat (0x80 + c.val / 64 % 64), UInt8.ofNat (0x80 + c.val % 64)]

def bytes (t : Text) : Bytes :=
  t.flatMap encodePoint

def encodable (t : Text) : Bool :=
  t.all (!·.isSurrogate)

/-- The first maximal run of surrogates: where it starts, its length and its first code point. -/
structure EncodeFault where
  start : Nat
  length : Nat
  point : CodePoint
  deriving DecidableEq, Repr

def surrogateRun (t : Text) : EncodeFault :=
  let start := (t.takeWhile (!·.isSurrogate)).length
  let run := (t.dropWhile (!·.isSurrogate)).takeWhile (·.isSurrogate)
  ⟨start, run.length, run.headD 0⟩

def fourDigits (c : CodePoint) : Text :=
  Hex.encode [UInt8.ofNat (c.val / 256), UInt8.ofNat (c.val % 256)]

def EncodeFault.message (f : EncodeFault) : Text :=
  if f.length = 1 then
    "'utf-8' codec can't encode character '\\u" ++ fourDigits f.point ++ "' in position " ++
      Decimal.ofNat f.start ++ ": surrogates not allowed"
  else
    "'utf-8' codec can't encode characters in position " ++ Decimal.ofNat f.start ++ "-" ++
      Decimal.ofNat (f.start + f.length - 1) ++ ": surrogates not allowed"

def encode (t : Text) : Except EncodeFault Bytes :=
  if encodable t then .ok (bytes t) else .error (surrogateRun t)

def replacement : CodePoint := 0xFFFD

def replaced (t : Text) : Text :=
  t.flatMap fun c => if c.isSurrogate then (encodePoint c).map fun _ => replacement else [c]

inductive Reason
  | invalidStart
  | invalidContinuation
  | unexpectedEnd
  deriving DecidableEq, Repr

def Reason.message : Reason → Text
  | .invalidStart => "invalid start byte"
  | .invalidContinuation => "invalid continuation byte"
  | .unexpectedEnd => "unexpected end of data"

/-- The first bytes that begin no code point: where they start, how many they are, and the first. -/
structure DecodeFault where
  start : Nat
  length : Nat
  byte : UInt8
  reason : Reason
  deriving DecidableEq, Repr

def DecodeFault.message (f : DecodeFault) : Text :=
  if f.length = 1 then
    "'utf-8' codec can't decode byte 0x" ++ Hex.encode [f.byte] ++ " in position " ++
      Decimal.ofNat f.start ++ ": " ++ f.reason.message
  else
    "'utf-8' codec can't decode bytes in position " ++ Decimal.ofNat f.start ++ "-" ++
      Decimal.ofNat (f.start + f.length - 1) ++ ": " ++ f.reason.message

def tails? (lead : UInt8) : Option Nat :=
  if lead < 0x80 then some 0
  else if lead < 0xC2 then none
  else if lead < 0xE0 then some 1
  else if lead < 0xF0 then some 2
  else if lead < 0xF5 then some 3
  else none

/-- Whether `b` may follow the lead byte. The lead bytes E0 and F0 exclude the longer spellings of
smaller code points, ED the surrogates, and F4 all above 10FFFF. -/
def second (lead b : UInt8) : Bool :=
  if lead = 0xE0 then 0xA0 ≤ b && b ≤ 0xBF
  else if lead = 0xED then 0x80 ≤ b && b ≤ 0x9F
  else if lead = 0xF0 then 0x90 ≤ b && b ≤ 0xBF
  else if lead = 0xF4 then 0x80 ≤ b && b ≤ 0x8F
  else 0x80 ≤ b && b ≤ 0xBF

def continuation (b : UInt8) : Bool :=
  0x80 ≤ b && b ≤ 0xBF

def continued (lead : UInt8) (n : Nat) : Bytes → Nat
  | [] => 0
  | b :: bs =>
    if n ≠ 0 && second lead b then 1 + ((bs.take (n - 1)).takeWhile continuation).length else 0

def leadBits (lead : UInt8) (n : Nat) : Nat :=
  match n with
  | 0 => lead.toNat
  | 1 => lead.toNat - 0xC0
  | 2 => lead.toNat - 0xE0
  | _ => lead.toNat - 0xF0

def spelled (lead : UInt8) (n : Nat) (tails : Bytes) : Nat :=
  (tails.take n).foldl (fun v b => 64 * v + (b.toNat - 0x80)) (leadBits lead n)

/-- Decodes from position `pos` on, after passing over `skip` bytes that belong to the code point
before. -/
def decodeFrom (pos : Nat) : (skip : Nat) → Bytes → Except DecodeFault Text
  | _, [] => .ok []
  | skip + 1, _ :: bs => decodeFrom (pos + 1) skip bs
  | 0, lead :: bs =>
    match tails? lead with
    | none => .error ⟨pos, 1, lead, .invalidStart⟩
    | some n =>
      let k := continued lead n bs
      if k = n then
        (Fin.ofNat _ (spelled lead n bs) :: ·) <$> decodeFrom (pos + 1) n bs
      else if k = bs.length then .error ⟨pos, k + 1, lead, .unexpectedEnd⟩
      else .error ⟨pos, k + 1, lead, .invalidContinuation⟩

def decode (bs : Bytes) : Except DecodeFault Text :=
  decodeFrom 0 0 bs

end SealedToken.Utf8
