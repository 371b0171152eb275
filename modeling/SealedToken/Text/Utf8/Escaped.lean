import SealedToken.Text.Utf8

namespace SealedToken.Utf8

def escapedByte (b : UInt8) : CodePoint :=
  Fin.ofNat _ (0xDC00 + b.toNat)

def byteOf? (c : CodePoint) : Option UInt8 :=
  if 0xDC80 ≤ c.val ∧ c.val ≤ 0xDCFF then some (UInt8.ofNat (c.val - 0xDC00)) else none

def isBarred (c : CodePoint) : Bool :=
  c.isSurrogate && (byteOf? c).isNone

/-- The bytes of a text without barred surrogates. Otherwise the fault reaches from the first of them
to the end of its run of surrogates. -/
def encodeEscaped (t : Text) : Except EncodeFault Bytes :=
  match t.dropWhile (!isBarred ·) with
  | [] => .ok (t.flatMap fun c => ((byteOf? c).map ([·])).getD (encodePoint c))
  | c :: rest =>
    .error ⟨t.length - (rest.length + 1), 1 + (rest.takeWhile (·.isSurrogate)).length, c⟩

def decodeEscapedFrom : (skip : Nat) → Bytes → Text
  | _, [] => []
  | skip + 1, _ :: bs => decodeEscapedFrom skip bs
  | 0, lead :: bs =>
    match tails? lead with
    | none => escapedByte lead :: decodeEscapedFrom 0 bs
    | some n =>
      if continued lead n bs = n then
        Fin.ofNat _ (spelled lead n bs) :: decodeEscapedFrom n bs
      else escapedByte lead :: decodeEscapedFrom 0 bs

def decodeEscaped (bs : Bytes) : Text :=
  decodeEscapedFrom 0 bs

end SealedToken.Utf8
