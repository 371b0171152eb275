import SealedToken.Token.Check

namespace SealedToken

structure Trial where
  shapes : List (Bool × Nat)
  unique : Bool
  valid : List Bool

namespace Trial

def isLowerHexDigit (c : CodePoint) : Bool :=
  (0x30 ≤ c.val && c.val ≤ 0x39) || (0x61 ≤ c.val && c.val ≤ 0x66)

def wellShaped (t : Text) : Bool :=
  match Parts.parse? t with
  | some p =>
    p.tokenId.length == 16 && p.tokenId.all isLowerHexDigit && !p.ciphertextHex.isEmpty &&
      p.ciphertextHex.all isLowerHexDigit
  | none => false

def issueAll (session : Option Text) (clock : Reading) :
    (count : Nat) → RandomSource → Except Fault (List (Option Text))
  | 0, _ => .ok []
  | count + 1, source => do
    let (call, source) := issueToken session clock source
    let token ← call.result
    return token :: (← issueAll session clock count source)

def run (session : Option Text) (allowed : Nat) (clock : Reading) (source : RandomSource)
    (count : Nat) : Except Fault Trial := do
  let tokens ← issueAll session clock count source
  let valid ← tokens.mapM fun t =>
    (checkToken ((t.map .text).getD .null) session allowed clock).result
  let shapes := (tokens.filterMap id).map fun t => (wellShaped t, t.length)
  let sorted := shapes.eraseDups.mergeSort fun a b =>
    a.1.toNat < b.1.toNat || (a.1 == b.1 && a.2 ≤ b.2)
  return ⟨sorted, tokens.eraseDups.length == tokens.length, valid⟩

end Trial

end SealedToken
