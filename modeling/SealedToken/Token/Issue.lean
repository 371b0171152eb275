import SealedToken.RandomSource
import SealedToken.Token.Call

namespace SealedToken

def tokenIdSize : Nat := 8

def drawTokenId (source : RandomSource) (size : Int) : Call Text × RandomSource :=
  if size ≤ 0 then ({ result := .error .tokenIdSize }, source)
  else
    let (bytes, source) := source.draw size.toNat
    ({ result := .ok (Hex.encode bytes), draws := [size.toNat] }, source)

/-- Seals a session and a time under a token identifier. Only the writing of the time is refused
outright; what fails otherwise is the cryptography. -/
def sealToken (session tokenId : Text) (now : Int) :
    Except Decimal.TooLong (Except CryptoFault Text) :=
  match deriveKey session, deriveNonce tokenId with
  | .error f, _ => .ok (.error (.derivation f))
  | .ok _, .error f => .ok (.error (.derivation f))
  | .ok key, .ok nonce => do
    let plaintext ← Payload.render ⟨session, now⟩
    match sealText key nonce plaintext with
    | .error f => return .error (.sealing f)
    | .ok bytes => return .ok (Parts.encode ⟨tokenId, Hex.encode bytes⟩)

def unsuitable (doing : Text) (p : SessionProblem) : Notice :=
  .misuse ("Token cannot be " ++ doing ++ ": " ++ p.message)

def issueToken (session : Option Text) (clock : Reading) (source : RandomSource) :
    Call (Option Text) × RandomSource :=
  match session with
  | none | some [] => ({ result := .error .emptySession }, source)
  | some session =>
    match sessionProblem? session with
    | some p => ({ result := .ok none, notice := some (unsuitable "generated" p) }, source)
    | none =>
      let (bytes, source) := source.draw tokenIdSize
      let tokenId := Hex.encode bytes
      let drawn : Call (Option Text) :=
        { result := .ok none, draws := [tokenIdSize], reads := 1 }
      match clock.truncate with
      | .error f => ({ drawn with result := .error (.clock f) }, source)
      | .ok now =>
        match sealToken session tokenId now with
        | .error f => ({ drawn with result := .error (.integer f) }, source)
        | .ok (.error f) =>
          ({ drawn with
              notice := some (.internal
                ("CSRF token generation failed for token id " ++ tokenId) (.crypto f)) }, source)
        | .ok (.ok token) =>
          ({ drawn with
              result := .ok (some token), debug := ["Generated CSRF token " ++ tokenId] }, source)

end SealedToken
