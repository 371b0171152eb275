import SealedToken.Token.Issue

namespace SealedToken

/-- Why a token is rejected, in the order in which the reasons are looked for. -/
inductive Rejection
  | malformed
  | session (problem : SessionProblem)
  | sealed (tokenId : Text) (fault : CryptoFault)
  | payload (tokenId : Text) (fault : PayloadFault)
  | otherSession (tokenId : Text)
  | expired (tokenId : Text) (issuedAt now : Int)
  deriving DecidableEq, Repr

def Rejection.notice : Rejection → Except Decimal.TooLong Notice
  | malformed => .ok (.misuse Parts.malformed)
  | session p => .ok (unsuitable "validated" p)
  | sealed id f =>
    .ok (.internal ("Could not validate CSRF token " ++ id ++ " due to exception") (.crypto f))
  | payload id f =>
    .ok (.validation ("CSRF token " ++ id ++ " decrypted to a malformed payload: " ++ f.message))
  | otherSession id => .ok (.validation ("CSRF token " ++ id ++ " was issued for a different session"))
  | expired id issuedAt now => do
    let issued ← Decimal.write issuedAt
    let now ← Decimal.write now
    return .validation
      ("CSRF token " ++ id ++ " has expired. Issued at " ++ issued ++ ", now " ++ now)

def Parts.unseal (p : Parts) (session : Text) : Except CryptoFault Text := do
  let key ← (deriveKey session).mapError .derivation
  let nonce ← (deriveNonce p.tokenId).mapError .derivation
  let bytes ← (unhex p.ciphertextHex).mapError .unsealing
  (unsealText key nonce bytes).mapError .unsealing

/-- What is wrong with a token at time `now` for a session that can be a key, or `none`. Only a
sealed time that is too long to read is refused outright. -/
def Parts.rejection? (p : Parts) (session : Text) (allowed : Nat) (now : Int) :
    Except Decimal.TooLong (Option Rejection) :=
  match p.unseal session with
  | .error f => .ok (some (.sealed p.tokenId f))
  | .ok plaintext =>
    match Payload.parse plaintext with
    | .error (.tooLong f) => .error f
    | .error f => .ok (some (.payload p.tokenId f))
    | .ok payload =>
      if payload.session ≠ session then .ok (some (.otherSession p.tokenId))
      else if payload.isExpired now allowed then
        .ok (some (.expired p.tokenId payload.issuedAt now))
      else .ok none

def rejectCall (reads : Nat) (r : Rejection) : Call Bool :=
  match r.notice with
  | .ok n => { result := .ok false, notice := some n, reads }
  | .error f => { result := .error (.integer f), reads }

def checkToken (token : Value) (session : Option Text) (allowed : Nat) (clock : Reading) :
    Call Bool :=
  match session with
  | none => { result := .error .noSession }
  | some session =>
    match Parts.ofValue? token, sessionProblem? session with
    | none, _ => rejectCall 0 .malformed
    | some _, some p => rejectCall 0 (.session p)
    | some parts, none =>
      match clock.truncate with
      | .error f => { result := .error (.clock f), reads := 1 }
      | .ok now =>
        match parts.rejection? session allowed now with
        | .error f => { result := .error (.integer f), reads := 1 }
        | .ok (some r) => rejectCall 1 r
        | .ok none =>
          { result := .ok true, reads := 1, debug := ["CSRF token " ++ parts.tokenId ++ " validated"] }

end SealedToken
