import SealedToken.Text.Utf8

namespace SealedToken

def keySize : Nat := 16

def nonceSize : Nat := 16

inductive DerivationFault
  | keyEncoding (fault : Utf8.EncodeFault)
  | keyLength (size : Nat)
  | nonceEncoding (fault : Utf8.EncodeFault)
  | nonceLength (size : Nat)
  deriving DecidableEq, Repr

def DerivationFault.message : DerivationFault → Text
  | .keyEncoding f => "Key material is not valid UTF-8: " ++ f.message
  | .keyLength n =>
    "Key material must be at least " ++ Decimal.ofNat keySize ++ " bytes, got " ++ Decimal.ofNat n
  | .nonceEncoding f => "Nonce material is not valid UTF-8: " ++ f.message
  | .nonceLength n =>
    "Nonce must be exactly " ++ Decimal.ofNat nonceSize ++ " bytes, got " ++ Decimal.ofNat n

def deriveKey (session : Text) : Except DerivationFault Bytes :=
  match Utf8.encode session with
  | .error f => .error (.keyEncoding f)
  | .ok bs => if bs.length < keySize then .error (.keyLength bs.length) else .ok (bs.take keySize)

def deriveNonce (tokenId : Text) : Except DerivationFault Bytes :=
  match Utf8.encode tokenId with
  | .error f => .error (.nonceEncoding f)
  | .ok bs => if bs.length = nonceSize then .ok bs else .error (.nonceLength bs.length)

inductive SessionProblem
  | notEncodable
  | tooShort
  deriving DecidableEq, Repr

def SessionProblem.message : SessionProblem → Text
  | .notEncodable => "session id is not valid UTF-8"
  | .tooShort => "session size less than " ++ Decimal.ofNat keySize ++ " bytes"

def sessionProblem? (session : Text) : Option SessionProblem :=
  match Utf8.encode session with
  | .error _ => some .notEncodable
  | .ok bs => if bs.length < keySize then some .tooShort else none

theorem sessionProblem?_eq_none_iff {session : Text} :
    sessionProblem? session = none ↔ ∃ key, deriveKey session = .ok key := by
  unfold sessionProblem? deriveKey
  cases Utf8.encode session with
  | error f => simp
  | ok bs => by_cases h : bs.length < keySize <;> simp [h]

end SealedToken
