import SealedToken.FaultClass
import SealedToken.Text.Split
import SealedToken.Value

namespace SealedToken

def separator : CodePoint := 0x7C

structure Parts where
  tokenId : Text
  ciphertextHex : Text
  deriving DecidableEq, Repr

namespace Parts

def parse? (t : Text) : Option Parts :=
  (Text.splitFirst separator t).map fun (a, b) => ⟨a, b⟩

def ofValue? : Value → Option Parts
  | .text t => parse? t
  | _ => none

def encode (p : Parts) : Text :=
  p.tokenId ++ separator :: p.ciphertextHex

def malformed : Text := "CSRF token is not properly formed"

def malformedClass : FaultClass := .malformedToken

theorem parse?_eq_some_iff {t : Text} {p : Parts} :
    parse? t = some p ↔ t = p.encode ∧ separator ∉ p.tokenId := by
  obtain ⟨a, b⟩ := p
  simp only [parse?, Option.map_eq_some_iff, encode, ← Text.splitFirst_eq_some_iff]
  constructor
  · rintro ⟨⟨x, y⟩, h, hp⟩
    cases hp
    exact h
  · intro h
    exact ⟨(a, b), h, rfl⟩

theorem parse?_eq_none_iff {t : Text} : parse? t = none ↔ separator ∉ t := by
  rw [parse?, Option.map_eq_none_iff, Text.splitFirst_eq_none_iff]

theorem parse?_encode_iff {p : Parts} : parse? p.encode = some p ↔ separator ∉ p.tokenId := by
  rw [parse?_eq_some_iff]
  simp

end Parts

end SealedToken
