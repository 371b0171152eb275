import SealedToken.Proofs.Token.Checking
import SealedToken.Token.Fields

namespace SealedToken.Parts

variable {v w : Value} {p p' : Parts}

def named (tokenId ciphertextHex : Value) : Fields :=
  [("token_id", tokenId), ("ciphertext_hex", ciphertextHex)]

theorem ofFields_named_eq_ok_iff :
    ofFields (named v w) = .ok p ↔
      v.readText = .ok p.tokenId ∧ w.readText = .ok p.ciphertextHex := by
  have first : Fields.required (named v w) "token_id" Value.readText = v.readText := rfl
  have second : Fields.required (named v w) "ciphertext_hex" Value.readText = w.readText := rfl
  rw [ofFields, first, second]
  cases readFirst : v.readText with
  | error problem => exact ⟨nofun, fun both => nomatch both.1⟩
  | ok tokenId =>
    cases readSecond : w.readText with
    | error problem => exact ⟨nofun, fun both => nomatch both.2⟩
    | ok hex =>
      constructor
      · intro made
        cases made
        exact ⟨rfl, rfl⟩
      · rintro ⟨same, same'⟩
        cases same
        cases same'
        rfl

example : ofFields (named (.bytes [0x61]) (.bytes [0x62])) = .ok ⟨"a", "b"⟩ := rfl

theorem ofFields_texts (tokenId hex : Text) :
    ofFields (named (.text tokenId) (.text hex)) = .ok ⟨tokenId, hex⟩ :=
  ofFields_named_eq_ok_iff.mpr ⟨rfl, rfl⟩

theorem exists_ofValue?_iff :
    (∃ p, ofValue? v = some p) ↔ ∃ t, v = .text t ∧ separator ∈ t := by
  rw [← Option.ne_none_iff_exists', Ne, ofValue?_eq_none_iff]
  simp only [Classical.not_forall, Classical.not_not, exists_prop]

-- Bytes make a field but no token, even if a separator stands among them.
example : ofValue? (.bytes [0x61, 0x7C, 0x62]) = none := rfl

theorem ofValue?_encode_iff : ofValue? (.text p.encode) = some p ↔ separator ∉ p.tokenId :=
  parse?_encode_iff

theorem encode_inj (split : separator ∉ p.tokenId) (split' : separator ∉ p'.tokenId)
    (same : p.encode = p'.encode) : p = p' := by
  have read := ofValue?_encode_iff.mpr split
  rw [same, ofValue?_encode_iff.mpr split'] at read
  exact (Option.some.inj read).symm

theorem exists_ofValue?_of_mem (inside : separator ∈ p.tokenId) :
    ∃ p', ofValue? (.text p.encode) = some p' ∧ p' ≠ p ∧ p'.encode = p.encode := by
  have written : separator ∈ p.encode := List.mem_append_left _ inside
  obtain ⟨p', read⟩ := exists_ofValue?_iff.mpr ⟨_, rfl, written⟩
  obtain ⟨same, split⟩ := ofValue?_eq_some_iff.mp read
  refine ⟨p', read, ?_, (Value.text.inj same).symm⟩
  rintro rfl
  exact split inside

end SealedToken.Parts
