import SealedToken.Proofs.Cipher.Tag
import SealedToken.Proofs.Token.Issuing

namespace SealedToken

/-- Whether two hexadecimal texts spell the same bytes before the last sixteen. -/
def SameBody (hex hex' : Text) : Prop :=
  ∃ body tag tag', tag.length = Gcm.tagSize ∧ tag'.length = Gcm.tagSize ∧
    Hex.decode hex = .ok (body ++ tag) ∧ Hex.decode hex' = .ok (body ++ tag')

variable {session t tokenId hex hex' : Text} {time now : Int} {clock : Reading}

theorem separator_not_mem_of_lower {bytes : Bytes} (spelled : hex.lower = Hex.encode bytes) :
    separator ∉ hex := by
  intro member
  have member' : separator ∈ hex.lower := List.mem_map.mpr ⟨separator, member, rfl⟩
  rw [spelled] at member'
  exact separator_not_mem_encode bytes member'

theorem split_unique {a b a' b' : Text} (same : a' ++ separator :: b' = a ++ separator :: b)
    (before : separator ∉ a) (after : separator ∉ b) : a' = a ∧ b' = b := by
  have counts := congrArg (List.count separator) same
  simp only [List.count_append, List.count_cons_self, List.count_eq_zero.mpr before,
    List.count_eq_zero.mpr after] at counts
  have before' : separator ∉ a' := List.count_eq_zero.mp (by omega)
  have split' : Text.splitFirst separator (a ++ separator :: b) = some (a', b') :=
    Text.splitFirst_eq_some_iff.mpr ⟨same.symm, before'⟩
  have split : Text.splitFirst separator (a ++ separator :: b) = some (a, b) :=
    Text.splitFirst_eq_some_iff.mpr ⟨rfl, before⟩
  rw [split'] at split
  cases split
  exact ⟨rfl, rfl⟩

theorem TokenFor.presented (tokenFor : TokenFor (tokenId ++ separator :: hex) session time) :
    ∃ plaintext, Presented (.text (tokenId ++ separator :: hex)) session ⟨tokenId, hex⟩ ∧
      FitsNonce tokenId ∧ Parts.Opens ⟨tokenId, hex⟩ session plaintext := by
  obtain ⟨p, plaintext, presented, fits, opens, _⟩ := tokenFor_iff.mp tokenFor
  obtain ⟨ciphertext, spelled, _⟩ := Parts.opens_iff_sealText.mp opens
  have written := Value.text.inj presented.written
  obtain ⟨rfl, rfl⟩ :=
    split_unique written presented.split (separator_not_mem_of_lower spelled)
  exact ⟨plaintext, presented, fits, opens⟩

theorem Presented.rewrite {token : Value} (presented : Presented token session ⟨tokenId, hex⟩)
    (hex' : Text) :
    Presented (.text (tokenId ++ separator :: hex')) session ⟨tokenId, hex'⟩ :=
  ⟨presented.usable, rfl, presented.split⟩

theorem checkToken_of_other_tag {plaintext : Text}
    (presented : Presented (.text (tokenId ++ separator :: hex)) session ⟨tokenId, hex⟩)
    (fits : FitsNonce tokenId) (opens : Parts.Opens ⟨tokenId, hex⟩ session plaintext)
    (body : SameBody hex hex') (different : Hex.decode hex' ≠ Hex.decode hex)
    (finite : clock.truncate = .ok now) (allowed : Nat) :
    checkToken (.text (tokenId ++ separator :: hex')) (some session) allowed clock =
      rejectCall 1 (.sealed tokenId (.unsealing .tagMismatch)) := by
  obtain ⟨body, tag, tag', size, size', decoded, decoded'⟩ := body
  obtain ⟨ciphertext, bytes, decodes, opened, _⟩ := opens
  have tags : tag' ≠ tag := by
    rintro rfl
    exact different (decoded'.trans decoded.symm)
  rw [decoded] at decodes
  cases decodes
  have shut := unsealBytes_of_other_tag opened size size' tags
  have presented' := presented.rewrite hex'
  refine checkToken_of_unseal_error presented' ?_ finite
  rw [Parts.unseal_of_decoded presented.usable fits decoded', unsealText, shut]
  rfl

theorem sameBody_of_lower {plaintext : Text} (opens : Parts.Opens ⟨tokenId, hex⟩ session plaintext)
    (same : hex'.lower = hex.lower) : SameBody hex hex' := by
  obtain ⟨ciphertext, bytes, decoded, opened, _⟩ := opens
  obtain ⟨body, tag, rfl, size⟩ := Gcm.exists_tag_of_open? (open?_of_unsealBytes opened).2
  have decoded' := (Hex.decode_of_lower same).trans decoded
  exact ⟨body, tag, tag, size, size, decoded, decoded'⟩

theorem Parts.unseal_of_lower (same : hex'.lower = hex.lower) (tokenId session : Text) :
    Parts.unseal ⟨tokenId, hex'⟩ session = Parts.unseal ⟨tokenId, hex⟩ session := by
  simp only [Parts.unseal, unhex, Hex.decode_of_lower same]

theorem checkToken_of_lower (split : separator ∉ tokenId) (same : hex'.lower = hex.lower)
    (session : Option Text) (allowed : Nat) (clock : Reading) :
    checkToken (.text (tokenId ++ separator :: hex')) session allowed clock =
      checkToken (.text (tokenId ++ separator :: hex)) session allowed clock := by
  have parts : ∀ h, Parts.ofValue? (.text (tokenId ++ separator :: h)) = some ⟨tokenId, h⟩ :=
    fun _ => ofValue?_eq_some_iff.mpr ⟨rfl, split⟩
  cases session with
  | none => rfl
  | some session =>
    have unsealed := Parts.unseal_of_lower same tokenId session
    cases problem : sessionProblem? session with
    | some problem' => simp only [checkToken, parts, problem]
    | none => simp only [checkToken, parts, problem, Parts.rejection?, unsealed]

end SealedToken
