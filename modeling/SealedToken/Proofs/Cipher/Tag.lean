import SealedToken.Cipher.Sealing

namespace SealedToken

namespace Gcm

variable {cipher : Block → Block} {nonce body t c plaintext : Bytes}

theorem eq_tag_of_open? (size : t.length = tagSize)
    (opened : open? cipher nonce (body ++ t) = some plaintext) :
    t = tag cipher (firstCounter cipher nonce) body := by
  have closed := open?_eq_some_iff.mp opened
  have sizes := (length_tag cipher (firstCounter cipher nonce)
    (mask cipher (firstCounter cipher nonce) plaintext)).trans size.symm
  have parts := List.append_inj' closed sizes
  rw [← parts.1]
  exact parts.2.symm

theorem exists_tag_of_open? (opened : open? cipher nonce c = some plaintext) :
    ∃ body t, c = body ++ t ∧ t.length = tagSize := by
  have closed := open?_eq_some_iff.mp opened
  exact ⟨_, _, closed.symm, length_tag cipher _ _⟩

end Gcm

variable {key nonce body tag tag' c plaintext : Bytes}

theorem open?_of_unsealBytes (opened : unsealBytes key nonce c = .ok plaintext) :
    cipherFault? key nonce = none ∧
      Gcm.open? (Aes.encrypt (Aes.schedule key)) nonce c = some plaintext := by
  unfold unsealBytes at opened
  cases fault : cipherFault? key nonce with
  | some f =>
    simp only [fault] at opened
    cases opened
  | none =>
    simp only [fault] at opened
    cases found : Gcm.open? (Aes.encrypt (Aes.schedule key)) nonce c with
    | none =>
      rw [found] at opened
      cases opened
    | some bytes =>
      rw [found] at opened
      cases opened
      exact ⟨rfl, rfl⟩

theorem unsealBytes_of_other_tag (opened : unsealBytes key nonce (body ++ tag) = .ok plaintext)
    (size : tag.length = Gcm.tagSize) (size' : tag'.length = Gcm.tagSize)
    (different : tag' ≠ tag) : unsealBytes key nonce (body ++ tag') = .error .tagMismatch := by
  have ⟨sound, found⟩ := open?_of_unsealBytes opened
  have right := Gcm.eq_tag_of_open? size found
  cases found' : Gcm.open? (Aes.encrypt (Aes.schedule key)) nonce (body ++ tag') with
  | none => simp only [unsealBytes, sound, found']
  | some plaintext' =>
    have right' := Gcm.eq_tag_of_open? size' found'
    exact absurd (right'.trans right.symm) different

end SealedToken
