import SealedToken.Notice.Basic
import SealedToken.Proofs.Cipher.Sealing

namespace SealedToken

def bodyTag (key nonce body : Bytes) : Bytes :=
  let cipher := Aes.encrypt (Aes.schedule key)
  Gcm.tag cipher (Gcm.firstCounter cipher nonce) body

/-- Why no text is sealed to a sequence of bytes. -/
inductive Barred (key nonce c : Bytes) : Prop
  | short (size : c.length < Gcm.tagSize)
  | forged {body tag : Bytes} (parts : c = body ++ tag) (size : tag.length = Gcm.tagSize)
    (wrong : tag ≠ bodyTag key nonce body)
  | unreadable {plaintext : Bytes} (masked : sealBytes key nonce plaintext = .ok c)
    (noText : ∀ t, Utf8.encode t ≠ .ok plaintext)

def SealRefused (key nonce : Bytes) (t : Text) : Prop :=
  ∃ fault, sealText key nonce t = .error fault ∧
    (CryptoFault.sealing fault).name = "EncryptionError"

def UnsealRefused (key nonce c : Bytes) : Prop :=
  ∃ fault, unsealText key nonce c = .error fault ∧
    (CryptoFault.unsealing fault).name = "DecryptionError"

variable {key nonce c body tag plaintext plaintext' : Bytes} {t : Text}

theorem sealBytes_of_sized (sized : Sized key nonce) (plaintext : Bytes) :
    sealBytes key nonce plaintext =
      .ok (Gcm.close (Aes.encrypt (Aes.schedule key)) nonce plaintext) := by
  rw [sealBytes, cipherFault?_eq_none_iff.mpr sized]

theorem sealBytes_eq_iff (sized : Sized key nonce) (size : tag.length = Gcm.tagSize) :
    (∃ plaintext, sealBytes key nonce plaintext = .ok (body ++ tag)) ↔
      tag = bodyTag key nonce body := by
  let cipher := Aes.encrypt (Aes.schedule key)
  let counter := Gcm.firstCounter cipher nonce
  constructor
  · rintro ⟨plaintext, sealed⟩
    rw [sealBytes_of_sized sized] at sealed
    have closed := Except.ok.inj sealed
    have sizes : (bodyTag key nonce (Gcm.mask cipher counter plaintext)).length = tag.length :=
      (Gcm.length_tag _ _ _).trans size.symm
    obtain ⟨rfl, tags⟩ := List.append_inj' closed sizes
    exact tags.symm
  · rintro rfl
    refine ⟨Gcm.mask cipher counter body, ?_⟩
    have restored := Gcm.mask_mask cipher counter body
    rw [sealBytes_of_sized sized, Gcm.close]
    simp only [cipher, counter, bodyTag] at restored ⊢
    rw [restored]

theorem sealBytes_inj (sealed : sealBytes key nonce plaintext = .ok c)
    (sealed' : sealBytes key nonce plaintext' = .ok c) : plaintext = plaintext' := by
  rw [← unsealBytes_eq_ok_iff] at sealed sealed'
  rw [sealed] at sealed'
  exact Except.ok.inj sealed'

theorem forged_or_sealed (sized : Sized key nonce) (size : Gcm.tagSize ≤ c.length) :
    (∃ body tag, c = body ++ tag ∧ tag.length = Gcm.tagSize ∧ tag ≠ bodyTag key nonce body) ∨
      ∃ plaintext, sealBytes key nonce plaintext = .ok c := by
  obtain ⟨body, tag, rfl, tagged⟩ : ∃ body tag, c = body ++ tag ∧ tag.length = Gcm.tagSize := by
    refine ⟨c.take (c.length - Gcm.tagSize), c.drop (c.length - Gcm.tagSize), ?_, ?_⟩
    · exact (List.take_append_drop _ c).symm
    · rw [List.length_drop]
      omega
  by_cases right : tag = bodyTag key nonce body
  · right
    exact (sealBytes_eq_iff sized tagged).mpr right
  · left
    exact ⟨body, tag, rfl, tagged, right⟩

theorem barred_of_refused (sized : Sized key nonce) (refused : UnsealRefused key nonce c) :
    Barred key nonce c := by
  obtain ⟨fault, failed, _⟩ := refused
  by_cases size : Gcm.tagSize ≤ c.length
  · rcases forged_or_sealed sized size with ⟨body, tag, parts, tagged, wrong⟩ | ⟨plaintext, sealed⟩
    · exact .forged parts tagged wrong
    · apply Barred.unreadable sealed
      intro t encoded
      have opened := unsealText_eq_ok_iff.mpr (sealText_eq_ok_iff.mpr ⟨plaintext, encoded, sealed⟩)
      rw [opened] at failed
      cases failed
  · exact .short (Nat.lt_of_not_le size)

theorem Barred.sealText_ne (barred : Barred key nonce c) (sized : Sized key nonce) (t : Text) :
    sealText key nonce t ≠ .ok c := by
  intro sealed
  obtain ⟨bytes, encoded, sealed⟩ := sealText_eq_ok_iff.mp sealed
  cases barred with
  | short size =>
    have length := length_sealBytes sealed
    omega
  | forged parts size wrong =>
    subst parts
    exact wrong ((sealBytes_eq_iff sized size).mp ⟨bytes, sealed⟩)
  | unreadable masked noText =>
    rw [sealBytes_inj sealed masked] at encoded
    exact noText t encoded

theorem unsealRefused_iff : UnsealRefused key nonce c ↔ ∀ t, sealText key nonce t ≠ .ok c := by
  constructor
  · rintro ⟨fault, failed, _⟩ t sealed
    rw [unsealText_eq_ok_iff.mpr sealed] at failed
    cases failed
  · intro unsealed
    cases opened : unsealText key nonce c with
    | error fault => exact ⟨fault, opened, rfl⟩
    | ok t => exact absurd (unsealText_eq_ok_iff.mp opened) (unsealed t)

theorem sealRefused_iff : SealRefused key nonce t ↔ ∀ c, sealText key nonce t ≠ .ok c := by
  constructor
  · rintro ⟨fault, failed, _⟩ c sealed
    rw [sealed] at failed
    cases failed
  · intro unsealed
    cases sealed : sealText key nonce t with
    | error fault => exact ⟨fault, sealed, rfl⟩
    | ok c => exact absurd sealed (unsealed c)

theorem sized_of_sealBytes (sealed : sealBytes key nonce plaintext = .ok c) :
    Sized key nonce := by
  rw [← cipherFault?_eq_none_iff]
  cases refused : cipherFault? key nonce with
  | none => rfl
  | some fault =>
    rw [sealBytes, refused] at sealed
    cases sealed

theorem exists_sealText_iff :
    (∃ c, sealText key nonce t = .ok c) ↔ Sized key nonce ∧ Utf8.encodable t = true := by
  constructor
  · rintro ⟨c, sealed⟩
    obtain ⟨bytes, encoded, sealed⟩ := sealText_eq_ok_iff.mp sealed
    exact ⟨sized_of_sealBytes sealed, (Utf8.encode_eq_ok_iff.mp encoded).1⟩
  · rintro ⟨sized, encodable⟩
    exact ⟨_, sealText_eq_ok_iff.mpr ⟨_, encode_of_encodable encodable, sealBytes_of_sized sized _⟩⟩

theorem encodable_iff : Utf8.encodable t = true ↔ ¬ ∃ point ∈ t, point.isSurrogate = true := by
  simp [Utf8.encodable]

theorem length_sealText (sealed : sealText key nonce t = .ok c) :
    c.length = (Utf8.bytes t).length + 16 := by
  obtain ⟨bytes, encoded, sealed⟩ := sealText_eq_ok_iff.mp sealed
  obtain ⟨_, rfl⟩ := Utf8.encode_eq_ok_iff.mp encoded
  exact length_sealBytes sealed

/-- Under a key and a nonce that the cipher takes, what opens to a text is what the text is sealed
to. Only surrogates keep a text from being sealed, and only what is barred does not open. -/
theorem unsealText_inverts_sealText (key nonce : Bytes) :
    (Sized key nonce → ∀ (t : Text) (c : Bytes),
      (unsealText key nonce c = .ok t ↔ sealText key nonce t = .ok c) ∧
      (sealText key nonce t = .ok c → c.length = (Utf8.bytes t).length + 16) ∧
      (SealRefused key nonce t ↔ ∃ point ∈ t, point.isSurrogate = true) ∧
      (UnsealRefused key nonce c ↔ ∀ t, sealText key nonce t ≠ .ok c) ∧
      (UnsealRefused key nonce c ↔ Barred key nonce c)) ∧
    (¬ Sized key nonce → ∀ (t : Text) (c : Bytes),
      SealRefused key nonce t ∧ UnsealRefused key nonce c) := by
  constructor
  · intro sized t c
    refine ⟨unsealText_eq_ok_iff, length_sealText, ?_, unsealRefused_iff, ?_⟩
    · rw [sealRefused_iff, ← not_exists, exists_sealText_iff, encodable_iff]
      simp only [sized, true_and, Classical.not_not]
    · constructor
      · exact barred_of_refused sized
      · intro barred
        exact unsealRefused_iff.mpr (barred.sealText_ne sized)
  · intro misfit t c
    have unsealed : ∀ t c, sealText key nonce t ≠ .ok c := by
      intro t c sealed
      exact misfit (exists_sealText_iff.mp ⟨c, sealed⟩).1
    exact ⟨sealRefused_iff.mpr (unsealed t), unsealRefused_iff.mpr (unsealed · c)⟩

theorem unsealText_inverts_sealText_long :
    let c : Bytes := [158, 0, 177, 126, 120, 156, 14, 47, 62, 148, 116, 139, 71, 208, 109, 238, 227,
      100, 84, 87, 236, 235, 165, 56, 108, 153, 124]
    Sized (List.replicate 24 42) (List.replicate 12 7) ∧
    unsealText (List.replicate 24 42) (List.replicate 12 7) c = .ok "né|漢🎉" ∧
    ¬ Sized (List.replicate 23 42) (List.replicate 12 7) ∧
    UnsealRefused (List.replicate 23 42) (List.replicate 12 7) c := by
  intro c
  have sized : Sized (List.replicate 24 42) (List.replicate 12 7) := by decide
  have misfit : ¬ Sized (List.replicate 23 42) (List.replicate 12 7) := by decide
  have sealed : sealText (List.replicate 24 42) (List.replicate 12 7) "né|漢🎉" = .ok c := by
    decide +kernel
  have opens := ((unsealText_inverts_sealText _ _).1 sized "né|漢🎉" c).1.mpr sealed
  have refused := (unsealText_inverts_sealText _ _).2 misfit "né|漢🎉" c
  exact ⟨sized, opens, misfit, refused.2⟩

end SealedToken
