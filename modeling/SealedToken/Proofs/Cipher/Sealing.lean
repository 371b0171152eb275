import SealedToken.Cipher.Derivation
import SealedToken.Cipher.Sealing
import SealedToken.Proofs.Text.Hex
import SealedToken.Proofs.Text.Utf8

namespace SealedToken

/-- Whether a session identifier has an encoding of at least as many bytes as a key. -/
def Usable (session : Text) : Prop :=
  Utf8.encodable session = true ∧ keySize ≤ (Utf8.bytes session).length

instance (session : Text) : Decidable (Usable session) :=
  inferInstanceAs (Decidable (_ ∧ _))

def sessionKey (session : Text) : Bytes :=
  (Utf8.bytes session).take keySize

/-- Whether a token identifier has an encoding of exactly as many bytes as a nonce. -/
def FitsNonce (tokenId : Text) : Prop :=
  Utf8.encodable tokenId = true ∧ (Utf8.bytes tokenId).length = nonceSize

instance (tokenId : Text) : Decidable (FitsNonce tokenId) :=
  inferInstanceAs (Decidable (_ ∧ _))

def Sized (key nonce : Bytes) : Prop :=
  (key.length = 16 ∨ key.length = 24 ∨ key.length = 32) ∧ 8 ≤ nonce.length ∧ nonce.length ≤ 128

instance (key nonce : Bytes) : Decidable (Sized key nonce) :=
  inferInstanceAs (Decidable (_ ∧ _))

theorem encode_of_encodable {t : Text} (encodable : Utf8.encodable t = true) :
    Utf8.encode t = .ok (Utf8.bytes t) :=
  if_pos encodable

theorem deriveKey_of_usable {session : Text} (usable : Usable session) :
    deriveKey session = .ok (sessionKey session) := by
  have size := Nat.not_lt_of_le usable.2
  simp only [deriveKey, encode_of_encodable usable.1, if_neg size, sessionKey]

theorem deriveKey_eq_ok_iff {session : Text} {key : Bytes} :
    deriveKey session = .ok key ↔ Usable session ∧ key = sessionKey session := by
  constructor
  · intro derived
    unfold deriveKey at derived
    split at derived
    · cases derived
    · next encoded =>
      rw [Utf8.encode_eq_ok_iff] at encoded
      obtain ⟨encodable, rfl⟩ := encoded
      split at derived
      · cases derived
      · next size =>
        cases derived
        exact ⟨⟨encodable, Nat.le_of_not_lt size⟩, rfl⟩
  · rintro ⟨usable, rfl⟩
    exact deriveKey_of_usable usable

/-- The guard before all cryptography lets pass just the sessions that give a key. -/
theorem sessionProblem?_eq_none_iff_usable {session : Text} :
    sessionProblem? session = none ↔ Usable session := by
  rw [sessionProblem?_eq_none_iff]
  simp only [deriveKey_eq_ok_iff, exists_and_left, exists_eq, and_true]

theorem deriveNonce_of_fits {tokenId : Text} (fits : FitsNonce tokenId) :
    deriveNonce tokenId = .ok (Utf8.bytes tokenId) := by
  simp only [deriveNonce, encode_of_encodable fits.1, if_pos fits.2]

theorem deriveNonce_of_not_fits {tokenId : Text} (misfit : ¬ FitsNonce tokenId) :
    ∃ fault, deriveNonce tokenId = .error fault := by
  unfold deriveNonce
  split
  · exact ⟨_, rfl⟩
  · next encoded =>
    rw [Utf8.encode_eq_ok_iff] at encoded
    obtain ⟨encodable, rfl⟩ := encoded
    have size : (Utf8.bytes tokenId).length ≠ nonceSize := fun same => misfit ⟨encodable, same⟩
    exact ⟨_, if_neg size⟩

theorem deriveNonce_eq_ok_iff {tokenId : Text} {nonce : Bytes} :
    deriveNonce tokenId = .ok nonce ↔ FitsNonce tokenId ∧ nonce = Utf8.bytes tokenId := by
  constructor
  · intro derived
    by_cases fits : FitsNonce tokenId
    · rw [deriveNonce_of_fits fits] at derived
      cases derived
      exact ⟨fits, rfl⟩
    · obtain ⟨fault, refused⟩ := deriveNonce_of_not_fits fits
      rw [refused] at derived
      cases derived
  · rintro ⟨fits, rfl⟩
    exact deriveNonce_of_fits fits

theorem length_sessionKey {session : Text} (usable : Usable session) :
    (sessionKey session).length = keySize :=
  List.length_take_of_le usable.2

theorem cipherFault?_eq_none_iff {key nonce : Bytes} :
    cipherFault? key nonce = none ↔ Sized key nonce := by
  unfold cipherFault? Sized
  constructor
  · intro sound
    split at sound
    · cases sound
    split at sound
    · cases sound
    · omega
  · intro sized
    rw [if_neg (by omega), if_neg (by omega)]

theorem cipherFault?_derived {session tokenId : Text} (usable : Usable session)
    (fits : FitsNonce tokenId) :
    cipherFault? (sessionKey session) (Utf8.bytes tokenId) = none := by
  have key : (sessionKey session).length = 16 := length_sessionKey usable
  have nonce : (Utf8.bytes tokenId).length = 16 := fits.2
  rw [cipherFault?_eq_none_iff, Sized]
  omega

theorem length_sealBytes {key nonce plaintext c : Bytes}
    (sealed : sealBytes key nonce plaintext = .ok c) : c.length = plaintext.length + Gcm.tagSize := by
  unfold sealBytes at sealed
  cases fault : cipherFault? key nonce with
  | some f =>
    rw [fault] at sealed
    cases sealed
  | none =>
    rw [fault] at sealed
    cases sealed
    exact Gcm.length_close _ nonce plaintext

theorem sealText_eq_ok_iff {key nonce c : Bytes} {t : Text} :
    sealText key nonce t = .ok c ↔
      ∃ bs, Utf8.encode t = .ok bs ∧ sealBytes key nonce bs = .ok c := by
  unfold sealText
  cases Utf8.encode t <;> simp

theorem unsealText_eq_ok_iff {key nonce c : Bytes} {t : Text} :
    unsealText key nonce c = .ok t ↔ sealText key nonce t = .ok c := by
  simp only [sealText_eq_ok_iff, ← unsealBytes_eq_ok_iff, ← Utf8.decode_eq_ok_iff]
  unfold unsealText
  cases unsealBytes key nonce c with
  | error f => simp
  | ok bs =>
    cases decoded : Utf8.decode bs with
    | error f => simp [decoded]
    | ok u => simp [decoded]

/-- Under a derived key and nonce sealing fails only for want of an encoding. -/
theorem sealText_derived {session tokenId t : Text} (usable : Usable session)
    (fits : FitsNonce tokenId) (encodable : Utf8.encodable t = true) :
    ∃ c, sealText (sessionKey session) (Utf8.bytes tokenId) t = .ok c := by
  rw [sealText, encode_of_encodable encodable]
  simp only [sealBytes, cipherFault?_derived usable fits]
  exact ⟨_, rfl⟩

end SealedToken
