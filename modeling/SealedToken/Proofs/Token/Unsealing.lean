import SealedToken.Proofs.Cipher.Sealing
import SealedToken.Token.Check

namespace SealedToken.Parts

def Opens (p : Parts) (session plaintext : Text) : Prop :=
  ∃ ciphertext bytes, Hex.decode p.ciphertextHex = .ok ciphertext ∧
    unsealBytes (sessionKey session) (Utf8.bytes p.tokenId) ciphertext = .ok bytes ∧
    Utf8.decode bytes = .ok plaintext

/-- Why the sealed part does not open: it is not hexadecimal, or it is not authentic under the first
sixteen bytes of the session, or what it seals is no text. -/
inductive Shut (p : Parts) (session : Text) : Prop
  | hex {fault : Hex.Fault} (undecoded : Hex.decode p.ciphertextHex = .error fault)
  | tag {ciphertext : Bytes} (decoded : Hex.decode p.ciphertextHex = .ok ciphertext)
    (forged : unsealBytes (sessionKey session) (Utf8.bytes p.tokenId) ciphertext =
      .error .tagMismatch)
  | encoding {ciphertext bytes : Bytes} {fault : Utf8.DecodeFault}
    (decoded : Hex.decode p.ciphertextHex = .ok ciphertext)
    (opened : unsealBytes (sessionKey session) (Utf8.bytes p.tokenId) ciphertext = .ok bytes)
    (unreadable : Utf8.decode bytes = .error fault)

variable {p : Parts} {session plaintext : Text}

theorem opens_iff_sealText :
    p.Opens session plaintext ↔ ∃ ciphertext, p.ciphertextHex.lower = Hex.encode ciphertext ∧
      sealText (sessionKey session) (Utf8.bytes p.tokenId) plaintext = .ok ciphertext := by
  simp only [Opens, Hex.decode_eq_ok_iff, unsealBytes_eq_ok_iff, Utf8.decode_eq_ok_iff,
    sealText_eq_ok_iff]
  constructor
  · rintro ⟨ciphertext, bytes, hex, opened, encoded⟩
    exact ⟨ciphertext, hex, bytes, encoded, opened⟩
  · rintro ⟨ciphertext, hex, bytes, encoded, opened⟩
    exact ⟨ciphertext, bytes, hex, opened, encoded⟩

theorem Opens.of_sharedKey {other : Text} (shared : sessionKey session = sessionKey other)
    (opens : p.Opens session plaintext) : p.Opens other plaintext := by
  unfold Opens at opens ⊢
  rwa [shared] at opens

theorem unseal_of_misfit {fault : DerivationFault} (usable : Usable session)
    (misfit : deriveNonce p.tokenId = .error fault) :
    p.unseal session = .error (.derivation fault) := by
  rw [Parts.unseal, deriveKey_of_usable usable, misfit]
  rfl

theorem unseal_of_not_fits (usable : Usable session) (misfit : ¬ FitsNonce p.tokenId) :
    ∃ fault, p.unseal session = .error (.derivation fault) := by
  obtain ⟨fault, refused⟩ := deriveNonce_of_not_fits misfit
  exact ⟨fault, unseal_of_misfit usable refused⟩

theorem unseal_of_undecoded {fault : Hex.Fault} (usable : Usable session)
    (fits : FitsNonce p.tokenId) (undecoded : Hex.decode p.ciphertextHex = .error fault) :
    p.unseal session = .error (.unsealing (.hex fault)) := by
  rw [Parts.unseal, deriveKey_of_usable usable, deriveNonce_of_fits fits, unhex, undecoded]
  rfl

theorem unseal_of_decoded {ciphertext : Bytes} (usable : Usable session)
    (fits : FitsNonce p.tokenId) (decoded : Hex.decode p.ciphertextHex = .ok ciphertext) :
    p.unseal session =
      (unsealText (sessionKey session) (Utf8.bytes p.tokenId) ciphertext).mapError .unsealing := by
  rw [Parts.unseal, deriveKey_of_usable usable, deriveNonce_of_fits fits, unhex, decoded]
  rfl

/-- A token that stays shut is not unsealed, and the cipher has nothing against its key or nonce. -/
theorem unseal_of_shut (usable : Usable session) (fits : FitsNonce p.tokenId)
    (shut : p.Shut session) :
    ∃ fault, p.unseal session = .error (.unsealing fault) ∧ ∀ misfit, fault ≠ .cipher misfit := by
  cases shut with
  | hex undecoded =>
    exact ⟨.hex _, unseal_of_undecoded usable fits undecoded, nofun⟩
  | tag decoded forged =>
    rw [unseal_of_decoded usable fits decoded, unsealText, forged]
    exact ⟨.tagMismatch, rfl, nofun⟩
  | encoding decoded opened unreadable =>
    simp only [unseal_of_decoded usable fits decoded, unsealText, opened, unreadable]
    exact ⟨.decoding _, rfl, nofun⟩

theorem unseal_of_opens (usable : Usable session) (fits : FitsNonce p.tokenId)
    (opens : p.Opens session plaintext) : p.unseal session = .ok plaintext := by
  obtain ⟨ciphertext, bytes, decoded, opened, readable⟩ := opens
  simp only [unseal_of_decoded usable fits decoded, unsealText, opened, readable]
  rfl

theorem unsealBytes_derived {tokenId : Text} (usable : Usable session) (fits : FitsNonce tokenId)
    (ciphertext : Bytes) :
    unsealBytes (sessionKey session) (Utf8.bytes tokenId) ciphertext = .error .tagMismatch ∨
      ∃ bytes, unsealBytes (sessionKey session) (Utf8.bytes tokenId) ciphertext = .ok bytes := by
  simp only [unsealBytes, cipherFault?_derived usable fits]
  split
  · exact .inr ⟨_, rfl⟩
  · exact .inl rfl

theorem shut_or_opens (usable : Usable session) (fits : FitsNonce p.tokenId) :
    p.Shut session ∨ ∃ plaintext, p.Opens session plaintext := by
  cases decoded : Hex.decode p.ciphertextHex with
  | error fault => exact .inl (.hex decoded)
  | ok ciphertext =>
    rcases unsealBytes_derived usable fits ciphertext with forged | ⟨bytes, opened⟩
    · exact .inl (.tag decoded forged)
    · cases readable : Utf8.decode bytes with
      | error fault => exact .inl (.encoding decoded opened readable)
      | ok plaintext => exact .inr ⟨plaintext, ciphertext, bytes, decoded, opened, readable⟩

end SealedToken.Parts
