import SealedToken.Proofs.Token.Checking

namespace SealedToken

def forge (session tokenId plaintext : Text) : Parts :=
  ⟨tokenId, Hex.encode
    ((sealText (sessionKey session) (Utf8.bytes tokenId) plaintext).toOption.getD [])⟩

variable {token : Value} {session tokenId plaintext plaintext' : Text} {p p' : Parts}

theorem Presented.unique (presented : Presented token session p)
    (presented' : Presented token session p') : p = p' := by
  have parts := presented.ofValue?
  rw [presented'.ofValue?] at parts
  exact (Option.some.inj parts).symm

theorem Parts.Opens.unique (opens : p.Opens session plaintext) (usable : Usable session)
    (fits : FitsNonce p.tokenId) (opens' : p.Opens session plaintext') :
    plaintext = plaintext' := by
  have unsealed := Parts.unseal_of_opens usable fits opens
  rw [Parts.unseal_of_opens usable fits opens'] at unsealed
  exact (Except.ok.inj unsealed).symm

theorem sealText_forge (usable : Usable session) (fits : FitsNonce tokenId)
    (encodable : Utf8.encodable plaintext = true) :
    ∃ ciphertext, sealText (sessionKey session) (Utf8.bytes tokenId) plaintext = .ok ciphertext ∧
      forge session tokenId plaintext = ⟨tokenId, Hex.encode ciphertext⟩ := by
  obtain ⟨ciphertext, sealed⟩ := sealText_derived usable fits encodable
  refine ⟨ciphertext, sealed, ?_⟩
  rw [forge, sealed]
  rfl

theorem opens_forge (usable : Usable session) (fits : FitsNonce tokenId)
    (encodable : Utf8.encodable plaintext = true) :
    (forge session tokenId plaintext).Opens session plaintext := by
  obtain ⟨ciphertext, sealed, forged⟩ := sealText_forge usable fits encodable
  rw [forged]
  exact Parts.opens_iff_sealText.mpr ⟨ciphertext, Hex.lower_encode ciphertext, sealed⟩

theorem presented_forge (usable : Usable session) (split : separator ∉ tokenId) (plaintext : Text) :
    Presented (.text (forge session tokenId plaintext).encode) session
      (forge session tokenId plaintext) :=
  ⟨usable, rfl, split⟩

theorem sealsOverlong_forge_iff {digits : Nat} (usable : Usable session) (fits : FitsNonce tokenId)
    (split : separator ∉ tokenId) (encodable : Utf8.encodable plaintext = true) :
    SealsOverlong (.text (forge session tokenId plaintext).encode) session digits ↔
      Payload.Overlong plaintext digits := by
  have presented := presented_forge usable split plaintext
  have opens := opens_forge usable fits encodable
  constructor
  · rintro ⟨p, plaintext', presented', fits', opens', overlong⟩
    cases presented.unique presented'
    cases opens.unique usable fits' opens'
    exact overlong
  · intro overlong
    exact ⟨_, plaintext, presented, fits, opens, overlong⟩

end SealedToken
