import SealedToken.Notice.Basic
import SealedToken.Proofs.Text.Hex

namespace SealedToken

variable {t t' : Text} {bs bs' : Bytes}

theorem unhex_eq_ok_iff : unhex t = .ok bs ↔ Hex.decode t = .ok bs := by
  unfold unhex
  cases Hex.decode t with
  | ok decoded => simp only [Except.ok.injEq]
  | error fault => exact ⟨nofun, nofun⟩

theorem exists_unhex_iff : (∃ bs, unhex t = .ok bs) ↔ Hex.WellFormed t := by
  simp only [unhex_eq_ok_iff, Hex.exists_decode_iff]

theorem unhex_of_not_wellFormed (unformed : ¬ Hex.WellFormed t) :
    ∃ fault : Hex.Fault, fault.Found t ∧ unhex t = .error (.hex fault) := by
  cases decoded : Hex.decode t with
  | ok bs => exact absurd (Hex.exists_decode_iff.mp ⟨bs, decoded⟩) unformed
  | error fault =>
    have found := Hex.decode_eq_error_iff.mp decoded
    exact ⟨fault, found, by rw [unhex, decoded]⟩

theorem encode_of_unhex (read : unhex t = .ok bs) : Hex.encode bs = t.lower :=
  Hex.encode_of_decode (unhex_eq_ok_iff.mp read)

theorem unhex_inj_iff (read : unhex t = .ok bs) (read' : unhex t' = .ok bs') :
    bs = bs' ↔ t.lower = t'.lower := by
  rw [← encode_of_unhex read, ← encode_of_unhex read', Hex.encode_inj_iff]

/-- Reading inverts writing, and writing inverts reading up to letter case. Whatever is no even
number of digits is refused as something that does not unseal. -/
theorem unhex_inverts_encode :
    (∀ t, ((∃ bs, unhex t = .ok bs) ↔ Hex.WellFormed t) ∧
      (¬ Hex.WellFormed t → ∃ fault : Hex.Fault, fault.Found t ∧ unhex t = .error (.hex fault) ∧
        (CryptoFault.unsealing (.hex fault)).name = "DecryptionError")) ∧
    (∀ bs, unhex (Hex.encode bs) = .ok bs) ∧
    (∀ t bs, unhex t = .ok bs → Hex.encode bs = t.lower) ∧
    ∀ t t' bs bs', unhex t = .ok bs → unhex t' = .ok bs' → (bs = bs' ↔ t.lower = t'.lower) := by
  refine ⟨?_, ?_, ?_, ?_⟩
  · intro t
    refine ⟨exists_unhex_iff, ?_⟩
    intro unformed
    obtain ⟨fault, found, refused⟩ := unhex_of_not_wellFormed unformed
    exact ⟨fault, found, refused, rfl⟩
  · intro bs
    exact unhex_eq_ok_iff.mpr (Hex.decode_encode bs)
  · intro t bs read
    exact encode_of_unhex read
  · intro t t' bs bs' read read'
    exact unhex_inj_iff read read'

theorem unhex_inverts_encode_mixed :
    (∃ fault : Hex.Fault, fault.Found "0a f9 " ∧ unhex "0a f9 " = .error (.hex fault)) ∧
    unhex "0aF9" = .ok [0x0A, 0xF9] ∧ unhex "0Af9" = .ok [0x0A, 0xF9] ∧
    Hex.encode [0x0A, 0xF9] = Text.lower "0aF9" ∧ Text.lower "0aF9" = Text.lower "0Af9" := by
  obtain ⟨reads, _, writes, same⟩ := unhex_inverts_encode
  have read : unhex "0aF9" = .ok [0x0A, 0xF9] := by decide
  have read' : unhex "0Af9" = .ok [0x0A, 0xF9] := by decide
  have unformed : ¬ Hex.WellFormed "0a f9 " := by
    intro formed
    have blank := formed.digits 0x20 (by decide)
    unfold Hex.IsDigit at blank
    revert blank
    decide
  obtain ⟨fault, found, refused, _⟩ := (reads "0a f9 ").2 unformed
  refine ⟨⟨fault, found, refused⟩, read, read', writes _ _ read, ?_⟩
  exact (same _ _ _ _ read read').mp rfl

end SealedToken
