import SealedToken.Proofs.Deployment.Reply
import SealedToken.Proofs.Token.Issuing

namespace SealedToken.Deployment

/-- A token is issued for every usable session, and is valid to the last moment of the age that the
checking manager allows. -/
theorem issue_then_check {d d' : Deployment} {issuer : Manager} {session : Text}
    {issuedAt now : Int} (usable : Usable session)
    (size : (d.drawn issuer).length = tokenIdSize)
    (finite : d.clock.truncate = .ok issuedAt) (finite' : d'.clock.truncate = .ok now)
    (bounded : issuedAt.natAbs < 10 ^ Decimal.maxDigits)
    (bounded' : now.natAbs < 10 ^ Decimal.maxDigits) (verifier : Manager) :
    ∃ token, (d.issue issuer (some session)).1.result = .ok (.token (some token)) ∧
      (d'.check verifier (.text token) (some session)).1.result =
        .ok (.truth (decide (now ≤ issuedAt + verifier.allowedExpiry))) := by
  refine ⟨issuedToken session (d.drawn issuer) issuedAt, ?_, ?_⟩
  · rw [issue_result, issueToken_result usable size finite bounded]
    rfl
  · have tokenFor := tokenFor_issuedToken usable size bounded
    rw [check_result_eq_truth_iff]
    exact result_of_tokenFor finite' bounded' tokenFor _

theorem issue_then_check_last_moment :
    ∃ token,
      ((showing (.whole 1000000)).issue .standard (some letters)).1.result =
        .ok (.token (some token)) ∧
      ((showing (.whole 4600000)).check .standard (.text token) (some letters)).1.result =
        .ok (.truth true) := by
  have usable : Usable letters := by decide +kernel
  have size : ((showing (.whole 1000000)).drawn .standard).length = tokenIdSize := by decide
  have issued : (showing (.whole 1000000)).clock.truncate = .ok 1000000 := rfl
  have checked : (showing (.whole 4600000)).clock.truncate = .ok 4600000 := rfl
  exact issue_then_check usable size issued checked (by decide +kernel) (by decide +kernel)
    .standard

end SealedToken.Deployment
