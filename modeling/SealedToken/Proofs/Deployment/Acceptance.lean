import SealedToken.Proofs.Deployment.Reply
import SealedToken.Proofs.Token.TokenFor

namespace SealedToken.Deployment

/-- A text is accepted exactly if it is a token for the session and has not expired. -/
theorem check_accepts_iff {d : Deployment} {now : Int} (finite : d.clock.truncate = .ok now)
    (m : Manager) (t session : Text) :
    (d.check m (.text t) (some session)).1.result = .ok (.truth true) ↔
      Usable session ∧ ∃ time, TokenFor t session time ∧ now ≤ time + m.allowedExpiry := by
  rw [check_result_eq_truth_iff]
  constructor
  · intro accepted
    obtain ⟨time, tokenFor, fresh⟩ := tokenFor_of_accepted finite accepted
    exact ⟨tokenFor.usable, time, tokenFor, fresh⟩
  · rintro ⟨_, time, tokenFor, fresh⟩
    exact accepted_of_tokenFor finite tokenFor fresh

/-- A token of the thousandth second with capitals in its hexadecimal part and a sign and a zero
before its time. -/
def spelledToken : Text :=
  "0001020304050607|FD0a3a98932cd006d93bb237015ab1280a8545ff90a2b492ad3963fa7943fc0a" ++
    "d079228d046e0bf2348665aede23e2c6df96F087"

theorem check_accepts_last_moment :
    ((showing (.whole 4600000)).check .standard (.text spelledToken) (some letters)).1.result =
      .ok (.truth true) := by
  have stamp : Decimal.Reads "+01000000" 1000000 := Decimal.read_eq_some_iff.mp rfl
  have tokenFor : TokenFor spelledToken letters 1000000 :=
    ⟨"0001020304050607", spelledToken.drop 17, "+01000000", _, _, _, by decide +kernel,
      by decide +kernel, by decide +kernel, by decide +kernel, stamp, rfl, rfl, rfl,
      by decide +kernel⟩
  exact (check_accepts_iff (d := showing (.whole 4600000)) rfl _ _ _).mpr
    ⟨tokenFor.usable, 1000000, tokenFor, by decide⟩

end SealedToken.Deployment
