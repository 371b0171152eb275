import SealedToken.Proofs.Deployment.Binding
import SealedToken.Proofs.Token.Parts

namespace SealedToken

variable {session other t : Text} {clock clock' : Reading} {drawn drawn' : Bytes} {now now' : Int}

theorem drawn_of_issuedToken
    (same : issuedToken session drawn now = issuedToken other drawn' now') : drawn = drawn' := by
  let p := forge session (Hex.encode drawn) (session ++ separator :: Decimal.ofInt now)
  let p' := forge other (Hex.encode drawn') (other ++ separator :: Decimal.ofInt now')
  have parts : p = p' :=
    Parts.encode_inj (separator_not_mem_encode drawn) (separator_not_mem_encode drawn') same
  exact Hex.encode_inj_iff.mp (congrArg Parts.tokenId parts)

theorem Issued.tokenFor (issued : Issued session clock drawn now t) : TokenFor t session now := by
  rw [issued.eq]
  exact tokenFor_issuedToken issued.usable issued.size issued.bounded

/-- What is sealed ends in a separator and digits, whatever separators and digits the session ends
in. -/
theorem Issued.eq_iff {t' : Text} (issued : Issued session clock drawn now t)
    (issued' : Issued other clock' drawn' now' t')
    (shared : sessionKey session = sessionKey other) :
    t = t' ↔ session = other ∧ now = now' ∧ drawn = drawn' := by
  constructor
  · rintro rfl
    obtain ⟨sessions, times⟩ := issued.tokenFor.unique issued'.tokenFor shared
    have same := issued.eq
    rw [issued'.eq] at same
    exact ⟨sessions, times, (drawn_of_issuedToken same).symm⟩
  · rintro ⟨rfl, rfl, rfl⟩
    rw [issued.eq, issued'.eq]

namespace Deployment

/-- Whoever issues them and when, two tokens under one key are equal exactly if they are for the same
session, the same time and the same bytes. -/
theorem issue_injective_under_key {d d' : Deployment} {m m' : Manager}
    {session other token token' : Text} (shared : sessionKey session = sessionKey other)
    (answered : (d.issue m (some session)).1.result = .ok (.token (some token)))
    (answered' : (d'.issue m' (some other)).1.result = .ok (.token (some token'))) :
    ∃ now now', d.clock.truncate = .ok now ∧ d'.clock.truncate = .ok now' ∧
      (d.drawn m).length = 8 ∧ (d'.drawn m').length = 8 ∧
      (token = token' ↔ session = other ∧ now = now' ∧ d.drawn m = d'.drawn m') := by
  obtain ⟨now, issued⟩ := issued_of_issue answered
  obtain ⟨now', issued'⟩ := issued_of_issue answered'
  exact ⟨now, now', issued.finite, issued'.finite, issued.size, issued'.size,
    issued.eq_iff issued' shared⟩

/-- A session that goes on like the time of another. What is sealed for the two differs in a separator
only; that the clock of the second shows a fraction makes no difference. -/
theorem issue_injective_under_key_lookalike :
    let d := showing (.whole 107)
    let d' := showing (.double (.finite false 15 (-1)))
    let other := letters ++ "|10"
    ∃ token token', (d.issue .standard (some letters)).1.result = .ok (.token (some token)) ∧
      (d'.issue .standard (some other)).1.result = .ok (.token (some token')) ∧
      d'.clock.truncate = .ok 7 ∧ token ≠ token' := by
  intro d d' other
  have usable : Usable letters := by decide +kernel
  have usable' : Usable other := by decide +kernel
  have size : (d.drawn .standard).length = tokenIdSize := by decide
  have size' : (d'.drawn .standard).length = tokenIdSize := by decide
  have finite : d.clock.truncate = .ok 107 := rfl
  have finite' : d'.clock.truncate = .ok 7 := rfl
  have answered := issue_result_eq_token_iff.mpr
    (issueToken_result usable size finite (by decide +kernel))
  have answered' := issue_result_eq_token_iff.mpr
    (issueToken_result usable' size' finite' (by decide +kernel))
  have shared : sessionKey letters = sessionKey other := by decide +kernel
  obtain ⟨_, _, _, _, _, _, equal⟩ := issue_injective_under_key shared answered answered'
  refine ⟨_, _, answered, answered', finite', ?_⟩
  intro same
  exact absurd (equal.mp same).1 (by decide)

end Deployment

end SealedToken
