import SealedToken.Proofs.Deployment.Reply
import SealedToken.Proofs.Token.Binding

namespace SealedToken.Deployment

theorem tokenFor_of_check_accepts {d : Deployment} {m : Manager} {t session : Text}
    (accepted : (d.check m (.text t) (some session)).1.result = .ok (.truth true)) :
    ∃ time, TokenFor t session time := by
  rw [check_result_eq_truth_iff] at accepted
  obtain ⟨now, finite⟩ := truncate_of_accepted accepted
  obtain ⟨time, tokenFor, _⟩ := tokenFor_of_accepted finite accepted
  exact ⟨time, tokenFor⟩

theorem issued_of_issue {d : Deployment} {m : Manager} {session token : Text}
    (answered : (d.issue m (some session)).1.result = .ok (.token (some token))) :
    ∃ now, Issued session d.clock (d.drawn m) now token := by
  rw [issue_result_eq_token_iff] at answered
  exact issued_of_result answered

/-- Two sessions with the same key are kept apart. -/
theorem check_binds_session {session other : Text} (usable : Usable other)
    (different : session ≠ other) (shared : sessionKey session = sessionKey other) :
    (∀ (d d' : Deployment) (m m' : Manager) (t : Text),
      ¬ ((d.check m (.text t) (some session)).1.result = .ok (.truth true) ∧
        (d'.check m' (.text t) (some other)).1.result = .ok (.truth true))) ∧
    ∀ (d : Deployment) (issuer : Manager) (token : Text),
      (d.issue issuer (some session)).1.result = .ok (.token (some token)) →
      ∀ (d' : Deployment) (now : Int) (m : Manager), d'.clock.truncate = .ok now →
        d'.Checks m (.text token) other
          { result := .ok false, reads := 1,
            notice := some (.validation ("CSRF token " ++ Hex.encode (d.drawn issuer) ++
              " was issued for a different session")) } := by
  constructor
  · rintro d d' m m' t ⟨accepted, accepted'⟩
    obtain ⟨time, tokenFor⟩ := tokenFor_of_check_accepts accepted
    obtain ⟨time', tokenFor'⟩ := tokenFor_of_check_accepts accepted'
    exact different (tokenFor.session_unique tokenFor' shared)
  · intro d issuer token answered d' now m finite
    obtain ⟨issuedAt, issued⟩ := issued_of_issue answered
    exact checks_of_call (issued.checkToken_other usable different shared finite _)

theorem check_binds_letters :
    ∃ token,
      ((showing (.whole 1000000)).issue .standard (some letters)).1.result =
        .ok (.token (some token)) ∧
      ¬ (((showing (.whole 1000000)).check .standard (.text token) (some letters)).1.result =
          .ok (.truth true) ∧
        ((showing (.whole 1000000)).check .standard (.text token)
          (some (letters ++ "|1000000"))).1.result = .ok (.truth true)) ∧
      (showing (.whole 9000000)).Checks .standard (.text token) (letters ++ "|1000000")
        { result := .ok false, reads := 1,
          notice := some (.validation
            "CSRF token 0001020304050607 was issued for a different session") } := by
  have usable : Usable letters := by decide +kernel
  have size : ((showing (.whole 1000000)).drawn .standard).length = tokenIdSize := by decide
  have finite : (showing (.whole 1000000)).clock.truncate = .ok 1000000 := rfl
  have bounded : (1000000 : Int).natAbs < 10 ^ Decimal.maxDigits := by decide +kernel
  have answered := issue_result_eq_token_iff.mpr (issueToken_result usable size finite bounded)
  have usable' : Usable (letters ++ "|1000000") := by decide +kernel
  have shared : sessionKey letters = sessionKey (letters ++ "|1000000") := by decide +kernel
  have binds := check_binds_session usable' (by decide) shared
  refine ⟨_, answered, binds.1 _ _ _ _ _, ?_⟩
  exact binds.2 _ _ _ answered (showing (.whole 9000000)) 9000000 .standard rfl

end SealedToken.Deployment
