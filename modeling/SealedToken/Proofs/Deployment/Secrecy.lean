import SealedToken.Proofs.Deployment.Booking
import SealedToken.Proofs.Token.Secrecy

namespace SealedToken

structure Reply.SameButToken (r r' : Reply) : Prop where
  rest : { r with result := r'.result } = r'
  result : r.result = r'.result ∨ ∃ token token',
    r.result = .ok (.token (some token)) ∧ r'.result = .ok (.token (some token'))

namespace Deployment

variable {d : Deployment} {m : Manager} {session other : Text}

theorem issueReply_of_same {call call' : Call (Option Text)} (same : SameButToken call call') :
    (m.issueReply call).SameButToken (m.issueReply call') := by
  obtain ⟨notice, draws, reads, debug, result⟩ := same
  refine ⟨?_, ?_⟩
  · simp only [Manager.issueReply, notice, draws, reads, debug]
  · rcases result with same | ⟨token, token', issued, issued'⟩
    · exact .inl (by rw [Manager.issueReply, Manager.issueReply, same])
    · exact .inr ⟨token, token', by rw [Manager.issueReply, issued]; rfl,
        by rw [Manager.issueReply, issued']; rfl⟩

theorem issueOutcome?_of_same {call call' : Call (Option Text)} (same : SameButToken call call') :
    issueOutcome? call = issueOutcome? call' := by
  rcases same.result with same | ⟨token, token', issued, issued'⟩
  · rw [issueOutcome?, issueOutcome?, same]
  · rw [issueOutcome?, issueOutcome?, issued, issued']

/-- A request tells the class of the session and a check whether it opens the token and is named in
it; so sessions with the same first sixteen bytes, of which the token names neither, are one. -/
theorem calls_hide_session (d : Deployment) (m : Manager) (session other : Text) :
    (SameClass session other → session ≠ [] → other ≠ [] →
      (d.issue m (some session)).2 = (d.issue m (some other)).2 ∧
        (d.issue m (some session)).1.SameButToken (d.issue m (some other)).1) ∧
    (∀ token, Indistinct token session other →
      d.check m token (some session) = d.check m token (some other)) ∧
    ∀ token, Usable session → Usable other → sessionKey session = sessionKey other →
      ¬ NamesEither token session other →
        d.check m token (some session) = d.check m token (some other) := by
  refine ⟨?_, ?_, ?_⟩
  · intro same nonempty nonempty'
    obtain ⟨source, call⟩ :=
      issueToken_of_sameClass same nonempty nonempty' d.clock (d.sourceOf m)
    rw [issue_after, issue_after, issue_reply, issue_reply, source, call.notice,
      issueOutcome?_of_same call]
    exact ⟨rfl, issueReply_of_same call⟩
  · intro token indistinct
    simp only [check, checkToken_of_indistinct indistinct]
  · intro token usable usable' shared unnamed
    have indistinct := indistinct_of_sharedKey usable usable' shared unnamed
    simp only [check, checkToken_of_indistinct indistinct]

theorem calls_hide_letters :
    ((showing (.whole 0)).issue .standard (some "short")).1.SameButToken
      ((showing (.whole 0)).issue .standard (some "brief")).1 ∧
    ∃ token, TokenFor token letters 0 ∧
      (showing (.whole 0)).check .standard (.text token) (some (letters ++ "1")) =
        (showing (.whole 0)).check .standard (.text token) (some (letters ++ "2")) := by
  have short : SameClass "short" "brief" := .short (by decide +kernel) (by decide +kernel)
  have requests := (calls_hide_session (showing (.whole 0)) .standard _ _).1 short nofun nofun
  have size : ((showing (.whole 0)).drawn .standard).length = tokenIdSize := by decide
  have usable₀ : Usable letters := by decide +kernel
  have bounded : (0 : Int).natAbs < 10 ^ Decimal.maxDigits := by decide +kernel
  have tokenFor := tokenFor_issuedToken usable₀ size bounded
  have usable : Usable (letters ++ "1") := by decide +kernel
  have usable' : Usable (letters ++ "2") := by decide +kernel
  have shared : sessionKey letters = sessionKey (letters ++ "1") := by decide +kernel
  have shared' : sessionKey letters = sessionKey (letters ++ "2") := by decide +kernel
  have unnamed := unnamed_of_tokenFor tokenFor shared shared' usable' (by decide) (by decide)
  exact ⟨requests.2, _, tokenFor, (calls_hide_session (showing (.whole 0)) .standard _ _).2.2 _
    usable usable' (shared.symm.trans shared') unnamed⟩

end Deployment

end SealedToken
