import SealedToken.Proofs.Deployment.Reply
import SealedToken.Proofs.Token.Malleability

namespace SealedToken.Deployment

/-- An accepted token is pinned down by its identifier and its body up to letter case: another tag
is found out wherever and whenever it is checked, and other letter case nowhere. -/
theorem check_pins_token {d : Deployment} {m : Manager} {session tokenId hex : Text}
    (accepted : (d.check m (.text (tokenId ++ separator :: hex)) (some session)).1.result =
      .ok (.truth true)) :
    (∀ hex', SameBody hex hex' → Hex.decode hex' ≠ Hex.decode hex →
      ∀ (d' : Deployment) (m' : Manager) (now : Int), d'.clock.truncate = .ok now →
        ∃ (text : Text) (cause : Cause), cause.name = "DecryptionError" ∧
          cause.message = "Authentication tag mismatch" ∧
          d'.Checks m' (.text (tokenId ++ separator :: hex')) session
            { result := .ok false, notice := some (.internal text cause), reads := 1 }) ∧
    (∀ hex' : Text, hex'.lower = hex.lower →
      ∀ (d' : Deployment) (m' : Manager) (session' : Option Text),
        d'.check m' (.text (tokenId ++ separator :: hex')) session' =
          d'.check m' (.text (tokenId ++ separator :: hex)) session') ∧
    ∀ hex' : Text, (SameBody hex hex' ∧ ∃ (d' : Deployment) (m' : Manager),
        (d'.check m' (.text (tokenId ++ separator :: hex')) (some session)).1.result =
          .ok (.truth true)) ↔ hex'.lower = hex.lower := by
  have accepted' := check_result_eq_truth_iff.mp accepted
  obtain ⟨now, finite⟩ := truncate_of_accepted accepted'
  obtain ⟨time, tokenFor, _⟩ := tokenFor_of_accepted finite accepted'
  obtain ⟨plaintext, presented, fits, opens⟩ := tokenFor.presented
  have spared : ∀ hex' : Text, hex'.lower = hex.lower →
      ∀ (d' : Deployment) (m' : Manager) (session' : Option Text),
        d'.check m' (.text (tokenId ++ separator :: hex')) session' =
          d'.check m' (.text (tokenId ++ separator :: hex)) session' := by
    intro hex' same d' m' session'
    simp only [check, checkToken_of_lower presented.split same]
  refine ⟨?_, spared, ?_⟩
  · intro hex' body different d' m' now' finite'
    have call := checkToken_of_other_tag presented fits opens body different finite'
      m'.allowedExpiry
    exact ⟨_, .crypto (.unsealing .tagMismatch), rfl, rfl, checks_of_call call⟩
  · intro hex'
    constructor
    · rintro ⟨body, d', m', acceptedToo⟩
      have acceptedToo := check_result_eq_truth_iff.mp acceptedToo
      obtain ⟨now', finite'⟩ := truncate_of_accepted acceptedToo
      by_cases different : Hex.decode hex' ≠ Hex.decode hex
      · rw [checkToken_of_other_tag presented fits opens body different finite'] at acceptedToo
        exact absurd acceptedToo (rejectCall_result_ne _ _)
      · obtain ⟨_, _, _, _, _, decoded, _⟩ := body
        have decoded' := (Classical.not_not.mp different).trans decoded
        exact Hex.lower_of_decode decoded decoded'
    · intro same
      refine ⟨sameBody_of_lower opens same, d, m, ?_⟩
      rw [spared hex' same]
      exact accepted

def issuedId : Text := "0001020304050607"

def issuedBody : Text :=
  "fd0a3a98932cd006d93bb237015ab1280a8545ff90a2b492ad3963e07942fc0ad079"

def issuedTag : Text := "af33b8761003036035458d712d461afd"

theorem check_pins_issued :
    ((showing (.whole 1000000)).check .standard
      (.text (issuedId ++ separator :: (issuedBody ++ issuedTag))) (some letters)).1.result =
        .ok (.truth true) ∧
    (∃ (text : Text) (cause : Cause), cause.name = "DecryptionError" ∧
      cause.message = "Authentication tag mismatch" ∧
      (showing (.whole 0)).Checks .standard
        (.text (issuedId ++ separator :: (issuedBody ++ "af33b8761003036035458d712d461afe"))) letters
        { result := .ok false, notice := some (.internal text cause), reads := 1 }) ∧
    ∀ session, (showing (.whole 0)).check .standard
        (.text (issuedId ++ separator :: (issuedBody ++ "AF33B8761003036035458D712D461AFD")))
        session =
      (showing (.whole 0)).check .standard
        (.text (issuedId ++ separator :: (issuedBody ++ issuedTag))) session := by
  have usable : Usable letters := by decide +kernel
  have size : ((showing (.whole 1000000)).drawn .standard).length = tokenIdSize := by decide
  have bounded : (1000000 : Int).natAbs < 10 ^ Decimal.maxDigits := by decide +kernel
  have finite : (showing (.whole 1000000)).clock.truncate = .ok 1000000 := rfl
  have tokenFor := tokenFor_issuedToken usable size bounded
  have issued : issuedToken letters ((showing (.whole 1000000)).drawn .standard) 1000000 =
      issuedId ++ separator :: (issuedBody ++ issuedTag) := by decide +kernel
  rw [issued] at tokenFor
  have fresh : (1000000 : Int) ≤ 1000000 + Manager.standard.allowedExpiry := by decide
  have accepted := check_result_eq_truth_iff.mpr (accepted_of_tokenFor finite tokenFor fresh)
  have pins := check_pins_token accepted
  have body : SameBody (issuedBody ++ issuedTag)
      (issuedBody ++ "af33b8761003036035458d712d461afe") :=
    ⟨(Hex.pairs? issuedBody).getD [], (Hex.pairs? issuedTag).getD [],
      (Hex.pairs? "af33b8761003036035458d712d461afe").getD [], by decide, by decide,
      by decide +kernel, by decide +kernel⟩
  refine ⟨accepted, ?_, ?_⟩
  · exact pins.1 _ body (by decide +kernel) _ _ 0 rfl
  · intro session
    exact pins.2.1 _ (by decide +kernel) _ _ session

end SealedToken.Deployment
