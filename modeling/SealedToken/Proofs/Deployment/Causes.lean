import SealedToken.Proofs.Deployment.Requesting
import SealedToken.Proofs.Token.Causes

namespace SealedToken.Deployment

/-- The guard lets pass exactly the sessions that give a key, which is made of their first sixteen
bytes; and what is then reported as internal failure is about the nonce, or in checks about the
hexadecimal text, the tag or the text that was sealed. -/
theorem guarded_causes :
    (∀ session : Text,
      (sessionProblem? session = none ↔ ∃ key, deriveKey session = .ok key) ∧
      ∀ key, deriveKey session = .ok key →
        ∃ bytes, Utf8.encode session = .ok bytes ∧ 16 ≤ bytes.length ∧ key = bytes.take 16) ∧
    ∀ (d : Deployment) (m : Manager) (text : Text) (cause : Cause),
      (∀ (session : Option Text) call, d.Issues m session call →
        call.notice = some (.internal text cause) →
        Misdrawn (d.drawn m) cause ∧ ¬ DeadCause cause) ∧
      (∀ (token : Value) (session : Text) call, d.Checks m token session call →
        call.notice = some (.internal text cause) → CheckCause cause ∧ ¬ DeadCause cause) ∧
      ∀ token : Value, (d.check m token none).1 = { result := .error (.fault .noSession) } := by
  constructor
  · intro session
    refine ⟨sessionProblem?_eq_none_iff, ?_⟩
    intro key derived
    obtain ⟨usable, rfl⟩ := deriveKey_eq_ok_iff.mp derived
    exact ⟨_, encode_of_encodable usable.1, usable.2, rfl⟩
  · intro d m text cause
    refine ⟨?_, ?_, fun _ => rfl⟩
    · rintro session call issues internal
      rw [← issues.made] at internal
      have misdrawn := issueToken_cause internal
      exact ⟨misdrawn, misdrawn.checked.not_dead⟩
    · rintro token session call checks internal
      rw [← checks.made] at internal
      have checked := checkToken_cause internal
      exact ⟨checked, checked.not_dead⟩

theorem guarded_causes_reported :
    (∃ bytes, Utf8.encode "abcdefghijklmno€" = .ok bytes ∧ 16 ≤ bytes.length ∧
      (letters.take 15).map (UInt8.ofNat ·.val) ++ [0xE2] = bytes.take 16) ∧
    (∃ call text cause,
      { showing (.whole 0) with source := .fixed [1, 2, 3] }.Issues .standard (some letters) call ∧
      call.notice = some (.internal text cause) ∧ Misdrawn [1, 2, 3] cause ∧ ¬ DeadCause cause) ∧
    ∃ call text cause,
      (showing (.whole 0)).Checks .standard (.text "0001020304050607|00") letters call ∧
      call.notice = some (.internal text cause) ∧ CheckCause cause ∧ ¬ DeadCause cause := by
  obtain ⟨guard, causes⟩ := guarded_causes
  refine ⟨?_, ?_, ?_⟩
  · have derived : deriveKey "abcdefghijklmno€" =
        .ok ((letters.take 15).map (UInt8.ofNat ·.val) ++ [0xE2]) := by decide +kernel
    exact (guard _).2 _ derived
  · have noticed : (issueToken (some letters) (.whole 0) (.fixed [1, 2, 3])).1.notice =
        some (.internal "CSRF token generation failed for token id 010203"
          (.crypto (.derivation (.nonceLength 6)))) := by decide +kernel
    have issues : { showing (.whole 0) with source := .fixed [1, 2, 3] }.Issues .standard
        (some letters) _ := issues_of_call rfl
    exact ⟨_, _, _, issues, noticed, (causes _ _ _ _).1 _ _ issues noticed⟩
  · have noticed : (checkToken (.text "0001020304050607|00") (some letters) defaultExpiry
        (.whole 0)).notice =
        some (.internal "Could not validate CSRF token 0001020304050607 due to exception"
          (.crypto (.unsealing .tagMismatch))) := by decide +kernel
    have checks : (showing (.whole 0)).Checks .standard (.text "0001020304050607|00") letters _ :=
      checks_of_call rfl
    exact ⟨_, _, _, checks, noticed, (causes _ _ _ _).2.1 _ _ _ checks noticed⟩

end SealedToken.Deployment
