import SealedToken.Proofs.Deployment.Binding
import SealedToken.Proofs.Token.Parts

namespace SealedToken

variable {session token : Text} {clock : Reading} {drawn : Bytes} {now : Int} {p : Parts}

def Assembled (session : Text) (drawn : Bytes) (now : Int) (p : Parts) : Prop :=
  ∃ key nonce plaintext ciphertext, deriveKey session = .ok key ∧
    deriveNonce (Hex.encode drawn) = .ok nonce ∧ Payload.render ⟨session, now⟩ = .ok plaintext ∧
    sealText key nonce plaintext = .ok ciphertext ∧ p = ⟨Hex.encode drawn, Hex.encode ciphertext⟩

theorem Assembled.ofValue? (assembled : Assembled session drawn now p) :
    Parts.ofValue? (.text p.encode) = some p := by
  obtain ⟨key, nonce, plaintext, ciphertext, _, _, _, _, rfl⟩ := assembled
  exact Parts.ofValue?_encode_iff.mpr (separator_not_mem_encode drawn)

theorem Issued.assembled (issued : Issued session clock drawn now token) :
    ∃ p, Assembled session drawn now p ∧ token = p.encode := by
  have fits := fitsNonce_encode_iff.mpr issued.size
  have encodable := encodable_rendered issued.usable now
  obtain ⟨ciphertext, sealed, forged⟩ := sealText_forge issued.usable fits encodable
  have key := deriveKey_of_usable issued.usable
  have nonce := deriveNonce_of_fits fits
  have rendered := Payload.render_eq_ok issued.bounded session
  refine ⟨_, ⟨_, _, _, ciphertext, key, nonce, rendered, sealed, rfl⟩, ?_⟩
  rw [issued.eq, issuedToken, forged]

namespace Deployment

theorem exists_session_of_issue {d : Deployment} {m : Manager} {session : Option Text}
    (answered : (d.issue m session).1.result = .ok (.token (some token))) :
    ∃ s now, session = some s ∧ Issued s d.clock (d.drawn m) now token := by
  cases session with
  | none =>
    rw [issue_result_eq_token_iff] at answered
    cases answered
  | some s =>
    obtain ⟨now, issued⟩ := issued_of_issue answered
    exact ⟨s, now, rfl, issued⟩

/-- Just the texts with a separator are read as parts, and are those parts written. Two texts are
read back as they are if the first holds no separator, and as other parts if it does; and the parts
of a token are those that it was put together from. -/
theorem reading_inverts_encode :
    (∀ v, (∃ p, Parts.ofValue? v = some p) ↔ ∃ t, v = .text t ∧ separator ∈ t) ∧
    (∀ t p, Parts.ofValue? (.text t) = some p → p.encode = t ∧ separator ∉ p.tokenId) ∧
    (∀ a b, ∃ p, Parts.ofFields (Parts.named (.text a) (.text b)) = .ok p ∧ p = ⟨a, b⟩ ∧
      (Parts.ofValue? (.text p.encode) = some p ↔ separator ∉ a) ∧
      (separator ∈ a →
        ∃ p', Parts.ofValue? (.text p.encode) = some p' ∧ p' ≠ p ∧ p'.encode = p.encode)) ∧
    (∀ p p' : Parts, separator ∉ p.tokenId → separator ∉ p'.tokenId → p.encode = p'.encode →
      p = p') ∧
    ∀ (d : Deployment) m session token,
      (d.issue m session).1.result = .ok (.token (some token)) →
      ∃ s now p, session = some s ∧ d.clock.truncate = .ok now ∧ Assembled s (d.drawn m) now p ∧
        token = p.encode ∧ Parts.ofValue? (.text token) = some p := by
  refine ⟨fun _ => Parts.exists_ofValue?_iff, ?_, ?_, fun _ _ => Parts.encode_inj, ?_⟩
  · intro t p read
    obtain ⟨same, split⟩ := ofValue?_eq_some_iff.mp read
    exact ⟨(Value.text.inj same).symm, split⟩
  · intro a b
    refine ⟨⟨a, b⟩, Parts.ofFields_texts a b, rfl, Parts.ofValue?_encode_iff, ?_⟩
    intro inside
    exact Parts.exists_ofValue?_of_mem inside
  · intro d m session token answered
    obtain ⟨s, now, given, issued⟩ := exists_session_of_issue answered
    obtain ⟨p, assembled, rfl⟩ := issued.assembled
    exact ⟨s, now, p, given, issued.finite, assembled, rfl, assembled.ofValue?⟩

theorem reading_inverts_encode_separators :
    (∃ p, Parts.ofValue? (.text "a|b|c") = some p ∧ p ≠ ⟨"a|b", "c"⟩ ∧ p.encode = "a|b|c") ∧
    Parts.ofValue? (.text "|||") = some ⟨"", "||"⟩ ∧
    ∃ token p,
      ((showing (.whole 1000000)).issue .standard (some letters)).1.result =
        .ok (.token (some token)) ∧
      Assembled letters [0, 1, 2, 3, 4, 5, 6, 7] 1000000 p ∧
      Parts.ofValue? (.text token) = some p := by
  obtain ⟨_, _, texts, _, issued⟩ := reading_inverts_encode
  refine ⟨?_, ?_, ?_⟩
  · obtain ⟨_, _, rfl, _, other⟩ := texts "a|b" "c"
    exact other (by decide)
  · obtain ⟨_, _, rfl, back, _⟩ := texts "" "||"
    exact back.mpr (by decide)
  · have usable : Usable letters := by decide +kernel
    have size : ((showing (.whole 1000000)).drawn .standard).length = tokenIdSize := by decide
    have finite : (showing (.whole 1000000)).clock.truncate = .ok 1000000 := rfl
    have answered := issue_result_eq_token_iff.mpr
      (issueToken_result usable size finite (by decide +kernel))
    obtain ⟨s, now, p, given, readable, assembled, _, read⟩ := issued _ _ _ _ answered
    cases given
    cases readable
    exact ⟨_, p, answered, assembled, read⟩

end Deployment

end SealedToken
