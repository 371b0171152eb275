import SealedToken.Proofs.Token.Checking

namespace SealedToken

/-- Whether a text is a token for a session and a time. The identifier is a nonce and holds no
separator; after the first separator there stands, in letters of either case, what the session and a
spelling of the time are sealed to. -/
def TokenFor (t session : Text) (time : Int) : Prop :=
  ∃ (tokenId hex stamp : Text) (key nonce ciphertext : Bytes),
    t = tokenId ++ separator :: hex ∧ separator ∉ tokenId ∧
    Utf8.encodable tokenId = true ∧ (Utf8.bytes tokenId).length = nonceSize ∧
    Decimal.Reads stamp time ∧
    deriveKey session = .ok key ∧ deriveNonce tokenId = .ok nonce ∧
    sealText key nonce (session ++ separator :: stamp) = .ok ciphertext ∧
    hex.lower = Hex.encode ciphertext

variable {session t : Text} {allowed : Nat} {clock : Reading} {now time : Int}

theorem TokenFor.usable (tokenFor : TokenFor t session time) : Usable session := by
  obtain ⟨_, _, _, _, _, _, _, _, _, _, _, derived, _⟩ := tokenFor
  exact (deriveKey_eq_ok_iff.mp derived).1

theorem tokenFor_iff :
    TokenFor t session time ↔ ∃ p plaintext, Presented (.text t) session p ∧ FitsNonce p.tokenId ∧
      p.Opens session plaintext ∧ Payload.Reads plaintext ⟨session, time⟩ := by
  constructor
  · rintro ⟨tokenId, hex, stamp, key, nonce, ciphertext, rfl, split, encodable, size, reads,
      derived, nonceDerived, sealed, spelled⟩
    obtain ⟨usable, rfl⟩ := deriveKey_eq_ok_iff.mp derived
    obtain ⟨fits, rfl⟩ := deriveNonce_eq_ok_iff.mp nonceDerived
    exact ⟨⟨tokenId, hex⟩, _, ⟨usable, rfl, split⟩, fits,
      Parts.opens_iff_sealText.mpr ⟨ciphertext, spelled, sealed⟩,
      ⟨stamp, rfl, reads⟩⟩
  · rintro ⟨p, plaintext, ⟨usable, written, split⟩, fits, opens, stamp, rfl, reads⟩
    obtain ⟨ciphertext, spelled, sealed⟩ := Parts.opens_iff_sealText.mp opens
    cases written
    exact ⟨p.tokenId, p.ciphertextHex, stamp, _, _, ciphertext, rfl, split, fits.1, fits.2, reads,
      deriveKey_of_usable usable, deriveNonce_of_fits fits, sealed, spelled⟩

theorem rejectCall_result_ne (reads : Nat) (r : Rejection) :
    (rejectCall reads r).result ≠ .ok true := by
  unfold rejectCall
  split <;> simp

theorem truncate_of_accepted {token : Value}
    (accepted : (checkToken token (some session) allowed clock).result = .ok true) :
    ∃ now, clock.truncate = .ok now := by
  cases readable : clock.truncate with
  | ok now => exact ⟨now, rfl⟩
  | error fault =>
    rcases misused_or_presented token session with misused | ⟨p, presented⟩
    · obtain ⟨text, call⟩ := checkToken_of_misused misused allowed clock
      simp [call] at accepted
    · simp [checkToken_of_unreadable presented readable allowed] at accepted

theorem tokenFor_of_accepted (finite : clock.truncate = .ok now)
    (accepted : (checkToken (.text t) (some session) allowed clock).result = .ok true) :
    ∃ time, TokenFor t session time ∧ now ≤ time + allowed := by
  cases finding (.text t) session with
  | misused misused =>
    obtain ⟨text, call⟩ := checkToken_of_misused misused allowed clock
    simp [call] at accepted
  | misfit presented misfit =>
    obtain ⟨text, fault, call⟩ := checkToken_of_not_fits presented misfit finite allowed
    simp [call] at accepted
  | shut presented fits shut =>
    obtain ⟨text, fault, call⟩ := checkToken_of_shut presented fits shut finite allowed
    simp [call] at accepted
  | malformed presented fits opens malformed =>
    obtain ⟨text, call⟩ := checkToken_of_malformed presented fits opens malformed finite allowed
    simp [call] at accepted
  | overlong overlong =>
    simp [checkToken_of_overlong overlong finite allowed] at accepted
  | @payload p plaintext payload presented fits opens reads =>
    have found := rejection?_of_reads presented.usable fits opens reads allowed now
    split at found
    · simp only [checkToken_of_rejected presented finite found] at accepted
      exact absurd accepted (rejectCall_result_ne _ _)
    · next same =>
      have same : payload.session = session := Classical.not_not.mp same
      split at found
      · simp only [checkToken_of_rejected presented finite found] at accepted
        exact absurd accepted (rejectCall_result_ne _ _)
      · next fresh =>
        subst same
        exact ⟨payload.issuedAt, tokenFor_iff.mpr ⟨p, plaintext, presented, fits, opens, reads⟩,
          Int.not_lt.mp fresh⟩

theorem accepted_of_tokenFor (finite : clock.truncate = .ok now)
    (tokenFor : TokenFor t session time) (fresh : now ≤ time + allowed) :
    (checkToken (.text t) (some session) allowed clock).result = .ok true := by
  obtain ⟨p, plaintext, presented, fits, opens, reads⟩ := tokenFor_iff.mp tokenFor
  rw [checkToken_of_valid presented fits opens reads rfl fresh finite]

theorem result_of_tokenFor (finite : clock.truncate = .ok now)
    (bounded : now.natAbs < 10 ^ Decimal.maxDigits) (tokenFor : TokenFor t session time)
    (allowed : Nat) :
    (checkToken (.text t) (some session) allowed clock).result =
      .ok (decide (now ≤ time + allowed)) := by
  by_cases fresh : now ≤ time + allowed
  · rw [accepted_of_tokenFor finite tokenFor fresh, decide_eq_true fresh]
  · obtain ⟨p, plaintext, presented, fits, opens, reads⟩ := tokenFor_iff.mp tokenFor
    obtain ⟨text, call⟩ := checkToken_of_expired presented fits opens reads rfl
      (Int.not_le.mp fresh) finite bounded
    rw [call, decide_eq_false fresh]

end SealedToken
