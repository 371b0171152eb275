import SealedToken.Proofs.Token.Binding

namespace SealedToken

def Short (session : Text) : Prop :=
  Utf8.encodable session = true ∧ (Utf8.bytes session).length < keySize

instance (session : Text) : Decidable (Short session) :=
  inferInstanceAs (Decidable (_ ∧ _))

inductive SameClass (session other : Text) : Prop
  | unencodable (unencodable : Utf8.encodable session = false)
    (unencodable' : Utf8.encodable other = false)
  | short (short : Short session) (short' : Short other)
  | usable (usable : Usable session) (usable' : Usable other)

/-- Whether a token unseals to the same bytes under the keys of two sessions, or under neither. -/
def SameOutcome (token : Value) (session other : Text) : Prop :=
  ∀ p ciphertext, Parts.ofValue? token = some p → FitsNonce p.tokenId →
    Hex.decode p.ciphertextHex = .ok ciphertext →
      (unsealBytes (sessionKey session) (Utf8.bytes p.tokenId) ciphertext).toOption =
        (unsealBytes (sessionKey other) (Utf8.bytes p.tokenId) ciphertext).toOption

/-- Whether a token opens for a session to a payload of that session or of another one. -/
def NamesEither (token : Value) (session other : Text) : Prop :=
  ∃ p plaintext payload, Presented token session p ∧ FitsNonce p.tokenId ∧
    p.Opens session plaintext ∧ Payload.Reads plaintext payload ∧
    (payload.session = session ∨ payload.session = other)

inductive Indistinct (token : Value) (session other : Text) : Prop
  | unencodable (unencodable : Utf8.encodable session = false)
    (unencodable' : Utf8.encodable other = false)
  | short (short : Short session) (short' : Short other)
  | usable (usable : Usable session) (usable' : Usable other)
    (outcome : SameOutcome token session other) (unnamed : ¬ NamesEither token session other)

variable {token : Value} {session other plaintext : Text} {p : Parts} {source : RandomSource}

theorem sessionProblem?_of_unencodable (unencodable : Utf8.encodable session = false) :
    sessionProblem? session = some .notEncodable := by
  simp [sessionProblem?, Utf8.encode, unencodable]

theorem sessionProblem?_of_short (short : Short session) :
    sessionProblem? session = some .tooShort := by
  simp only [sessionProblem?, encode_of_encodable short.1, short.2, ↓reduceIte]

structure SameButToken (call call' : Call (Option Text)) : Prop where
  notice : call.notice = call'.notice
  draws : call.draws = call'.draws
  reads : call.reads = call'.reads
  debug : call.debug = call'.debug
  result : call.result = call'.result ∨ ∃ token token',
    call.result = .ok (some token) ∧ call'.result = .ok (some token')

theorem SameButToken.refl (call : Call (Option Text)) : SameButToken call call :=
  ⟨rfl, rfl, rfl, rfl, .inl rfl⟩

theorem callWith_of_usable (usable : Usable session) (usable' : Usable other) (clock : Reading)
    (drawn : Bytes) : SameButToken (callWith session clock drawn) (callWith other clock drawn) := by
  cases readable : clock.truncate with
  | error fault =>
    rw [callWith_of_unreadable readable, callWith_of_unreadable readable]
    exact .refl _
  | ok now =>
    by_cases fits : FitsNonce (Hex.encode drawn)
    · by_cases bounded : now.natAbs < 10 ^ Decimal.maxDigits
      · rw [callWith_of_fits usable fits readable bounded,
          callWith_of_fits usable' fits readable bounded]
        exact ⟨rfl, rfl, rfl, rfl, .inr ⟨_, _, rfl, rfl⟩⟩
      · rw [callWith_of_large usable fits readable bounded,
          callWith_of_large usable' fits readable bounded]
        exact .refl _
    · obtain ⟨fault, refused, call⟩ := callWith_of_misfit usable fits readable
      obtain ⟨fault', refused', call'⟩ := callWith_of_misfit usable' fits readable
      rw [refused] at refused'
      cases refused'
      rw [call, call']
      exact .refl _

theorem issueToken_of_sameClass (same : SameClass session other) (nonempty : session ≠ [])
    (nonempty' : other ≠ []) (clock : Reading) (source : RandomSource) :
    (issueToken (some session) clock source).2 = (issueToken (some other) clock source).2 ∧
      SameButToken (issueToken (some session) clock source).1
        (issueToken (some other) clock source).1 := by
  cases same with
  | unencodable unencodable unencodable' =>
    rw [issueToken_of_problem nonempty (sessionProblem?_of_unencodable unencodable),
      issueToken_of_problem nonempty' (sessionProblem?_of_unencodable unencodable')]
    exact ⟨rfl, .refl _⟩
  | short short short' =>
    rw [issueToken_of_problem nonempty (sessionProblem?_of_short short),
      issueToken_of_problem nonempty' (sessionProblem?_of_short short')]
    exact ⟨rfl, .refl _⟩
  | usable usable usable' =>
    rw [issueToken_of_usable usable, issueToken_of_usable usable']
    exact ⟨rfl, callWith_of_usable usable usable' clock _⟩

theorem checkToken_of_problem {problem : SessionProblem}
    (unusable : sessionProblem? session = some problem) (token : Value) (allowed : Nat)
    (clock : Reading) :
    checkToken token (some session) allowed clock =
      rejectCall 0 (if (Parts.ofValue? token).isSome then .session problem else .malformed) := by
  cases parts : Parts.ofValue? token with
  | none => simp [checkToken, parts]
  | some p => simp [checkToken, parts, unusable]

theorem unsealBytes_of_sameOutcome {ciphertext : Bytes} (usable : Usable session)
    (usable' : Usable other) (fits : FitsNonce p.tokenId)
    (same : (unsealBytes (sessionKey session) (Utf8.bytes p.tokenId) ciphertext).toOption =
      (unsealBytes (sessionKey other) (Utf8.bytes p.tokenId) ciphertext).toOption) :
    unsealBytes (sessionKey session) (Utf8.bytes p.tokenId) ciphertext =
      unsealBytes (sessionKey other) (Utf8.bytes p.tokenId) ciphertext := by
  -- With a derived key and nonce there is but one fault, so two failures are the same.
  rcases Parts.unsealBytes_derived usable fits ciphertext with forged | ⟨bytes, opened⟩
  · rcases Parts.unsealBytes_derived usable' fits ciphertext with forged' | ⟨bytes', opened'⟩
    · rw [forged, forged']
    · rw [forged, opened'] at same
      cases same
  · rcases Parts.unsealBytes_derived usable' fits ciphertext with forged' | ⟨bytes', opened'⟩
    · rw [opened, forged'] at same
      cases same
    · rw [opened, opened'] at same
      cases same
      rw [opened, opened']

theorem unseal_of_sameOutcome (usable : Usable session) (usable' : Usable other)
    (parts : Parts.ofValue? token = some p) (same : SameOutcome token session other) :
    p.unseal session = p.unseal other := by
  by_cases fits : FitsNonce p.tokenId
  · cases decoded : Hex.decode p.ciphertextHex with
    | error fault =>
      rw [Parts.unseal_of_undecoded usable fits decoded,
        Parts.unseal_of_undecoded usable' fits decoded]
    | ok ciphertext =>
      have same' := unsealBytes_of_sameOutcome usable usable' fits (same p ciphertext parts fits decoded)
      rw [Parts.unseal_of_decoded usable fits decoded, Parts.unseal_of_decoded usable' fits decoded,
        unsealText, unsealText, same']
  · obtain ⟨fault, refused⟩ := deriveNonce_of_not_fits fits
    rw [Parts.unseal_of_misfit usable refused, Parts.unseal_of_misfit usable' refused]

theorem opens_of_unseal (usable : Usable session) (unsealed : p.unseal session = .ok plaintext) :
    FitsNonce p.tokenId ∧ p.Opens session plaintext := by
  by_cases fits : FitsNonce p.tokenId
  · rcases Parts.shut_or_opens usable fits with shut | ⟨plaintext', opens⟩
    · obtain ⟨fault, failed, _⟩ := Parts.unseal_of_shut usable fits shut
      rw [failed] at unsealed
      cases unsealed
    · rw [Parts.unseal_of_opens usable fits opens] at unsealed
      cases unsealed
      exact ⟨fits, opens⟩
  · obtain ⟨fault, failed⟩ := Parts.unseal_of_not_fits usable fits
    rw [failed] at unsealed
    cases unsealed

theorem rejection?_of_indistinct (usable : Usable session) (usable' : Usable other)
    (parts : Parts.ofValue? token = some p) (outcome : SameOutcome token session other)
    (unnamed : ¬ NamesEither token session other) (allowed : Nat) (now : Int) :
    p.rejection? session allowed now = p.rejection? other allowed now := by
  have same := unseal_of_sameOutcome usable usable' parts outcome
  unfold Parts.rejection?
  rw [← same]
  cases unsealed : p.unseal session with
  | error fault => rfl
  | ok plaintext =>
    obtain ⟨fits, opens⟩ := opens_of_unseal usable unsealed
    obtain ⟨written, split⟩ := ofValue?_eq_some_iff.mp parts
    simp only
    cases parsed : Payload.parse plaintext with
    | error fault => cases fault <;> rfl
    | ok payload =>
      -- The session is compared before the time, and is neither of the two.
      have reads := Payload.parse_eq_ok_iff.mp parsed
      have presented : Presented token session p := ⟨usable, written, split⟩
      have apart : payload.session ≠ session := fun named =>
        unnamed ⟨p, plaintext, payload, presented, fits, opens, reads, .inl named⟩
      have apart' : payload.session ≠ other := fun named =>
        unnamed ⟨p, plaintext, payload, presented, fits, opens, reads, .inr named⟩
      simp only [apart, apart', ne_eq, not_false_eq_true, ↓reduceIte]

theorem checkToken_of_indistinct (indistinct : Indistinct token session other) (allowed : Nat)
    (clock : Reading) :
    checkToken token (some session) allowed clock =
      checkToken token (some other) allowed clock := by
  cases indistinct with
  | unencodable unencodable unencodable' =>
    rw [checkToken_of_problem (sessionProblem?_of_unencodable unencodable),
      checkToken_of_problem (sessionProblem?_of_unencodable unencodable')]
  | short short short' =>
    rw [checkToken_of_problem (sessionProblem?_of_short short),
      checkToken_of_problem (sessionProblem?_of_short short')]
  | usable usable usable' outcome unnamed =>
    have unproblematic := sessionProblem?_eq_none_iff_usable.mpr usable
    have unproblematic' := sessionProblem?_eq_none_iff_usable.mpr usable'
    cases parts : Parts.ofValue? token with
    | none => simp only [checkToken, parts]
    | some p =>
      have same := rejection?_of_indistinct usable usable' parts outcome unnamed allowed
      simp only [checkToken, parts, unproblematic, unproblematic', same]

theorem indistinct_of_sharedKey (usable : Usable session) (usable' : Usable other)
    (shared : sessionKey session = sessionKey other)
    (unnamed : ¬ NamesEither token session other) : Indistinct token session other := by
  refine .usable usable usable' ?_ unnamed
  intro p ciphertext _ _ _
  rw [shared]

theorem unnamed_of_tokenFor {t third : Text} {time : Int} (tokenFor : TokenFor t third time)
    (shared : sessionKey third = sessionKey session) (shared' : sessionKey third = sessionKey other)
    (usable' : Usable other) (different : third ≠ session) (different' : third ≠ other) :
    ¬ NamesEither (.text t) session other := by
  rintro ⟨p, plaintext, ⟨_, time'⟩, presented, fits, opens, reads, rfl | rfl⟩
  · have tokenFor' := tokenFor_iff.mpr ⟨p, plaintext, presented, fits, opens, reads⟩
    exact different (tokenFor.session_unique tokenFor' shared)
  · have opens' := opens.of_sharedKey (shared.symm.trans shared')
    have tokenFor' := tokenFor_iff.mpr
      ⟨p, plaintext, presented.to_session usable', fits, opens', reads⟩
    exact different' (tokenFor.session_unique tokenFor' shared')

end SealedToken
