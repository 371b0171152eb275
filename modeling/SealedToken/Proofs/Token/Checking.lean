import SealedToken.Proofs.Token.Payload
import SealedToken.Proofs.Token.Unsealing

namespace SealedToken

/-- Whether a call is not worth a look at the clock: its token has no parts, or its session gives no
key. -/
def Misused (token : Value) (session : Text) : Prop :=
  (∀ t, token = .text t → separator ∉ t) ∨ Utf8.encodable session = false ∨
    (Utf8.bytes session).length < keySize

structure Presented (token : Value) (session : Text) (p : Parts) : Prop where
  usable : Usable session
  written : token = .text p.encode
  split : separator ∉ p.tokenId

/-- Whether a token opens to a payload whose time has more digits than are read. -/
def SealsOverlong (token : Value) (session : Text) (digits : Nat) : Prop :=
  ∃ p plaintext, Presented token session p ∧ FitsNonce p.tokenId ∧ p.Opens session plaintext ∧
    Payload.Overlong plaintext digits

variable {token : Value} {session plaintext : Text} {p : Parts} {payload : Payload}
variable {allowed : Nat} {clock : Reading} {now : Int}

theorem ofValue?_eq_none_iff :
    Parts.ofValue? token = none ↔ ∀ t, token = .text t → separator ∉ t := by
  cases token with
  | text t => simp [Parts.ofValue?, Parts.parse?_eq_none_iff]
  | _ => simp [Parts.ofValue?]

theorem ofValue?_eq_some_iff :
    Parts.ofValue? token = some p ↔ token = .text p.encode ∧ separator ∉ p.tokenId := by
  cases token with
  | text t => simp [Parts.ofValue?, Parts.parse?_eq_some_iff]
  | _ => simp [Parts.ofValue?]

theorem not_usable_iff :
    ¬ Usable session ↔ Utf8.encodable session = false ∨ (Utf8.bytes session).length < keySize := by
  rw [Usable, not_and_or, Bool.not_eq_true, Nat.not_le]

theorem misused_iff :
    Misused token session ↔ Parts.ofValue? token = none ∨ sessionProblem? session ≠ none := by
  rw [Misused, ofValue?_eq_none_iff, Ne, sessionProblem?_eq_none_iff_usable, not_usable_iff]

theorem misused_or_presented (token : Value) (session : Text) :
    Misused token session ∨ ∃ p, Presented token session p := by
  cases parts : Parts.ofValue? token with
  | none => exact .inl (misused_iff.mpr (.inl parts))
  | some p =>
    by_cases usable : Usable session
    · rw [ofValue?_eq_some_iff] at parts
      exact .inr ⟨p, usable, parts.1, parts.2⟩
    · exact .inl (.inr (not_usable_iff.mp usable))

/-- All that there is to find about a token and a session, in the order of the search. The clock and
the allowed age come in only where a payload was read. -/
inductive Finding (token : Value) (session : Text) : Prop
  | misused (misused : Misused token session)
  | misfit {p : Parts} (presented : Presented token session p) (misfit : ¬ FitsNonce p.tokenId)
  | shut {p : Parts} (presented : Presented token session p) (fits : FitsNonce p.tokenId)
    (shut : p.Shut session)
  | malformed {p : Parts} {plaintext : Text} (presented : Presented token session p)
    (fits : FitsNonce p.tokenId) (opens : p.Opens session plaintext)
    (malformed : Payload.Malformed plaintext)
  | overlong {digits : Nat} (overlong : SealsOverlong token session digits)
  | payload {p : Parts} {plaintext : Text} {payload : Payload}
    (presented : Presented token session p) (fits : FitsNonce p.tokenId)
    (opens : p.Opens session plaintext) (reads : Payload.Reads plaintext payload)

theorem finding (token : Value) (session : Text) : Finding token session := by
  rcases misused_or_presented token session with misused | ⟨p, presented⟩
  · exact .misused misused
  by_cases fits : FitsNonce p.tokenId
  · rcases Parts.shut_or_opens presented.usable fits with shut | ⟨plaintext, opens⟩
    · exact .shut presented fits shut
    rcases Payload.malformed_or_overlong_or_reads plaintext with malformed | ⟨_, overlong⟩ | reads
    · exact .malformed presented fits opens malformed
    · exact .overlong ⟨p, plaintext, presented, fits, opens, overlong⟩
    · obtain ⟨payload, reads⟩ := reads
      exact .payload presented fits opens reads
  · exact .misfit presented fits

theorem checkToken_of_misused (misused : Misused token session) (allowed : Nat) (clock : Reading) :
    ∃ text, checkToken token (some session) allowed clock =
      { result := .ok false, notice := some (.misuse text) } := by
  rw [misused_iff] at misused
  cases parts : Parts.ofValue? token with
  | none =>
    simp only [checkToken, parts]
    exact ⟨_, rfl⟩
  | some p =>
    cases problem : sessionProblem? session with
    | none => simp [parts, problem] at misused
    | some problem' =>
      simp only [checkToken, parts, problem]
      exact ⟨_, rfl⟩

theorem Presented.ofValue? (presented : Presented token session p) :
    Parts.ofValue? token = some p :=
  ofValue?_eq_some_iff.mpr ⟨presented.written, presented.split⟩

theorem Presented.sessionProblem? (presented : Presented token session p) :
    sessionProblem? session = none :=
  sessionProblem?_eq_none_iff_usable.mpr presented.usable

theorem checkToken_of_truncate {clock clock' : Reading} (same : clock.truncate = clock'.truncate)
    (token : Value) (session : Option Text) (allowed : Nat) :
    checkToken token session allowed clock = checkToken token session allowed clock' := by
  simp only [checkToken, same]

theorem checkToken_of_unreadable {fault : ClockFault} (presented : Presented token session p)
    (unreadable : clock.truncate = .error fault) (allowed : Nat) :
    checkToken token (some session) allowed clock =
      { result := .error (.clock fault), reads := 1 } := by
  simp only [checkToken, presented.ofValue?, presented.sessionProblem?, unreadable]

theorem checkToken_of_refused {fault : Decimal.TooLong} (presented : Presented token session p)
    (finite : clock.truncate = .ok now)
    (refused : p.rejection? session allowed now = .error fault) :
    checkToken token (some session) allowed clock =
      { result := .error (.integer fault), reads := 1 } := by
  simp only [checkToken, presented.ofValue?, presented.sessionProblem?, finite, refused]

theorem checkToken_of_rejected {r : Rejection} (presented : Presented token session p)
    (finite : clock.truncate = .ok now)
    (rejected : p.rejection? session allowed now = .ok (some r)) :
    checkToken token (some session) allowed clock = rejectCall 1 r := by
  simp only [checkToken, presented.ofValue?, presented.sessionProblem?, finite, rejected]

theorem checkToken_of_accepted (presented : Presented token session p)
    (finite : clock.truncate = .ok now) (accepted : p.rejection? session allowed now = .ok none) :
    checkToken token (some session) allowed clock =
      { result := .ok true, reads := 1,
        debug := ["CSRF token " ++ p.tokenId ++ " validated"] } := by
  simp only [checkToken, presented.ofValue?, presented.sessionProblem?, finite, accepted]

theorem checkToken_of_unseal_error {fault : CryptoFault} (presented : Presented token session p)
    (unsealed : p.unseal session = .error fault) (finite : clock.truncate = .ok now) :
    checkToken token (some session) allowed clock =
      rejectCall 1 (.sealed p.tokenId fault) := by
  apply checkToken_of_rejected presented finite
  rw [Parts.rejection?, unsealed]

theorem checkToken_of_not_fits (presented : Presented token session p)
    (misfit : ¬ FitsNonce p.tokenId) (finite : clock.truncate = .ok now) (allowed : Nat) :
    ∃ text fault, checkToken token (some session) allowed clock =
      { result := .ok false, notice := some (.internal text (.crypto (.derivation fault))),
        reads := 1 } := by
  obtain ⟨fault, unsealed⟩ := Parts.unseal_of_not_fits presented.usable misfit
  exact ⟨_, fault, checkToken_of_unseal_error presented unsealed finite⟩

theorem checkToken_of_shut (presented : Presented token session p) (fits : FitsNonce p.tokenId)
    (shut : p.Shut session) (finite : clock.truncate = .ok now) (allowed : Nat) :
    ∃ text fault, checkToken token (some session) allowed clock =
      { result := .ok false, notice := some (.internal text (.crypto (.unsealing fault))),
        reads := 1 } := by
  obtain ⟨fault, unsealed, _⟩ := Parts.unseal_of_shut presented.usable fits shut
  exact ⟨_, fault, checkToken_of_unseal_error presented unsealed finite⟩

theorem checkToken_of_malformed (presented : Presented token session p)
    (fits : FitsNonce p.tokenId) (opens : p.Opens session plaintext)
    (malformed : Payload.Malformed plaintext) (finite : clock.truncate = .ok now)
    (allowed : Nat) :
    ∃ text, checkToken token (some session) allowed clock =
      { result := .ok false, notice := some (.validation text), reads := 1 } := by
  have unsealed := Parts.unseal_of_opens presented.usable fits opens
  have rejected : ∃ fault, p.rejection? session allowed now =
      .ok (some (.payload p.tokenId fault)) := by
    rw [Parts.rejection?, unsealed]
    rcases Payload.parse_of_malformed malformed with parsed | parsed
    · simp only [parsed]
      exact ⟨_, rfl⟩
    · simp only [parsed]
      exact ⟨_, rfl⟩
  obtain ⟨fault, rejected⟩ := rejected
  exact ⟨_, checkToken_of_rejected presented finite rejected⟩

theorem checkToken_of_overlong {digits : Nat} (overlong : SealsOverlong token session digits)
    (finite : clock.truncate = .ok now) (allowed : Nat) :
    checkToken token (some session) allowed clock =
      { result := .error (.integer (.reading digits)), reads := 1 } := by
  obtain ⟨p, plaintext, presented, fits, opens, overlong⟩ := overlong
  have unsealed := Parts.unseal_of_opens presented.usable fits opens
  apply checkToken_of_refused presented finite
  simp only [Parts.rejection?, unsealed, Payload.parse_of_overlong overlong]

theorem rejection?_of_reads (usable : Usable session) (fits : FitsNonce p.tokenId)
    (opens : p.Opens session plaintext) (reads : Payload.Reads plaintext payload)
    (allowed : Nat) (now : Int) :
    p.rejection? session allowed now =
      if payload.session ≠ session then .ok (some (.otherSession p.tokenId))
      else if payload.issuedAt + allowed < now then
        .ok (some (.expired p.tokenId payload.issuedAt now))
      else .ok none := by
  have parsed := Payload.parse_eq_ok_iff.mpr reads
  simp only [Parts.rejection?, Parts.unseal_of_opens usable fits opens, parsed, Payload.isExpired,
    decide_eq_true_eq]

theorem checkToken_eq_of_other (presented : Presented token session p)
    (fits : FitsNonce p.tokenId) (opens : p.Opens session plaintext)
    (reads : Payload.Reads plaintext payload) (other : payload.session ≠ session)
    (finite : clock.truncate = .ok now) (allowed : Nat) :
    checkToken token (some session) allowed clock = rejectCall 1 (.otherSession p.tokenId) := by
  have found := rejection?_of_reads presented.usable fits opens reads allowed now
  rw [if_pos other] at found
  exact checkToken_of_rejected presented finite found

theorem checkToken_of_other (presented : Presented token session p)
    (fits : FitsNonce p.tokenId) (opens : p.Opens session plaintext)
    (reads : Payload.Reads plaintext payload) (other : payload.session ≠ session)
    (finite : clock.truncate = .ok now) (allowed : Nat) :
    ∃ text, checkToken token (some session) allowed clock =
      { result := .ok false, notice := some (.validation text), reads := 1 } :=
  ⟨_, checkToken_eq_of_other presented fits opens reads other finite allowed⟩

/-- The notice of an expired token tells both times; they can be written, the one because it was
read and the other by assumption. -/
theorem checkToken_of_expired (presented : Presented token session p)
    (fits : FitsNonce p.tokenId) (opens : p.Opens session plaintext)
    (reads : Payload.Reads plaintext payload) (same : payload.session = session)
    (expired : payload.issuedAt + allowed < now) (finite : clock.truncate = .ok now)
    (bounded : now.natAbs < 10 ^ Decimal.maxDigits) :
    ∃ text, checkToken token (some session) allowed clock =
      { result := .ok false, notice := some (.validation text), reads := 1 } := by
  have found := rejection?_of_reads presented.usable fits opens reads allowed now
  rw [if_neg (not_not_intro same), if_pos expired] at found
  obtain ⟨stamp, _, stampReads⟩ := reads
  rw [checkToken_of_rejected presented finite found]
  simp only [rejectCall, Rejection.notice, Decimal.write_eq_ok stampReads.natAbs_lt,
    Decimal.write_eq_ok bounded]
  exact ⟨_, rfl⟩

theorem checkToken_of_valid (presented : Presented token session p)
    (fits : FitsNonce p.tokenId) (opens : p.Opens session plaintext)
    (reads : Payload.Reads plaintext payload) (same : payload.session = session)
    (fresh : now ≤ payload.issuedAt + allowed) (finite : clock.truncate = .ok now) :
    checkToken token (some session) allowed clock =
      { result := .ok true, reads := 1,
        debug := ["CSRF token " ++ p.tokenId ++ " validated"] } := by
  have found := rejection?_of_reads presented.usable fits opens reads allowed now
  rw [if_neg (not_not_intro same), if_neg (Int.not_lt.mpr fresh)] at found
  exact checkToken_of_accepted presented finite found

end SealedToken
