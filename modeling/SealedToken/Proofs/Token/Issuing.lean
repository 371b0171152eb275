import SealedToken.Proofs.Token.Forging
import SealedToken.Proofs.Token.TokenFor
import SealedToken.Token.Issue

namespace SealedToken

def issuedToken (session : Text) (drawn : Bytes) (now : Int) : Text :=
  (forge session (Hex.encode drawn) (session ++ separator :: Decimal.ofInt now)).encode

variable {session tokenId : Text} {drawn : Bytes} {clock : Reading} {now : Int}

theorem fitsNonce_encode_iff : FitsNonce (Hex.encode drawn) ↔ drawn.length = tokenIdSize := by
  have sizes : nonceSize = 2 * tokenIdSize := rfl
  rw [FitsNonce, Hex.length_bytes_encode, sizes]
  constructor
  · rintro ⟨_, size⟩
    omega
  · intro size
    exact ⟨Hex.encodable_encode drawn, by omega⟩

theorem separator_not_mem_encode (drawn : Bytes) : separator ∉ Hex.encode drawn := by
  intro member
  have digit : 0x30 ≤ (0x7C : Nat) ∧ 0x7C ≤ 0x39 ∨ 0x61 ≤ 0x7C ∧ 0x7C ≤ 0x66 :=
    Hex.encode_cases member
  omega

theorem encodable_rendered (usable : Usable session) (now : Int) :
    Utf8.encodable (session ++ separator :: Decimal.ofInt now) = true :=
  Payload.encodable_of_spells (Decimal.spells_ofInt now) usable.1

theorem sealToken_eq_ok (usable : Usable session) (fits : FitsNonce tokenId)
    (bounded : now.natAbs < 10 ^ Decimal.maxDigits) :
    sealToken session tokenId now =
      .ok (.ok (forge session tokenId (session ++ separator :: Decimal.ofInt now)).encode) := by
  obtain ⟨ciphertext, sealed, forged⟩ := sealText_forge usable fits (encodable_rendered usable now)
  have rendered := Payload.render_eq_ok bounded session
  simp only [sealToken, deriveKey_of_usable usable, deriveNonce_of_fits fits, rendered, forged,
    Bind.bind, Except.bind, sealed]
  rfl

theorem sealToken_of_misfit {fault : DerivationFault} (usable : Usable session)
    (misfit : deriveNonce tokenId = .error fault) (now : Int) :
    sealToken session tokenId now = .ok (.error (.derivation fault)) := by
  simp only [sealToken, deriveKey_of_usable usable, misfit]

theorem sealToken_of_large (usable : Usable session) (fits : FitsNonce tokenId)
    (large : ¬ now.natAbs < 10 ^ Decimal.maxDigits) :
    sealToken session tokenId now = .error .writing := by
  simp only [sealToken, deriveKey_of_usable usable, deriveNonce_of_fits fits, Payload.render,
    Decimal.write_eq_error large]
  rfl

def callWith (session : Text) (clock : Reading) (drawn : Bytes) : Call (Option Text) :=
  let tokenId := Hex.encode drawn
  let call : Call (Option Text) := { result := .ok none, draws := [tokenIdSize], reads := 1 }
  match clock.truncate with
  | .error f => { call with result := .error (.clock f) }
  | .ok now =>
    match sealToken session tokenId now with
    | .error f => { call with result := .error (.integer f) }
    | .ok (.error f) =>
      { call with
          notice := some (.internal
            ("CSRF token generation failed for token id " ++ tokenId) (.crypto f)) }
    | .ok (.ok token) =>
      { call with result := .ok (some token), debug := ["Generated CSRF token " ++ tokenId] }

variable {source : RandomSource}

theorem issueToken_of_problem {problem : SessionProblem} (nonempty : session ≠ [])
    (unusable : sessionProblem? session = some problem) (clock : Reading) (source : RandomSource) :
    issueToken (some session) clock source =
      ({ result := .ok none, notice := some (unsuitable "generated" problem) }, source) := by
  cases session with
  | nil => contradiction
  | cons c session => simp only [issueToken, unusable]

theorem issueToken_of_usable (usable : Usable session) (clock : Reading) (source : RandomSource) :
    issueToken (some session) clock source =
      (callWith session clock (source.draw tokenIdSize).1, (source.draw tokenIdSize).2) := by
  have unproblematic := sessionProblem?_eq_none_iff_usable.mpr usable
  cases session with
  | nil => exact absurd usable (by decide)
  | cons c session =>
    simp only [issueToken, callWith, unproblematic]
    cases clock.truncate with
    | error fault => rfl
    | ok now =>
      simp only
      generalize sealToken (c :: session) (Hex.encode (source.draw tokenIdSize).1) now = made
      cases made with
      | error fault => rfl
      | ok sealed => cases sealed <;> rfl

/-- What a request for a token comes to. The source is drawn from for usable sessions only, and
always for them. -/
inductive Request (session : Option Text) (clock : Reading) (source : RandomSource) : Prop
  | empty (made : issueToken session clock source = ({ result := .error .emptySession }, source))
  | unsuitable {problem : SessionProblem} (made : issueToken session clock source =
      ({ result := .ok none, notice := some (unsuitable "generated" problem) }, source))
  | drawn {identifier : Text} (given : session = some identifier) (usable : Usable identifier)
    (made : issueToken session clock source =
      (callWith identifier clock (source.draw tokenIdSize).1, (source.draw tokenIdSize).2))

theorem request (session : Option Text) (clock : Reading) (source : RandomSource) :
    Request session clock source := by
  cases session with
  | none => exact .empty rfl
  | some session =>
    by_cases empty : session = []
    · rw [empty]
      exact .empty rfl
    by_cases usable : Usable session
    · exact .drawn rfl usable (issueToken_of_usable usable clock source)
    · rw [← sessionProblem?_eq_none_iff_usable] at usable
      obtain ⟨problem, unusable⟩ := Option.ne_none_iff_exists'.mp usable
      exact .unsuitable (issueToken_of_problem empty unusable clock source)

def TurnedAway (call : Call (Option Text)) : Prop :=
  call.result = .error .emptySession ∨ ∃ text, call.notice = some (.misuse text)

theorem not_turnedAway_callWith (session : Text) (clock : Reading) (drawn : Bytes) :
    ¬ TurnedAway (callWith session clock drawn) := by
  unfold TurnedAway callWith
  cases clock.truncate with
  | error fault => simp
  | ok now =>
    simp only
    generalize sealToken session (Hex.encode drawn) now = made
    cases made with
    | error fault => simp
    | ok sealed => cases sealed <;> simp

theorem issueToken_source {session : Option Text}
    (turned : TurnedAway (issueToken session clock source).1) :
    (issueToken session clock source).2 = source := by
  cases request session clock source with
  | empty made => rw [made]
  | unsuitable made => rw [made]
  | drawn given usable made =>
    rw [made] at turned
    exact absurd turned (not_turnedAway_callWith _ _ _)

theorem callWith_of_unreadable {fault : ClockFault} (unreadable : clock.truncate = .error fault)
    (session : Text) (drawn : Bytes) :
    callWith session clock drawn =
      { result := .error (.clock fault), draws := [tokenIdSize], reads := 1 } := by
  simp only [callWith, unreadable]

theorem callWith_of_misfit (usable : Usable session) (misfit : ¬ FitsNonce (Hex.encode drawn))
    (finite : clock.truncate = .ok now) :
    ∃ fault, deriveNonce (Hex.encode drawn) = .error fault ∧ callWith session clock drawn =
      { result := .ok none,
        notice := some (.internal
          ("CSRF token generation failed for token id " ++ Hex.encode drawn)
          (.crypto (.derivation fault))),
        draws := [tokenIdSize], reads := 1 } := by
  obtain ⟨fault, refused⟩ := deriveNonce_of_not_fits misfit
  refine ⟨fault, refused, ?_⟩
  simp only [callWith, finite, sealToken_of_misfit usable refused]

theorem callWith_of_large (usable : Usable session) (fits : FitsNonce (Hex.encode drawn))
    (finite : clock.truncate = .ok now) (large : ¬ now.natAbs < 10 ^ Decimal.maxDigits) :
    callWith session clock drawn =
      { result := .error (.integer .writing), draws := [tokenIdSize], reads := 1 } := by
  simp only [callWith, finite, sealToken_of_large usable fits large]

theorem callWith_of_fits (usable : Usable session) (fits : FitsNonce (Hex.encode drawn))
    (finite : clock.truncate = .ok now) (bounded : now.natAbs < 10 ^ Decimal.maxDigits) :
    callWith session clock drawn =
      { result := .ok (some (issuedToken session drawn now)), draws := [tokenIdSize], reads := 1,
        debug := ["Generated CSRF token " ++ Hex.encode drawn] } := by
  simp only [callWith, finite, sealToken_eq_ok usable fits bounded]
  rfl

theorem issueToken_result (usable : Usable session)
    (size : (source.draw tokenIdSize).1.length = tokenIdSize) (finite : clock.truncate = .ok now)
    (bounded : now.natAbs < 10 ^ Decimal.maxDigits) :
    (issueToken (some session) clock source).1.result =
      .ok (some (issuedToken session (source.draw tokenIdSize).1 now)) := by
  rw [issueToken_of_usable usable,
    callWith_of_fits usable (fitsNonce_encode_iff.mpr size) finite bounded]

structure Issued (session : Text) (clock : Reading) (drawn : Bytes) (now : Int) (token : Text) :
    Prop where
  usable : Usable session
  size : drawn.length = tokenIdSize
  finite : clock.truncate = .ok now
  bounded : now.natAbs < 10 ^ Decimal.maxDigits
  eq : token = issuedToken session drawn now

theorem issued_of_callWith {token : Text} (usable : Usable session)
    (result : (callWith session clock drawn).result = .ok (some token)) :
    ∃ now, Issued session clock drawn now token := by
  cases readable : clock.truncate with
  | error fault =>
    rw [callWith_of_unreadable readable] at result
    cases result
  | ok now =>
    by_cases fits : FitsNonce (Hex.encode drawn)
    · by_cases bounded : now.natAbs < 10 ^ Decimal.maxDigits
      · rw [callWith_of_fits usable fits readable bounded] at result
        cases result
        exact ⟨now, usable, fitsNonce_encode_iff.mp fits, readable, bounded, rfl⟩
      · rw [callWith_of_large usable fits readable bounded] at result
        cases result
    · obtain ⟨fault, _, call⟩ := callWith_of_misfit usable fits readable
      rw [call] at result
      cases result

theorem issued_of_result {token : Text}
    (result : (issueToken (some session) clock source).1.result = .ok (some token)) :
    ∃ now, Issued session clock (source.draw tokenIdSize).1 now token := by
  cases request (some session) clock source with
  | empty made =>
    rw [made] at result
    cases result
  | unsuitable made =>
    rw [made] at result
    cases result
  | drawn given usable made =>
    cases given
    rw [made] at result
    exact issued_of_callWith usable result

theorem tokenFor_issuedToken (usable : Usable session) (size : drawn.length = tokenIdSize)
    (bounded : now.natAbs < 10 ^ Decimal.maxDigits) :
    TokenFor (issuedToken session drawn now) session now := by
  have fits := fitsNonce_encode_iff.mpr size
  have opens := opens_forge usable fits (encodable_rendered usable now)
  have presented := presented_forge usable (separator_not_mem_encode drawn)
    (session ++ separator :: Decimal.ofInt now)
  exact tokenFor_iff.mpr ⟨_, _, presented, fits, opens, Payload.reads_rendered bounded session⟩

end SealedToken
