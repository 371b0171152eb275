import SealedToken.Proofs.Token.Checking

namespace SealedToken

inductive Ending
  | misuse
  | internal (cause : Text)
  | validation
  | valid

namespace Ending

def Condition (token : Value) (session : Text) (allowed : Nat) (now : Int) : Ending → Prop
  | misuse => Misused token session
  | internal cause => ∃ p, Presented token session p ∧
      (¬ FitsNonce p.tokenId ∧ cause = "KeyDerivationError" ∨
        FitsNonce p.tokenId ∧ p.Shut session ∧ cause = "DecryptionError")
  | validation => ∃ p plaintext, Presented token session p ∧ FitsNonce p.tokenId ∧
      p.Opens session plaintext ∧
      (Payload.Malformed plaintext ∨ ∃ payload, Payload.Reads plaintext payload ∧
        (payload.session ≠ session ∨
          payload.session = session ∧ payload.issuedAt + allowed < now))
  | valid => ∃ p plaintext payload, Presented token session p ∧ FitsNonce p.tokenId ∧
      p.Opens session plaintext ∧ Payload.Reads plaintext payload ∧
      payload.session = session ∧ now ≤ payload.issuedAt + allowed

def Outcome : Ending → Call Bool → Prop
  | misuse, call => ∃ text, call = { result := .ok false, notice := some (.misuse text) }
  | internal cause, call => ∃ text fault, fault.name = cause ∧
      call = { result := .ok false, notice := some (.internal text (.crypto fault)), reads := 1 }
  | validation, call =>
    ∃ text, call = { result := .ok false, notice := some (.validation text), reads := 1 }
  | valid, call => ∃ debug, call = { result := .ok true, reads := 1, debug }

def shownIn : Option Notice → Ending
  | some (.misuse _) => misuse
  | some (.internal _ cause) => internal cause.name
  | some (.validation _) => validation
  | none => valid

variable {ending ending' : Ending} {call : Call Bool}
variable {token : Value} {session : Text} {allowed : Nat} {clock : Reading} {now : Int}

theorem Outcome.shownIn_notice (outcome : ending.Outcome call) : shownIn call.notice = ending := by
  cases ending with
  | misuse =>
    obtain ⟨text, rfl⟩ := outcome
    rfl
  | internal cause =>
    obtain ⟨text, fault, rfl, rfl⟩ := outcome
    rfl
  | validation =>
    obtain ⟨text, rfl⟩ := outcome
    rfl
  | valid =>
    obtain ⟨debug, rfl⟩ := outcome
    rfl

theorem Outcome.unique (outcome : ending.Outcome call) (outcome' : ending'.Outcome call) :
    ending = ending' := by
  rw [← outcome.shownIn_notice, outcome'.shownIn_notice]

theorem Outcome.answer (outcome : ending.Outcome call) :
    call.result = .ok true ∨ call.result = .ok false ∧ ∃ notice, call.notice = some notice := by
  cases ending with
  | misuse =>
    obtain ⟨text, rfl⟩ := outcome
    exact .inr ⟨rfl, _, rfl⟩
  | internal cause =>
    obtain ⟨text, fault, rfl, rfl⟩ := outcome
    exact .inr ⟨rfl, _, rfl⟩
  | validation =>
    obtain ⟨text, rfl⟩ := outcome
    exact .inr ⟨rfl, _, rfl⟩
  | valid =>
    obtain ⟨debug, rfl⟩ := outcome
    exact .inl rfl

theorem Condition.outcome (condition : ending.Condition token session allowed now)
    (finite : clock.truncate = .ok now) (bounded : now.natAbs < 10 ^ Decimal.maxDigits) :
    ending.Outcome (checkToken token (some session) allowed clock) := by
  cases ending with
  | misuse => exact checkToken_of_misused condition allowed clock
  | internal cause =>
    obtain ⟨p, presented, ⟨misfit, rfl⟩ | ⟨fits, shut, rfl⟩⟩ := condition
    · obtain ⟨text, fault, call⟩ := checkToken_of_not_fits presented misfit finite allowed
      exact ⟨text, _, rfl, call⟩
    · obtain ⟨text, fault, call⟩ := checkToken_of_shut presented fits shut finite allowed
      exact ⟨text, _, rfl, call⟩
  | validation =>
    obtain ⟨p, plaintext, presented, fits, opens, found⟩ := condition
    rcases found with malformed | ⟨payload, reads, other | ⟨same, expired⟩⟩
    · exact checkToken_of_malformed presented fits opens malformed finite allowed
    · exact checkToken_of_other presented fits opens reads other finite allowed
    · exact checkToken_of_expired presented fits opens reads same expired finite bounded
  | valid =>
    obtain ⟨p, plaintext, payload, presented, fits, opens, reads, same, fresh⟩ := condition
    exact ⟨_, checkToken_of_valid presented fits opens reads same fresh finite⟩

/-- Every token leads to an ending, if not to a time that is too long to be read. -/
theorem exists_condition (readable : ¬ ∃ digits, SealsOverlong token session digits)
    (allowed : Nat) (now : Int) :
    ∃ ending : Ending, ending.Condition token session allowed now := by
  cases finding token session with
  | misused misused => exact ⟨misuse, misused⟩
  | misfit presented misfit => exact ⟨internal _, _, presented, .inl ⟨misfit, rfl⟩⟩
  | shut presented fits shut => exact ⟨internal _, _, presented, .inr ⟨fits, shut, rfl⟩⟩
  | malformed presented fits opens malformed =>
    exact ⟨validation, _, _, presented, fits, opens, .inl malformed⟩
  | overlong overlong => exact absurd ⟨_, overlong⟩ readable
  | @payload p plaintext payload presented fits opens reads =>
    by_cases same : payload.session = session
    · by_cases expired : payload.issuedAt + allowed < now
      · exact ⟨validation, p, plaintext, presented, fits, opens,
          .inr ⟨payload, reads, .inr ⟨same, expired⟩⟩⟩
      · exact ⟨valid, p, plaintext, payload, presented, fits, opens, reads, same,
          Int.not_lt.mp expired⟩
    · exact ⟨validation, p, plaintext, presented, fits, opens,
        .inr ⟨payload, reads, .inl same⟩⟩

end Ending

end SealedToken
