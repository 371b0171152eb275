import SealedToken.Proofs.Deployment.Reply
import SealedToken.Proofs.Token.Ending
import SealedToken.Proofs.Token.Forging

namespace SealedToken.Deployment

variable {d : Deployment} {now : Int} {token : Value} {session : Text}

/-- A check is one call, whose ending is decided by the conditions and shows in what is done. -/
theorem check_has_one_ending (finite : d.clock.truncate = .ok now)
    (bounded : now.natAbs < 10 ^ Decimal.maxDigits)
    (readable : ¬ ∃ digits, SealsOverlong token session digits) (m : Manager) :
    ∃ call ending, d.Checks m token session call ∧ ∀ ending' : Ending,
      (ending'.Condition token session m.allowedExpiry now ↔ ending' = ending) ∧
        (ending'.Outcome call ↔ ending' = ending) := by
  obtain ⟨ending, condition⟩ := Ending.exists_condition readable m.allowedExpiry now
  have outcome := condition.outcome finite bounded
  refine ⟨_, ending, checks_of_call rfl, ?_⟩
  intro ending'
  constructor
  · constructor
    · intro condition'
      exact (condition'.outcome finite bounded).unique outcome
    · rintro rfl
      exact condition
  · constructor
    · intro outcome'
      exact outcome'.unique outcome
    · rintro rfl
      exact outcome

theorem check_short_identifier_ends :
    ∃ call, (showing (.whole 0)).Checks .standard (.text "short|zz") letters call ∧
      (Ending.internal "KeyDerivationError").Outcome call := by
  have presented : Presented (.text "short|zz") letters ⟨"short", "zz"⟩ :=
    ⟨by decide +kernel, rfl, by decide +kernel⟩
  have misfit : ¬ FitsNonce "short" := by decide +kernel
  have readable : ¬ ∃ digits, SealsOverlong (.text "short|zz") letters digits := by
    rintro ⟨_, p, _, presented', fits, _⟩
    cases presented.unique presented'
    exact misfit fits
  obtain ⟨call, ending, checks, one⟩ :=
    check_has_one_ending (d := showing (.whole 0)) rfl (by decide +kernel) readable .standard
  have reached := (one (.internal "KeyDerivationError")).1.mp ⟨_, presented, .inl ⟨misfit, rfl⟩⟩
  exact ⟨call, checks, (one _).2.mpr reached⟩

theorem check_result_of_overlong {digits : Nat} (overlong : SealsOverlong token session digits)
    (finite : d.clock.truncate = .ok now) (m : Manager) :
    (d.check m token (some session)).1.result = .error (.fault (.integer (.reading digits))) := by
  rw [check_reply, checkToken_of_overlong overlong finite]
  rfl

theorem answer_of_readable (finite : d.clock.truncate = .ok now)
    (bounded : now.natAbs < 10 ^ Decimal.maxDigits)
    (readable : ¬ ∃ digits, SealsOverlong token session digits) (m : Manager) :
    ∃ call, d.Checks m token session call ∧
      (call.result = .ok true ∨ call.result = .ok false ∧ ∃ notice, call.notice = some notice) := by
  obtain ⟨ending, condition⟩ := Ending.exists_condition readable m.allowedExpiry now
  exact ⟨_, checks_of_call rfl, (condition.outcome finite bounded).answer⟩

/-- A token is answered exactly if it holds no time that is too long to be read. It is not rejected
without a notice, and what is not answered fails at the reading of the time. -/
theorem check_answers_iff (finite : d.clock.truncate = .ok now)
    (bounded : now.natAbs < 10 ^ Decimal.maxDigits) (m : Manager) (token : Value) (session : Text) :
    ((∃ valid, (d.check m token (some session)).1.result = .ok (.truth valid)) ↔
      ¬ ∃ digits, SealsOverlong token session digits) ∧
    ((d.check m token (some session)).1.result = .ok (.truth false) →
      ∃ call notice, d.Checks m token session call ∧ call.result = .ok false ∧
        call.notice = some notice) ∧
    (∀ digits, SealsOverlong token session digits → (d.check m token (some session)).1.result =
      .error (.fault (.integer (.reading digits)))) := by
  have readable_of_answer : ∀ valid,
      (d.check m token (some session)).1.result = .ok (.truth valid) →
      ¬ ∃ digits, SealsOverlong token session digits := by
    rintro valid answered ⟨digits, overlong⟩
    rw [check_result_of_overlong overlong finite] at answered
    cases answered
  refine ⟨⟨?_, ?_⟩, ?_, ?_⟩
  · rintro ⟨valid, answered⟩
    exact readable_of_answer valid answered
  · intro readable
    simp only [check_result_eq_truth_iff]
    obtain ⟨call, checks, found⟩ := answer_of_readable finite bounded readable m
    rw [checks.made]
    rcases found with accepted | ⟨rejected, _⟩
    · exact ⟨true, accepted⟩
    · exact ⟨false, rejected⟩
  · intro rejected
    have readable := readable_of_answer false rejected
    obtain ⟨call, checks, found⟩ := answer_of_readable finite bounded readable m
    rw [check_result_eq_truth_iff, checks.made] at rejected
    rcases found with accepted | ⟨_, notice, notified⟩
    · rw [accepted] at rejected
      cases rejected
    · exact ⟨call, notice, checks, rejected, notified⟩
  · intro digits overlong
    exact check_result_of_overlong overlong finite m

def zerosToken (digits : Nat) : Text :=
  (forge letters "0001020304050607"
    (letters ++ separator :: List.replicate digits Decimal.zero)).encode

theorem sealsOverlong_zerosToken_iff {n digits : Nat} (positive : 0 < n) :
    SealsOverlong (.text (zerosToken n)) letters digits ↔
      n = digits ∧ Decimal.maxDigits < digits := by
  have nonempty : List.replicate n (0 : Fin 10) ≠ [] := by
    rw [Ne, List.replicate_eq_nil_iff]
    omega
  have spells := Decimal.Spells.plain nonempty
  rw [List.map_replicate] at spells
  change Decimal.Spells (List.replicate n Decimal.zero) false _ at spells
  have encodable : Utf8.encodable
      (letters ++ separator :: List.replicate n Decimal.zero) = true :=
    Payload.encodable_of_spells spells (by decide +kernel)
  have usable : Usable letters := by decide +kernel
  have fits : FitsNonce "0001020304050607" := by decide +kernel
  have split : separator ∉ ("0001020304050607" : Text) := by decide +kernel
  rw [zerosToken, sealsOverlong_forge_iff usable fits split encodable, Payload.overlong_iff spells,
    List.length_replicate]

theorem check_zerosToken_answers : ∃ valid, ((showing (.whole 0)).check .standard
    (.text (zerosToken 4300)) (some letters)).1.result = .ok (.truth valid) := by
  have answers := check_answers_iff (d := showing (.whole 0)) rfl (by decide +kernel) .standard
    (.text (zerosToken 4300)) letters
  apply answers.1.mpr
  rintro ⟨digits, overlong⟩
  obtain ⟨rfl, many⟩ := (sealsOverlong_zerosToken_iff (by decide)).mp overlong
  exact absurd many (by decide)

theorem check_zerosToken_fails : ((showing (.whole 0)).check .standard
    (.text (zerosToken 4301)) (some letters)).1.result =
      .error (.fault (.integer (.reading 4301))) :=
  check_result_of_overlong ((sealsOverlong_zerosToken_iff (by decide)).mpr ⟨rfl, by decide⟩) rfl _

end SealedToken.Deployment
