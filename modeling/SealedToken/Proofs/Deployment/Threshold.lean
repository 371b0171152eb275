import SealedToken.Proofs.Clock
import SealedToken.Proofs.Deployment.Reply
import SealedToken.Proofs.Token.Binding

namespace SealedToken.Deployment

def Accepts (d : Deployment) (m : Manager) (t session : Text) : Prop :=
  (d.check m (.text t) (some session)).1.result = .ok (.truth true)

/-- Whether a text is accepted just until the allowed age after a time has passed, whoever checks it
and whatever the clock shows. -/
def Threshold (t session : Text) (time : Int) : Prop :=
  ∀ (d : Deployment) (m : Manager) (r : ℚ), d.clock.value? = some r →
    (d.Accepts m t session ↔ towardZero r ≤ time + m.allowedExpiry)

variable {d d' : Deployment} {m m' : Manager} {t session : Text} {time time' : Int} {r r' : ℚ}

theorem threshold_of_tokenFor (tokenFor : TokenFor t session time) : Threshold t session time := by
  intro d m r shown
  have finite := Reading.truncate_of_value shown
  rw [Accepts, check_result_eq_truth_iff]
  constructor
  · intro accepted
    obtain ⟨time', tokenFor', fresh⟩ := tokenFor_of_accepted finite accepted
    rw [(tokenFor.unique tokenFor' rfl).2]
    exact fresh
  · intro fresh
    exact accepted_of_tokenFor finite tokenFor fresh

theorem Accepts.tokenFor (accepted : d.Accepts m t session) :
    ∃ time r, TokenFor t session time ∧ d.clock.value? = some r := by
  rw [Accepts, check_result_eq_truth_iff] at accepted
  obtain ⟨now, finite⟩ := truncate_of_accepted accepted
  obtain ⟨time, tokenFor, _⟩ := tokenFor_of_accepted finite accepted
  obtain ⟨r, shown, _⟩ := Reading.exists_value finite
  exact ⟨time, r, tokenFor, shown⟩

theorem accepts_iff_of_whole {now : Int} (threshold : Threshold t session time)
    (m : Manager) : (showing (.whole now)).Accepts m t session ↔ now ≤ time + m.allowedExpiry := by
  have exact := threshold (showing (.whole now)) m now rfl
  rwa [towardZero_intCast] at exact

theorem Threshold.le (threshold : Threshold t session time) (threshold' : Threshold t session time') :
    time ≤ time' := by
  let m : Manager := { Manager.standard with allowedExpiry := 0 }
  have accepted : (showing (.whole time)).Accepts m t session :=
    (accepts_iff_of_whole threshold m).mpr (Int.le_add_of_nonneg_right (Int.le_refl 0))
  have fresh := (accepts_iff_of_whole threshold' m).mp accepted
  simpa [m] using fresh

theorem accepts_mono (accepted : d.Accepts m t session) (shown : d.clock.value? = some r)
    (shown' : d'.clock.value? = some r') (earlier : r' ≤ r)
    (longer : m.allowedExpiry ≤ m'.allowedExpiry) : d'.Accepts m' t session := by
  obtain ⟨time, _, tokenFor, _⟩ := accepted.tokenFor
  have threshold := threshold_of_tokenFor tokenFor
  have fresh := (threshold d m r shown).mp accepted
  have before := towardZero_mono earlier
  apply (threshold d' m' r' shown').mpr
  omega

theorem check_after_setAllowedExpiry {name : Text} (held : d.managers.get? name = some m)
    (expiry : Nat) (token : Value) (session : Option Text) :
    ((d.step (.setAllowedExpiry name (some expiry))).2.step (.check name token session)).1 =
      (d.check { m with allowedExpiry := expiry } token session).1 := by
  let changed : Manager := { m with allowedExpiry := expiry }
  have nonneg : ¬ (expiry : Int) < 0 := Int.not_lt.mpr (Int.natCast_nonneg expiry)
  have after : (d.step (.setAllowedExpiry name (some expiry))).2 =
      { d with managers := d.managers.put name changed } := by
    simp only [step, withManager, held, Manager.readAllowedExpiry, if_neg nonneg]
    rfl
  have found : (d.managers.put name changed).get? name = some changed :=
    Named.get?_put_self d.managers name changed
  rw [after]
  simp only [step, withManager, found]
  rw [check_reply, check_reply]

/-- A text is never accepted for a session, or just up to one time and the allowed age after it. What
is accepted stays so at earlier readings and under longer allowed ages, and a change of the allowed
age holds for all tokens from the next check on. -/
theorem check_has_threshold (t session : Text) :
    ((∀ (d : Deployment) (m : Manager), ¬ d.Accepts m t session) ∨
      ∃! time, Threshold t session time) ∧
    (∀ (d d' : Deployment) (m m' : Manager) (r r' : ℚ), d.clock.value? = some r →
      d'.clock.value? = some r' → r' ≤ r → m.allowedExpiry ≤ m'.allowedExpiry →
      d.Accepts m t session → d'.Accepts m' t session) ∧
    ∀ (d : Deployment) (name : Text) (m : Manager) (expiry : Nat),
      d.managers.get? name = some m →
      (((d.step (.setAllowedExpiry name (some expiry))).2.step
          (.check name (.text t) (some session))).1.result = .ok (.truth true) ↔
        d.Accepts { m with allowedExpiry := expiry } t session) := by
  refine ⟨?_, ?_, ?_⟩
  · by_cases issued : ∃ time, TokenFor t session time
    · right
      obtain ⟨time, tokenFor⟩ := issued
      have threshold := threshold_of_tokenFor tokenFor
      refine ⟨time, threshold, ?_⟩
      intro time' threshold'
      exact Int.le_antisymm (threshold'.le threshold) (threshold.le threshold')
    · left
      intro d m accepted
      obtain ⟨time, _, tokenFor, _⟩ := accepted.tokenFor
      exact issued ⟨time, tokenFor⟩
  · intro d d' m m' r r' shown shown' earlier longer accepted
    exact accepts_mono accepted shown shown' earlier longer
  · intro d name m expiry held
    rw [check_after_setAllowedExpiry held, Accepts]

/-- A token of the thousandth second. A quarter of a millisecond after the allowed age it is still
accepted, since fractions do not count; so it is half a millisecond before the beginning of time. -/
theorem check_has_threshold_issued :
    let t := issuedToken letters [0, 1, 2, 3, 4, 5, 6, 7] 1000000
    let late := showing (.double (.finite false 18400001 (-2)))
    let early := showing (.double (.finite true 1 (-1)))
    let d := { late with managers := [("m", .standard)] }
    late.Accepts .standard t letters ∧ (∃! time, Threshold t letters time) ∧
      early.Accepts .standard t letters ∧
      (((d.step (.setAllowedExpiry "m" (some 0))).2.step
          (.check "m" (.text t) (some letters))).1.result = .ok (.truth true) ↔
        d.Accepts { Manager.standard with allowedExpiry := 0 } t letters) := by
  intro t late early d
  have usable : Usable letters := by decide +kernel
  have bounded : (1000000 : Int).natAbs < 10 ^ Decimal.maxDigits := by decide +kernel
  have tokenFor : TokenFor t letters 1000000 := tokenFor_issuedToken usable rfl bounded
  have finite : late.clock.truncate = .ok 4600000 := rfl
  have accepted : late.Accepts .standard t letters :=
    check_result_eq_truth_iff.mpr (accepted_of_tokenFor finite tokenFor (by decide))
  obtain ⟨threshold, monotone, change⟩ := check_has_threshold t letters
  refine ⟨accepted, ?_, ?_, change d "m" .standard 0 rfl⟩
  · rcases threshold with never | threshold
    · exact absurd accepted (never late .standard)
    · exact threshold
  · have earlier : -((1 : ℕ) * (2 : ℚ) ^ (-1 : ℤ)) ≤ (18400001 : ℕ) * (2 : ℚ) ^ (-2 : ℤ) := by
      norm_num
    exact monotone late early .standard .standard _ _ rfl rfl earlier (Nat.le_refl _) accepted

end SealedToken.Deployment
