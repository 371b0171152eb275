import SealedToken.Proofs.Deployment.Booking
import SealedToken.Proofs.Named

namespace SealedToken

/-- What answers rest on. A manager is an allowed age, and whether it draws from the shared source. -/
structure Basis where
  clock : Reading
  source : RandomSource
  systemSource : RandomSource
  settings : SettingsStore
  managers : Text → Option (Nat × Bool)

def Manager.basis (m : Manager) : Nat × Bool :=
  (m.allowedExpiry, m.givenSource)

def Deployment.basis (d : Deployment) : Basis where
  clock := d.clock
  source := d.source
  systemSource := d.systemSource
  settings := d.settings
  managers name := (d.managers.get? name).map Manager.basis

namespace Deployment

variable {d d' : Deployment} {name : Text} {m m' : Manager}

theorem basis_book (d : Deployment) (entries : Nat → List Entry) :
    (d.book entries).basis = d.basis := rfl

theorem basis_put (d : Deployment) (name : Text) (m : Manager) :
    basis { d with managers := d.managers.put name m } =
      { d.basis with
        managers := fun other => if other = name then some m.basis else d.basis.managers other } := by
  simp only [basis, Named.map_get?_put]

theorem basis_put_self (held : d.managers.get? name = some m) (same : m'.basis = m.basis) :
    basis { d with managers := d.managers.put name m' } = d.basis := by
  have managers : (fun other => if other = name then some m'.basis else d.basis.managers other) =
      d.basis.managers := by
    funext other
    by_cases here : other = name
    · have basis_of_held : d.basis.managers name = some m.basis :=
        congrArg (Option.map Manager.basis) held
      rw [if_pos here, here, same, basis_of_held]
    · rw [if_neg here]
  rw [basis_put, managers]

section Same

variable (same : d.basis = d'.basis)
include same

theorem managers_of_basis (name : Text) :
    (d.managers.get? name).map Manager.basis = (d'.managers.get? name).map Manager.basis :=
  congrFun (congrArg Basis.managers same) name

theorem withManager_of_basis {R : Reply × Deployment → Reply × Deployment → Prop}
    {request : Text} {f f' : Manager → Reply × Deployment}
    (absent : R ({ result := .error (.unanswered request) }, d)
      ({ result := .error (.unanswered request) }, d'))
    (present : ∀ m m', d.managers.get? name = some m → d'.managers.get? name = some m' →
      m.basis = m'.basis → R (f m) (f' m')) :
    R (d.withManager name request f) (d'.withManager name request f') :=
  withManager_rel (managers_of_basis same name) absent present

theorem sourceOf_of_basis (same' : m.basis = m'.basis) : d.sourceOf m = d'.sourceOf m' := by
  have given : m.givenSource = m'.givenSource := congrArg Prod.snd same'
  have source : d.source = d'.source := congrArg Basis.source same
  have systemSource : d.systemSource = d'.systemSource := congrArg Basis.systemSource same
  rw [sourceOf, sourceOf, given, source, systemSource]

theorem put_of_basis (same' : m.basis = m'.basis) (name : Text) :
    basis { d with managers := d.managers.put name m } =
      basis { d' with managers := d'.managers.put name m' } := by
  rw [basis_put, basis_put, same, same']

theorem keep_of_basis {made made' : Except Fault Manager}
    (same' : made.map Manager.basis = made'.map Manager.basis) (name : Text)
    (a a' : Manager → Answer) :
    (d.keep name made a).2.basis = (d'.keep name made' a').2.basis :=
  keep_rel (R := fun r r' => r.2.basis = r'.2.basis) same' (fun _ => same) fun _ _ same' =>
    put_of_basis same same' name

theorem withSource_of_basis (same' : m.basis = m'.basis) (source : RandomSource) :
    (d.withSource m source).basis = (d'.withSource m' source).basis := by
  have given : m.givenSource = m'.givenSource := congrArg Prod.snd same'
  rw [withSource, withSource, given]
  cases m'.givenSource with
  | true => exact congrArg ({ · with source := source }) same
  | false => exact congrArg ({ · with systemSource := source }) same

theorem settings_of_basis (settings : SettingsStore) :
    basis { d with settings } = basis { d' with settings } :=
  congrArg ({ · with settings }) same

theorem configure_of_basis (name : Text) (arguments : Option Fields) (metrics : Bool) :
    (d.configure name arguments metrics).2.basis = (d'.configure name arguments metrics).2.basis := by
  have settings : d.settings = d'.settings := congrArg Basis.settings same
  cases selected : d.settings.select arguments with
  | mk result store =>
    have selected' := selected
    rw [settings] at selected'
    have stored := settings_of_basis same store
    cases result with
    | error es =>
      rw [configure_of_error selected, configure_of_error selected']
      exact stored
    | ok s =>
      obtain ⟨registry, _, configured⟩ := configure_of_settings selected name metrics
      obtain ⟨registry', _, configured'⟩ := configure_of_settings selected' name metrics
      have same' : (s.manager registry).basis = (s.manager registry').basis := rfl
      rw [configured, configured']
      exact put_of_basis stored same' name

theorem issue_of_basis (same' : m.basis = m'.basis) (session : Option Text) :
    (d.issue m session).2.basis = (d'.issue m' session).2.basis := by
  have clock : d.clock = d'.clock := congrArg Basis.clock same
  rw [issue_after, issue_after, basis_book, basis_book, clock, sourceOf_of_basis same same']
  exact withSource_of_basis same same' _

theorem step_of_basis (c : Command) : (d.step c).2.basis = (d'.step c).2.basis := by
  have clock : d.clock = d'.clock := congrArg Basis.clock same
  have settings : d.settings = d'.settings := congrArg Basis.settings same
  cases c with
  | construct name a => exact keep_of_basis same rfl name _ _
  | configure name arguments metrics => exact configure_of_basis same name arguments metrics
  | inspect name =>
    exact withManager_of_basis (R := fun r r' => r.2.basis = r'.2.basis) same same
      fun _ _ _ _ _ => same
  | issue name session =>
    exact withManager_of_basis (R := fun r r' => r.2.basis = r'.2.basis) same same
      fun m m' _ _ same' => issue_of_basis same same' session
  | check name token session =>
    refine withManager_of_basis (R := fun r r' => r.2.basis = r'.2.basis) same same
      fun m m' _ _ _ => ?_
    rw [check_after, check_after]
    exact same
  | setTokenName name v =>
    refine withManager_of_basis (R := fun r r' => r.2.basis = r'.2.basis) same same
      fun m m' _ _ same' => keep_of_basis same ?_ name _ _
    cases v with
    | none => rfl
    | some v => exact congrArg Except.ok same'
  | setAllowedExpiry name v =>
    refine withManager_of_basis (R := fun r r' => r.2.basis = r'.2.basis) same same
      fun m m' _ _ same' => keep_of_basis same ?_ name _ _
    cases Manager.readAllowedExpiry v with
    | error fault => rfl
    | ok expiry => exact congrArg (fun b : Nat × Bool => Except.ok (expiry, b.2)) same'
  | setSink name v =>
    refine withManager_of_basis (R := fun r r' => r.2.basis = r'.2.basis) same same
      fun m m' _ _ same' => keep_of_basis same ?_ name _ _
    cases v with
    | none => rfl
    | some v => exact congrArg Except.ok same'
  | notify name n =>
    have quiet : ∀ d : Deployment, (d.notify name n).2.basis = d.basis := by
      intro d
      rcases d.notify_cases name n with ⟨_, _, refused⟩ | ⟨sink, _, notified⟩
      · rw [refused]
      · rw [notified, basis_book]
    exact (quiet d).trans (same.trans (quiet d').symm)
  | setClock clock => exact congrArg ({ · with clock }) same
  | advanceClock r =>
    simp only [step, advanceClock, clock]
    cases d'.clock.add r with
    | error fault => exact same
    | ok clock => exact congrArg ({ · with clock }) same
  | isSink name =>
    simp only [step]
    cases d.sinks.get? name <;> cases d'.sinks.get? name <;> exact same
  | setEnvironment changes file =>
    simp only [step, setEnvironment, settings]
    exact settings_of_basis same _
  | readSettings =>
    simp only [step, readSettings, settings]
    cases d'.settings.get.1 <;> exact settings_of_basis same _
  | clearSettings =>
    simp only [step, settings]
    exact settings_of_basis same _
  | _ => exact same

end Same

end Deployment

end SealedToken
