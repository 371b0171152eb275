import SealedToken.Proofs.Deployment.Reply

namespace SealedToken

def Settings.manager (s : Settings) (registry : Nat) : Manager where
  tokenName := s.tokenName
  allowedExpiry := s.allowedExpiry
  sink := if s.metricsEnabled then .counting registry s.diagnostics.sink else s.diagnostics.sink
  metrics := if s.metricsEnabled then some registry else none
  givenSource := true

def Settings.managerWith (s : Settings) (registry : Nat) (passed : Passed) : Manager :=
  { s.manager registry with givenSource := passed.source || passed.service }

theorem Manager.new_managerArguments {passed : Passed}
    (apart : (passed.service && passed.source) = false) (s : Settings) (registry : Nat) :
    Manager.new
        { s.managerArguments registry with source := passed.source, service := passed.service } =
      .ok (s.managerWith registry passed) := by
  have read : Manager.readAllowedExpiry (some (s.allowedExpiry : Int)) = .ok s.allowedExpiry := by
    simp [Manager.readAllowedExpiry]
  simp only [Manager.new, Settings.managerArguments, apart, read]
  rfl

def Command.isAside : Command → Bool
  | .construct _ _ | .configure _ _ _ | .issue _ _ | .check _ _ _ => false
  | .setTokenName _ _ | .setAllowedExpiry _ _ | .setSink _ _ => false
  | .notify _ _ | .recordIssue | .recordCheck _ | .recordNotice _ => false
  | _ => true

namespace Deployment

variable {d : Deployment} {name : Text} {arguments : Option Fields} {store : SettingsStore}

theorem withManager_ind {P : Reply × Deployment → Prop} {request : Text}
    {f : Manager → Reply × Deployment}
    (absent : P ({ result := .error (.unanswered request) }, d))
    (present : ∀ m, d.managers.get? name = some m → P (f m)) :
    P (d.withManager name request f) := by
  unfold withManager
  cases found : d.managers.get? name with
  | none => exact absent
  | some m => exact present m found

theorem keep_ind {P : Reply × Deployment → Prop} {made : Except Fault Manager}
    {a : Manager → Answer} (refused : ∀ fault, made = .error fault → P (d.refuse fault))
    (kept : ∀ m, made = .ok m →
      P ({ d with managers := d.managers.put name m }.answer (a m))) :
    P (d.keep name made a) := by
  cases made with
  | error fault => exact refused fault rfl
  | ok m => exact kept m rfl

section Two

variable {α : Type} {d' : Deployment} {look : Manager → α}
  {R : Reply × Deployment → Reply × Deployment → Prop}

/-- Two deployments answer for a name in the same way if it stands for managers that look the same,
or for none. -/
theorem withManager_rel {request : Text} {f f' : Manager → Reply × Deployment}
    (same : (d.managers.get? name).map look = (d'.managers.get? name).map look)
    (absent : R ({ result := .error (.unanswered request) }, d)
      ({ result := .error (.unanswered request) }, d'))
    (present : ∀ m m', d.managers.get? name = some m → d'.managers.get? name = some m' →
      look m = look m' → R (f m) (f' m')) :
    R (d.withManager name request f) (d'.withManager name request f') := by
  unfold withManager
  cases held : d.managers.get? name with
  | none =>
    cases held' : d'.managers.get? name with
    | none => exact absent
    | some m' => simp [held, held'] at same
  | some m =>
    cases held' : d'.managers.get? name with
    | none => simp [held, held'] at same
    | some m' =>
      rw [held, held'] at same
      exact present m m' held held' (Option.some.inj same)

theorem keep_rel {made made' : Except Fault Manager} {a a' : Manager → Answer}
    (same : made.map look = made'.map look)
    (refused : ∀ fault, R (d.refuse fault) (d'.refuse fault))
    (kept : ∀ m m', look m = look m' →
      R ({ d with managers := d.managers.put name m }.answer (a m))
        ({ d' with managers := d'.managers.put name m' }.answer (a' m'))) :
    R (d.keep name made a) (d'.keep name made' a') := by
  cases made with
  | error fault =>
    cases made' with
    | error fault' =>
      cases same
      exact refused fault
    | ok m' => cases same
  | ok m =>
    cases made' with
    | error fault' => cases same
    | ok m' => exact kept m m' (Except.ok.inj same)

end Two

theorem step_aside {c : Command} (aside : c.isAside = true) (d : Deployment) :
    (d.step c).2.managers = d.managers ∧ (d.step c).2.registries = d.registries ∧
      (d.step c).1.deliveries = [] := by
  cases c with
  | construct _ _ | configure _ _ _ | issue _ _ | check _ _ _ => cases aside
  | setTokenName _ _ | setAllowedExpiry _ _ | setSink _ _ => cases aside
  | notify _ _ | recordIssue | recordCheck _ | recordNotice _ => cases aside
  | inspect name =>
    exact withManager_ind (P := fun r => r.2.managers = d.managers ∧
      r.2.registries = d.registries ∧ r.1.deliveries = []) ⟨rfl, rfl, rfl⟩ fun _ _ => ⟨rfl, rfl, rfl⟩
  | advanceClock r =>
    simp only [step, advanceClock]
    cases d.clock.add r <;> exact ⟨rfl, rfl, rfl⟩
  | isSink name =>
    simp only [step]
    cases d.sinks.get? name <;> exact ⟨rfl, rfl, rfl⟩
  | readSettings =>
    simp only [step, readSettings]
    cases d.settings.get.1 <;> exact ⟨rfl, rfl, rfl⟩
  | _ => exact ⟨rfl, rfl, rfl⟩

theorem configureWith_of_error {es : List FieldError}
    (selected : d.settings.select arguments = (.error es, store)) (passed : Passed) :
    d.configureWith name arguments passed =
      ({ result := .error (.fields es) }, { d with settings := store }) := by
  simp only [configureWith, selected]

theorem configureWith_of_settings {s : Settings}
    (selected : d.settings.select arguments = (.ok s, store)) (name : Text) (passed : Passed) :
    d.configureWith name arguments passed =
      appoint { d with settings := store } name s passed := by
  simp only [configureWith, selected]

theorem configure_of_error {es : List FieldError}
    (selected : d.settings.select arguments = (.error es, store)) (metrics : Bool) :
    d.configure name arguments metrics =
      ({ result := .error (.fields es) }, { d with settings := store }) :=
  configureWith_of_error selected _

/-- A manager that comes of settings is kept under its name. It gets the shared registry, or one of
its own that is added for it. -/
theorem appoint_eq {passed : Passed} (apart : (passed.service && passed.source) = false)
    (d : Deployment) (name : Text) (s : Settings) :
    d.appoint name s passed =
      let m := s.managerWith (if passed.metrics then shared else d.registries.length) passed
      ({ result := .ok (.manager m) },
        { d with
          registries := d.registries ++ if !passed.metrics && s.metricsEnabled then [{}] else []
          managers := d.managers.put name m }) := by
  simp only [appoint, Manager.new_managerArguments apart]
  rfl

theorem configure_eq {s : Settings} (selected : d.settings.select arguments = (.ok s, store))
    (name : Text) (metrics : Bool) :
    d.configure name arguments metrics =
      let m := s.manager (if metrics then shared else d.registries.length)
      ({ result := .ok (.manager m) },
        { d with
          settings := store
          registries := d.registries ++ if !metrics && s.metricsEnabled then [{}] else []
          managers := d.managers.put name m }) := by
  rw [configure, configureWith_of_settings selected, appoint_eq rfl]
  rfl

theorem configure_of_settings {s : Settings}
    (selected : d.settings.select arguments = (.ok s, store)) (name : Text) (metrics : Bool) :
    ∃ registry added, d.configure name arguments metrics =
      ({ result := .ok (.manager (s.manager registry)) },
        { d with
          settings := store
          registries := d.registries ++ added
          managers := d.managers.put name (s.manager registry) }) :=
  ⟨_, _, configure_eq selected name metrics⟩

theorem configure_ind {P : Reply × Deployment → Prop} {metrics : Bool}
    (refused : ∀ es store, P ({ result := .error (.fields es) }, { d with settings := store }))
    (kept : ∀ (s : Settings) store registry added,
      P ({ result := .ok (.manager (s.manager registry)) },
        { d with
          settings := store
          registries := d.registries ++ added
          managers := d.managers.put name (s.manager registry) })) :
    P (d.configure name arguments metrics) := by
  cases selected : d.settings.select arguments with
  | mk result store =>
    cases result with
    | error es =>
      rw [configure_of_error selected]
      exact refused es store
    | ok s =>
      obtain ⟨registry, added, configured⟩ := configure_of_settings selected name metrics
      rw [configured]
      exact kept s store registry added

end Deployment

end SealedToken
