import SealedToken.Proofs.Deployment.Entries
import SealedToken.Proofs.Token.Noticing

namespace SealedToken

structure Manager.Wired (m : Manager) (registry : Nat) : Prop where
  holds : m.metrics = some registry
  once : m.sink.layers registry = 1

theorem Settings.manager_wired {s : Settings} {chosen registry : Nat}
    (enabled : (s.manager chosen).metrics = some registry) : (s.manager chosen).Wired registry := by
  refine ⟨enabled, ?_⟩
  unfold Settings.manager at enabled ⊢
  split at enabled
  · next on =>
    cases enabled
    cases kind : s.diagnostics <;> simp [on, SinkChoice.sink, Sink.layers]
  · cases enabled

namespace Deployment

def Wired (d : Deployment) (registry : Nat) : Prop :=
  ∀ name m, d.managers.get? name = some m → m.Wired registry

end Deployment

namespace Moment

/-- Whether a moment makes no manager but from settings, with metrics enabled and over a registry,
and replaces no sink. -/
def keepsWiring (e : Moment) (registry : Nat) : Bool :=
  match e.command, e.reply.result with
  | .construct _ _, .ok _ => false
  | .setSink _ _, .ok _ => false
  | .configure _ _ _, .ok (.manager m) => m.metrics == some registry
  | _, _ => true

def direct (e : Moment) : Bool :=
  match e.command with
  | .notify _ _ => true
  | _ => false

end Moment

namespace Deployment

variable {d : Deployment} {registry : Nat} {name : Text}

theorem Wired.put {m : Manager} (wired : d.Wired registry) (wired' : m.Wired registry)
    (name : Text) : Deployment.Wired { d with managers := d.managers.put name m } registry := by
  intro other m' found
  by_cases same : other = name
  · subst same
    rw [Named.get?_put_self] at found
    cases found
    exact wired'
  · rw [Named.get?_put_of_ne _ _ same] at found
    exact wired other m' found

theorem withSource_managers (d : Deployment) (m : Manager) (source : RandomSource) :
    (d.withSource m source).managers = d.managers := by
  unfold withSource
  split <;> rfl

theorem Wired.keep {made : Except Fault Manager} (wired : d.Wired registry)
    (wired' : ∀ m, made = .ok m → m.Wired registry) (a : Manager → Answer) :
    (d.keep name made a).2.Wired registry :=
  keep_ind (P := fun r => r.2.Wired registry) (fun _ _ => wired) fun m kept =>
    wired.put (wired' m kept) name

theorem wired_after {e : Moment} (keeps : e.keepsWiring registry)
    (wired : e.before.Wired registry) : e.after.Wired registry := by
  obtain ⟨d, c⟩ := e
  cases c with
  | construct name a =>
    simp only [Moment.keepsWiring, Moment.reply, Moment.after, step] at keeps ⊢
    cases made : Manager.new a with
    | error fault => exact wired
    | ok m =>
      rw [made] at keeps
      cases keeps
  | configure name arguments metrics =>
    simp only [Moment.keepsWiring, Moment.reply, Moment.after, step] at keeps ⊢
    cases selected : d.settings.select arguments with
    | mk result store =>
      cases result with
      | error es => rw [configure_of_error selected]; exact wired
      | ok s =>
        obtain ⟨_, _, configured⟩ := configure_of_settings selected name metrics
        rw [configured] at keeps ⊢
        exact wired.put (Settings.manager_wired (eq_of_beq keeps)) name
  | issue name session =>
    refine withManager_ind (P := fun r => r.2.Wired registry) wired fun m _ => ?_
    rw [issue_after, Wired, book, withSource_managers]
    exact wired
  | check name token session =>
    refine withManager_ind (P := fun r => r.2.Wired registry) wired fun m _ => ?_
    rw [check_after]
    exact wired
  | setTokenName name v =>
    refine withManager_ind (P := fun r => r.2.Wired registry) wired fun m held => ?_
    refine wired.keep (fun m' made => ?_) _
    cases v with
    | none => cases made
    | some v =>
      cases made
      exact ⟨(wired name m held).holds, (wired name m held).once⟩
  | setAllowedExpiry name v =>
    refine withManager_ind (P := fun r => r.2.Wired registry) wired fun m held => ?_
    refine wired.keep (fun m' made => ?_) _
    cases read : Manager.readAllowedExpiry v with
    | error fault =>
      rw [read] at made
      cases made
    | ok expiry =>
      rw [read] at made
      cases made
      exact ⟨(wired name m held).holds, (wired name m held).once⟩
  | setSink name v =>
    simp only [Moment.keepsWiring, Moment.reply, Moment.after, step, withManager] at keeps ⊢
    cases held : d.managers.get? name with
    | none => exact wired
    | some m =>
      cases v with
      | none => exact wired
      | some sink =>
        rw [held] at keeps
        cases keeps
  | notify name n =>
    simp only [Moment.after, step]
    rcases d.notify_cases name n with ⟨_, _, refused⟩ | ⟨sink, _, notified⟩
    · rw [refused]
      exact wired
    · rw [notified]
      exact wired
  | recordIssue | recordCheck _ | recordNotice _ => exact wired
  | _ =>
    rw [Moment.after, Wired, (step_aside rfl d).1]
    exact wired

end Deployment

namespace Moment

variable {registry : Nat}

theorem layers_of_notice {α : Type} [DecidableEq α] {result : Except Fault α} {rejected : α}
    {notice : Option Notice} {sink : Sink} (once : sink.layers registry = 1)
    (noticed : notice.isSome ↔ result = .ok rejected) :
    ((notice.map (sink, ·)).map fun (sink, _) => sink.layers registry).getD 0 =
      if result.toOption = some rejected then 1 else 0 := by
  have same : result.toOption = some rejected ↔ notice.isSome := by
    rw [noticed]
    cases result <;> simp [Except.toOption]
  simp only [same]
  cases notice with
  | none => rfl
  | some n => exact once

/-- A wired manager counts a notice for each request that ends without a token and for each check
that ends in rejection; all other notices are given directly. -/
theorem counted_of_wired {e : Moment} (wired : e.before.Wired registry) :
    e.counted registry =
      (if e.issued? = some none then 1 else 0) + (if e.checked? = some false then 1 else 0) +
        if e.direct then e.counted registry else 0 := by
  obtain ⟨d, c⟩ := e
  cases c with
  | issue name session =>
    cases held : d.managers.get? name with
    | none => simp [counted, given?, issued?, checked?, reply, direct, Deployment.step,
        Deployment.withManager, held]
    | some m =>
      have noticed := issueToken_notice_iff session d.clock (d.sourceOf m)
      simp only [counted, given?_issue held, issued?_issue held, checked?, direct,
        layers_of_notice (wired name m held).once noticed]
      rfl
  | check name token session =>
    cases held : d.managers.get? name with
    | none => simp [counted, given?, issued?, checked?, reply, direct, Deployment.step,
        Deployment.withManager, held]
    | some m =>
      have noticed := checkToken_notice_iff token session m.allowedExpiry d.clock
      simp only [counted, given?_check held, checked?_check held, issued?, direct,
        layers_of_notice (wired name m held).once noticed]
      simp
  | notify name n => simp [issued?, checked?, direct]
  | _ => rfl

end Moment

end SealedToken
