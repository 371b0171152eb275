import SealedToken.Proofs.Deployment.Booking

namespace SealedToken

/-- A command, and the deployment in which it is carried out. -/
structure Moment where
  before : Deployment
  command : Command

namespace Moment

def reply (e : Moment) : Reply :=
  (e.before.step e.command).1

def after (e : Moment) : Deployment :=
  (e.before.step e.command).2

def asked? (e : Moment) : Option Manager :=
  match e.command with
  | .issue name _ | .check name _ _ => e.before.managers.get? name
  | _ => none

def holds (e : Moment) (registry : Nat) : Bool :=
  e.asked?.any fun m => m.metrics == some registry

def issued? (e : Moment) : Option (Option Text) :=
  match e.command, e.reply.result with
  | .issue _ _, .ok (.token t) => some t
  | _, _ => none

def checked? (e : Moment) : Option Bool :=
  match e.command, e.reply.result with
  | .check _ _ _, .ok (.truth valid) => some valid
  | _, _ => none

def given? (e : Moment) : Option (Sink × Notice) :=
  match e.command with
  | .issue name session => (e.before.managers.get? name).bind fun m =>
    (issueToken session e.before.clock (e.before.sourceOf m)).1.notice.map (m.sink, ·)
  | .check name token session => (e.before.managers.get? name).bind fun m =>
    (checkToken token session m.allowedExpiry e.before.clock).notice.map (m.sink, ·)
  | .notify name notice => (e.before.sinks.get? name).join.map (·, notice)
  | _ => none

end Moment

namespace Deployment

variable {d : Deployment} {c : Command} {cs : List Command}

def history (d : Deployment) : List Command → List Moment
  | [] => []
  | c :: cs => ⟨d, c⟩ :: (d.step c).2.history cs

theorem run_replies (d : Deployment) (cs : List Command) :
    (d.run cs).1 = (d.history cs).map Moment.reply := by
  induction cs generalizing d with
  | nil => rfl
  | cons c cs ih => exact congrArg (List.cons _) (ih _)

/-- What every step of a run keeps holds at all its moments and at its end. -/
theorem run_keeps {P : Deployment → Prop} (start : P d)
    (kept : ∀ e ∈ d.history cs, P e.before → P e.after) :
    (∀ e ∈ d.history cs, P e.before) ∧ P (d.run cs).2 := by
  induction cs generalizing d with
  | nil => exact ⟨fun _ member => absurd member List.not_mem_nil, start⟩
  | cons c cs ih =>
    rw [history, List.forall_mem_cons] at kept
    obtain ⟨throughout, final⟩ := ih (kept.1 start) kept.2
    rw [history, List.forall_mem_cons]
    exact ⟨⟨start, throughout⟩, final⟩

theorem keep_deliveries (d : Deployment) (name : Text) (made : Except Fault Manager)
    (a : Manager → Answer) : (d.keep name made a).1.deliveries = [] :=
  keep_ind (P := fun r => r.1.deliveries = []) (fun _ _ => rfl) fun _ _ => rfl

theorem configure_deliveries (d : Deployment) (name : Text) (arguments : Option Fields)
    (metrics : Bool) : (d.configure name arguments metrics).1.deliveries = [] :=
  configure_ind (P := fun r => r.1.deliveries = []) (fun _ _ => rfl) fun _ _ _ _ => rfl

theorem withManager_deliveries {name request : Text} {f : Manager → Reply × Deployment}
    (quiet : ∀ m, (f m).1.deliveries = []) :
    (d.withManager name request f).1.deliveries = [] :=
  withManager_ind (P := fun r => r.1.deliveries = []) rfl fun m _ => quiet m

end Deployment

namespace Moment

variable {d : Deployment} {name : Text} {m : Manager}

theorem reply_issue (found : d.managers.get? name = some m) (session : Option Text) :
    Moment.reply ⟨d, .issue name session⟩ = (d.issue m session).1 := by
  simp only [reply, Deployment.step, Deployment.withManager, found]

theorem reply_check (found : d.managers.get? name = some m) (token : Value)
    (session : Option Text) :
    Moment.reply ⟨d, .check name token session⟩ = (d.check m token session).1 := by
  simp only [reply, Deployment.step, Deployment.withManager, found]

theorem issued?_issue (found : d.managers.get? name = some m) (session : Option Text) :
    Moment.issued? ⟨d, .issue name session⟩ =
      (issueToken session d.clock (d.sourceOf m)).1.result.toOption := by
  simp only [issued?, reply_issue found, Deployment.issue_result]
  cases (issueToken session d.clock (d.sourceOf m)).1.result <;> rfl

theorem checked?_check (found : d.managers.get? name = some m) (token : Value)
    (session : Option Text) :
    Moment.checked? ⟨d, .check name token session⟩ =
      (checkToken token session m.allowedExpiry d.clock).result.toOption := by
  simp only [checked?, reply_check found, Deployment.check_reply, Manager.reply]
  cases (checkToken token session m.allowedExpiry d.clock).result <;> rfl

theorem given?_issue (found : d.managers.get? name = some m) (session : Option Text) :
    Moment.given? ⟨d, .issue name session⟩ =
      (issueToken session d.clock (d.sourceOf m)).1.notice.map (m.sink, ·) := by
  simp only [given?, found, Option.bind_some]

theorem given?_check (found : d.managers.get? name = some m) (token : Value)
    (session : Option Text) :
    Moment.given? ⟨d, .check name token session⟩ =
      (checkToken token session m.allowedExpiry d.clock).notice.map (m.sink, ·) := by
  simp only [given?, found, Option.bind_some]

theorem reply_deliveries (e : Moment) :
    e.reply.deliveries = (e.given?.map fun (sink, notice) => sink.deliver notice).getD [] := by
  obtain ⟨d, c⟩ := e
  unfold reply given?
  cases c with
  | construct name a => exact Deployment.keep_deliveries _ _ _ _
  | configure name a metrics => exact Deployment.configure_deliveries _ _ _ _
  | issue name session =>
    simp only [Deployment.step, Deployment.withManager]
    cases d.managers.get? name with
    | none => rfl
    | some m =>
      simp only [Deployment.issue_reply, Manager.issueReply, Option.bind_some]
      cases (issueToken session d.clock (d.sourceOf m)).1.notice <;> rfl
  | check name token session =>
    simp only [Deployment.step, Deployment.withManager]
    cases d.managers.get? name with
    | none => rfl
    | some m =>
      simp only [Deployment.check_reply, Manager.reply, Option.bind_some]
      cases (checkToken token session m.allowedExpiry d.clock).notice <;> rfl
  | setTokenName name v =>
    exact Deployment.withManager_deliveries fun m => Deployment.keep_deliveries _ _ _ _
  | setAllowedExpiry name v =>
    exact Deployment.withManager_deliveries fun m => Deployment.keep_deliveries _ _ _ _
  | setSink name v =>
    exact Deployment.withManager_deliveries fun m => Deployment.keep_deliveries _ _ _ _
  | notify name n =>
    rcases d.notify_cases name n with ⟨absent, _, refused⟩ | ⟨sink, found, notified⟩
    · simp only [Deployment.step, refused, absent, Option.map_none, Option.getD_none]
    · simp only [Deployment.step, notified, found, Option.map_some, Option.getD_some]
  | recordIssue | recordCheck _ | recordNotice _ => rfl
  | _ => exact (Deployment.step_aside rfl d).2.2

end Moment

end SealedToken
