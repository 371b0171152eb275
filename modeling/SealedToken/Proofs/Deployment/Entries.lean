import SealedToken.Proofs.Deployment.History

namespace SealedToken

def Command.records : Command → Bool
  | .recordIssue | .recordCheck _ | .recordNotice _ => true
  | _ => false

theorem NoticeKind.label_inj {kind kind' : NoticeKind} :
    kind.label = kind'.label ↔ kind = kind' := by
  constructor
  · cases kind <;> cases kind' <;> decide
  · exact congrArg NoticeKind.label

namespace Moment

def counted (e : Moment) (registry : Nat) : Nat :=
  (e.given?.map fun (sink, _) => sink.layers registry).getD 0

def countedAs (e : Moment) (registry : Nat) (kind : NoticeKind) : Nat :=
  match e.given? with
  | none => 0
  | some (sink, n) => if n.kind = kind then sink.layers registry else 0

def outcomes (e : Moment) : List Entry :=
  (e.issued?.join.map fun _ => Entry.issue).toList ++ (e.checked?.map Entry.check).toList

def noticeEntries (e : Moment) (registry : Nat) : List Entry :=
  match e.given? with
  | none => []
  | some (sink, n) => List.replicate (sink.layers registry) (.notice n.kind.label)

def entries (e : Moment) (registry : Nat) : List Entry :=
  e.noticeEntries registry ++ if e.holds registry then e.outcomes else []

variable {registry : Nat} {x : Entry}

theorem count_noticeEntries (e : Moment) (registry : Nat) (kind : NoticeKind) :
    (e.noticeEntries registry).count (.notice kind.label) = e.countedAs registry kind := by
  unfold noticeEntries countedAs
  cases e.given? with
  | none => rfl
  | some given => simp [List.count_replicate, NoticeKind.label_inj]

theorem count_outcomes_notice (e : Moment) (label : Text) : e.outcomes.count (.notice label) = 0 := by
  unfold outcomes
  cases e.issued?.join <;> cases e.checked? <;> rfl

theorem count_entries (other : ∀ label, x ≠ .notice label) (e : Moment) (registry : Nat) :
    (e.entries registry).count x = if e.holds registry then e.outcomes.count x else 0 := by
  have unnoticed : (e.noticeEntries registry).count x = 0 := by
    unfold noticeEntries
    cases e.given? with
    | none => rfl
    | some given => simp [List.count_replicate, (other _).symm]
  rw [entries, List.count_append, unnoticed, Nat.zero_add]
  split <;> rfl

theorem count_issue (e : Moment) (registry : Nat) :
    (e.entries registry).count .issue =
      if e.holds registry ∧ e.issued?.join.isSome then 1 else 0 := by
  have outcome : e.outcomes.count .issue = if e.issued?.join.isSome then 1 else 0 := by
    unfold outcomes
    cases e.issued?.join <;> cases e.checked? <;> rfl
  rw [count_entries (x := .issue) (fun _ => nofun), outcome]
  cases e.holds registry <;> simp

theorem count_check (e : Moment) (registry : Nat) (valid : Bool) :
    (e.entries registry).count (.check valid) =
      if e.holds registry ∧ e.checked? = some valid then 1 else 0 := by
  have outcome : e.outcomes.count (.check valid) = if e.checked? = some valid then 1 else 0 := by
    unfold outcomes
    cases e.issued?.join <;> cases e.checked? <;> simp [List.count_singleton]
  rw [count_entries (x := .check valid) (fun _ => nofun), outcome]
  cases e.holds registry <;> simp

theorem count_notice (e : Moment) (registry : Nat) (kind : NoticeKind) :
    (e.entries registry).count (.notice kind.label) = e.countedAs registry kind := by
  rw [entries, List.count_append, count_noticeEntries]
  split
  · rw [count_outcomes_notice, Nat.add_zero]
  · rfl

end Moment

namespace Deployment

variable {d : Deployment} {registry : Nat} {m : Metrics} {c : Command}

theorem entries_issue {name : Text} {m : Manager} (found : d.managers.get? name = some m)
    (session : Option Text) (registry : Nat) :
    Moment.entries ⟨d, .issue name session⟩ registry =
      entriesBy m (issueToken session d.clock (d.sourceOf m)).1.notice
        (issueOutcome? (issueToken session d.clock (d.sourceOf m)).1) registry := by
  simp only [Moment.entries, Moment.noticeEntries, Moment.outcomes, Moment.given?_issue found, Moment.issued?_issue found,
    Moment.holds, Moment.asked?, found, entriesBy, issueOutcome?, Option.any_some, beq_iff_eq]
  generalize (issueToken session d.clock (d.sourceOf m)).1 = call
  obtain ⟨result, notice, draws, reads, debug⟩ := call
  cases result with
  | error fault => cases notice <;> rfl
  | ok answer => cases answer <;> cases notice <;> rfl

theorem entries_check {name : Text} {m : Manager} (found : d.managers.get? name = some m)
    (token : Value) (session : Option Text) (registry : Nat) :
    Moment.entries ⟨d, .check name token session⟩ registry =
      entriesBy m (checkToken token session m.allowedExpiry d.clock).notice
        (checkOutcome? (checkToken token session m.allowedExpiry d.clock)) registry := by
  simp only [Moment.entries, Moment.noticeEntries, Moment.outcomes, Moment.given?_check found,
    Moment.checked?_check found, Moment.holds, Moment.asked?, found, entriesBy, checkOutcome?,
    Option.any_some, beq_iff_eq]
  generalize checkToken token session m.allowedExpiry d.clock = call
  obtain ⟨result, notice, draws, reads, debug⟩ := call
  cases notice <;> cases result <;> rfl

def Stands (registry : Nat) (m : Metrics) (r : Reply × Deployment) : Prop :=
  r.2.registries[registry]? = some m

theorem Stands.keep {made : Except Fault Manager} {name : Text} {a : Manager → Answer}
    (found : d.registries[registry]? = some m) : Stands registry m (d.keep name made a) :=
  keep_ind (fun _ _ => found) fun _ _ => found

theorem after_registry {e : Moment} (indirect : e.command.records = false)
    (found : e.before.registries[registry]? = some m) :
    e.after.registries[registry]? = some (m.enterAll (e.entries registry)) := by
  obtain ⟨d, c⟩ := e
  cases c with
  | recordIssue => cases indirect
  | recordCheck valid => cases indirect
  | recordNotice label => cases indirect
  | construct name a => exact Stands.keep found
  | configure name arguments metrics =>
    refine configure_ind (P := Stands registry m) (fun _ _ => found) fun _ _ _ added => ?_
    -- What is added comes last, so every registry keeps its place.
    have within := (List.getElem?_eq_some_iff.mp found).1
    exact (List.getElem?_append_left within).trans found
  | issue name session =>
    rw [Moment.after, step, withManager]
    cases held : d.managers.get? name with
    | none =>
      simp only [Moment.entries, Moment.noticeEntries, Moment.given?, Moment.holds, Moment.asked?, held]
      exact found
    | some manager =>
      simp only [entries_issue held, issue_after, registry_book, withSource_registries, found]
      rfl
  | check name token session =>
    rw [Moment.after, step, withManager]
    cases held : d.managers.get? name with
    | none =>
      simp only [Moment.entries, Moment.noticeEntries, Moment.given?, Moment.holds, Moment.asked?, held]
      exact found
    | some manager =>
      simp only [entries_check held, check_after, registry_book, found]
      rfl
  | setTokenName name v =>
    exact withManager_ind (P := Stands registry m) found fun _ _ => Stands.keep found
  | setAllowedExpiry name v =>
    exact withManager_ind (P := Stands registry m) found fun _ _ => Stands.keep found
  | setSink name v =>
    exact withManager_ind (P := Stands registry m) found fun _ _ => Stands.keep found
  | notify name n =>
    simp only [Moment.after, step, Moment.entries, Moment.noticeEntries, Moment.given?]
    rcases d.notify_cases name n with ⟨absent, _, refused⟩ | ⟨sink, named, notified⟩
    · rw [refused, absent]
      exact found
    · simp only [notified, named, registry_book, found, Option.map_some, noticed]
      exact congrArg (some <| m.enterAll ·) (List.append_nil _).symm
  | _ =>
    rw [Moment.after, (step_aside rfl d).2.1]
    exact found

theorem run_registry {cs : List Command} (indirect : ∀ c ∈ cs, c.records = false)
    (found : d.registries[registry]? = some m) :
    (d.run cs).2.registries[registry]? =
      some (m.enterAll ((d.history cs).flatMap (·.entries registry))) := by
  -- The registry is generalised, since the first step enters something in it.
  induction cs generalizing d m with
  | nil => exact found
  | cons c cs ih =>
    rw [List.forall_mem_cons] at indirect
    have next : (d.step c).2.registries[registry]? = _ :=
      after_registry (e := ⟨d, c⟩) indirect.1 found
    rw [history, List.flatMap_cons, Metrics.enterAll_append]
    exact ih indirect.2 next

end Deployment

end SealedToken
