import SealedToken.Proofs.Deployment.Booking
import SealedToken.Proofs.Token.Requesting

namespace SealedToken.Deployment

variable {d : Deployment} {m : Manager} {session : Option Text}

structure Issues (d : Deployment) (m : Manager) (session : Option Text)
    (call : Call (Option Text)) : Prop where
  made : (issueToken session d.clock (d.sourceOf m)).1 = call
  reply : (d.issue m session).1 = m.issueReply call
  asked : ((d.issue m session).2.sourceOf m).asked = (d.sourceOf m).asked ++ call.draws

theorem sourceOf_withSource (d : Deployment) (m : Manager) (source : RandomSource) :
    (d.withSource m source).sourceOf m = source := by
  unfold withSource sourceOf
  cases m.givenSource <;> rfl

theorem issues_of_call {call : Call (Option Text)}
    (made : (issueToken session d.clock (d.sourceOf m)).1 = call) : d.Issues m session call := by
  refine ⟨made, ?_, ?_⟩
  · rw [issue_reply, made]
  · have kept : ∀ (d : Deployment) entries, (d.book entries).sourceOf m = d.sourceOf m :=
      fun _ _ => rfl
    rw [issue_after, kept, sourceOf_withSource, issueToken_asked, made]

theorem issue_registry (d : Deployment) (m : Manager) (session : Option Text) (registry : Nat) :
    (d.issue m session).2.registries[registry]? = d.registries[registry]?.map
      (·.enterAll (entriesBy m (issueToken session d.clock (d.sourceOf m)).1.notice
        (issueOutcome? (issueToken session d.clock (d.sourceOf m)).1) registry)) := by
  rw [issue_after, registry_book, withSource_registries]

theorem count_issue_entriesBy (m : Manager) (notice : Option Notice) (outcome : Option Entry)
    (registry : Nat) :
    (entriesBy m notice outcome registry).count .issue =
      if outcome = some .issue ∧ m.metrics = some registry then 1 else 0 := by
  have unnoticed : (noticed m.sink notice registry).count .issue = 0 := by
    apply List.count_eq_zero.mpr
    intro member
    cases isNotice_of_noticed member
  have counted : outcome.toList.count .issue = if outcome = some .issue then 1 else 0 := by
    cases outcome with
    | none => rfl
    | some entry => simp [List.count_singleton]
  rw [entriesBy, List.count_append, unnoticed, Nat.zero_add]
  by_cases holds : m.metrics = some registry
  · simp only [holds, ↓reduceIte, and_true, counted]
  · simp only [holds, ↓reduceIte, and_false, List.count_nil]

theorem issueOutcome?_eq_issue_iff (call : Call (Option Text)) :
    issueOutcome? call = some .issue ↔ IssueEnding.shownIn call = .issued := by
  obtain ⟨result, notice, draws, reads, debug⟩ := call
  cases result with
  | error fault => cases fault <;> exact ⟨nofun, nofun⟩
  | ok answer =>
    cases answer with
    | some token => exact ⟨fun _ => rfl, fun _ => rfl⟩
    | none =>
      cases notice with
      | none => exact ⟨nofun, nofun⟩
      | some n => cases n <;> exact ⟨nofun, nofun⟩

/-- A request is one call with one ending, which is decided by the conditions and shows in all that
is done. The tokens of a registry become more exactly if one is issued by a manager that holds it. -/
theorem issue_has_one_ending (d : Deployment) (m : Manager) (session : Option Text) :
    ∃ call ending, d.Issues m session call ∧
      (∀ ending' : IssueEnding,
        (ending'.Condition session (d.drawn m) d.clock ↔ ending' = ending) ∧
          (ending'.Outcome session (d.drawn m) d.clock call ↔ ending' = ending)) ∧
      ∀ registry : Nat, (d.issue m session).2.registries[registry]?.map
          (fun counters : Metrics => counters.value "csrf_tokens_generated_total" []) =
        d.registries[registry]?.map fun counters : Metrics =>
          counters.value "csrf_tokens_generated_total" [] +
            if ending = .issued ∧ m.metrics = some registry then 1 else 0 := by
  obtain ⟨ending, condition⟩ := IssueEnding.exists_condition session (d.drawn m) d.clock
  have outcome := condition.outcome
  refine ⟨_, ending, issues_of_call rfl, ?_, ?_⟩
  · intro ending'
    constructor
    · constructor
      · intro condition'
        exact condition'.outcome.unique outcome
      · rintro rfl
        exact condition
    · constructor
      · intro outcome'
        exact outcome'.unique outcome
      · rintro rfl
        exact outcome
  · intro registry
    rw [issue_registry, Option.map_map]
    congr 1
    funext counters
    rw [Function.comp_apply, Metrics.value_issued, Metrics.value_issued, Metrics.issued_enterAll,
      count_issue_entriesBy]
    simp only [issueOutcome?_eq_issue_iff, outcome.shownIn]

end SealedToken.Deployment
