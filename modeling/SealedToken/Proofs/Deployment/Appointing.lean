import SealedToken.Proofs.Deployment.Configuration
import SealedToken.Proofs.Settings.Precedence

namespace SealedToken

namespace Command

def addresses (name : Text) : Command → Bool
  | .inspect other | .issue other _ | .check other _ _ => other = name
  | .setTokenName other _ | .setAllowedExpiry other _ | .setSink other _ => other = name
  | _ => false

/-- Whether a command makes no manager under a name, and gives that of the name no sink but with so
many layers that count in a registry. -/
def retains (name : Text) (registry layers : Nat) : Command → Bool
  | .construct other _ | .configure other _ _ => other ≠ name
  | .setSink other (some sink) => other ≠ name || sink.layers registry = layers
  | _ => true

end Command

/-- Whether a manager counts in a registry: its outcomes, and each notice once. Otherwise it counts
nothing there. -/
structure Manager.CountsIn (m : Manager) (registry : Nat) (counts : Bool) : Prop where
  holds : (m.metrics == some registry) = counts
  layers : m.sink.layers registry = counts.toNat

def Deployment.CountsIn (d : Deployment) (name : Text) (registry : Nat) (counts : Bool) : Prop :=
  ∃ m, d.managers.get? name = some m ∧ m.CountsIn registry counts

def Moment.tally (e : Moment) : List Entry :=
  (e.given?.map fun (_, n) => Entry.notice n.kind.label).toList ++ e.outcomes

theorem SinkChoice.layers_sink (k : SinkChoice) (registry : Nat) : k.sink.layers registry = 0 := by
  cases k <;> rfl

theorem Settings.managerWith_countsIn (x : Settings) (registry : Nat) (passed : Passed) (i : Nat) :
    (x.managerWith registry passed).CountsIn i (x.metricsEnabled && registry == i) := by
  simp only [Settings.managerWith, Settings.manager]
  cases x.metricsEnabled with
  | false => exact ⟨rfl, x.diagnostics.layers_sink i⟩
  | true =>
    refine ⟨rfl, ?_⟩
    simp only [↓reduceIte, Sink.layers, x.diagnostics.layers_sink, Nat.add_zero, Bool.true_and]
    by_cases same : registry = i
    · simp [same]
    · simp [same, beq_eq_false_iff_ne.mpr same]

variable {name : Text} {registry : Nat} {counts : Bool} {c : Command} {m m' : Manager}

theorem Manager.CountsIn.of_sets (counting : m.CountsIn registry counts) (sets : c.Sets name m m')
    (retains : c.retains name registry counts.toNat = true) : m'.CountsIn registry counts := by
  cases sets with
  | tokenName => exact ⟨counting.holds, counting.layers⟩
  | allowedExpiry => exact ⟨counting.holds, counting.layers⟩
  | sink _ s =>
    refine ⟨counting.holds, ?_⟩
    simpa [Command.retains] using retains

namespace Moment

variable {e : Moment}

theorem entries_of_asked {n : Option Notice} (asked : e.asked? = some m)
    (given : e.given? = n.map (m.sink, ·)) (counting : m.CountsIn registry counts) :
    e.entries registry = if counts then e.tally else [] := by
  have holds : e.holds registry = counts := by
    rw [Moment.holds, asked]
    exact counting.holds
  have noticed : e.noticeEntries registry =
      if counts then (n.map fun n => Entry.notice n.kind.label).toList else [] := by
    rw [noticeEntries, given]
    cases n with
    | none => cases counts <;> rfl
    | some n =>
      simp only [Option.map_some, counting.layers]
      cases counts <;> rfl
  rw [entries, holds, noticed, tally, given, Option.map_map]
  cases counts <;> rfl

theorem entries_of_countsIn (addressed : e.command.addresses name = true)
    (counting : e.before.CountsIn name registry counts) :
    e.entries registry = if counts then e.tally else [] := by
  obtain ⟨d, c⟩ := e
  obtain ⟨m, held, counting⟩ := counting
  cases c with
  | issue other session =>
    obtain rfl : other = name := of_decide_eq_true addressed
    exact entries_of_asked held (given?_issue held session) counting
  | check other token session =>
    obtain rfl : other = name := of_decide_eq_true addressed
    exact entries_of_asked held (given?_check held token session) counting
  | inspect _ | setTokenName _ _ | setAllowedExpiry _ _ | setSink _ _ =>
    -- Nothing is given and nothing asked, so there is nothing to count.
    exact (ite_self []).symm
  | _ => cases addressed

end Moment

namespace Deployment

variable {d : Deployment} {cs : List Command}

theorem command_mem_of_history {e : Moment} (member : e ∈ d.history cs) : e.command ∈ cs := by
  induction cs generalizing d with
  | nil => cases member
  | cons c cs ih =>
    rcases List.mem_cons.mp member with rfl | member
    · exact List.mem_cons_self
    · exact List.mem_cons_of_mem _ (ih member)

theorem CountsIn.put (counting : d.CountsIn name registry counts) {other : Text}
    (apart : other ≠ name) (m : Manager) :
    Deployment.CountsIn { d with managers := d.managers.put other m } name registry counts := by
  obtain ⟨m', held, counting⟩ := counting
  exact ⟨m', (Named.get?_put_of_ne _ _ apart.symm).trans held, counting⟩

theorem CountsIn.setter (counting : d.CountsIn name registry counts) (setter : c.isSetter = true)
    (retains : c.retains name registry counts.toNat = true) :
    (d.step c).2.CountsIn name registry counts := by
  rcases step_setter setter d with ⟨refusal, refused⟩ | ⟨other, m, m', _, sets, held, set⟩
  · rw [refused]
    exact counting
  · rw [set]
    by_cases same : other = name
    · subst same
      obtain ⟨_, held', counting⟩ := counting
      cases held.symm.trans held'
      exact ⟨m', Named.get?_put_self _ _ _, counting.of_sets sets retains⟩
    · exact counting.put same m'

theorem countsIn_after {e : Moment}
    (retains : e.command.retains name registry counts.toNat = true)
    (counting : e.before.CountsIn name registry counts) : e.after.CountsIn name registry counts := by
  obtain ⟨d, c⟩ := e
  cases plain : c.configures with
  | false =>
    rw [Moment.after, CountsIn, step_managers plain]
    exact counting
  | true =>
    cases c with
    | construct other a =>
      have apart : other ≠ name := of_decide_eq_true retains
      exact keep_ind (P := fun r => r.2.CountsIn name registry counts) (fun _ _ => counting)
        fun m _ => counting.put apart m
    | configure other arguments metrics =>
      have apart : other ≠ name := of_decide_eq_true retains
      exact configure_ind (P := fun r => r.2.CountsIn name registry counts) (fun _ _ => counting)
        fun s _ chosen _ => counting.put apart (s.manager chosen)
    | setTokenName _ _ | setAllowedExpiry _ _ | setSink _ _ => exact counting.setter rfl retains
    | _ => cases plain

theorem records_of_addresses (addressed : c.addresses name = true) : c.records = false := by
  cases c with
  | recordIssue | recordCheck _ | recordNotice _ => cases addressed
  | _ => rfl

/-- As long as a manager is retained, it enters in a registry what it entered there at first. -/
theorem run_counts (counting : d.CountsIn name registry counts)
    (retained : ∀ c ∈ cs, c.retains name registry counts.toNat = true) :
    ∀ e ∈ d.history cs, e.command.addresses name = true →
      ∀ r : Metrics, e.before.registries[registry]? = some r →
        e.after.registries[registry]? = some (r.enterAll (if counts then e.tally else [])) := by
  have throughout := (run_keeps (P := (·.CountsIn name registry counts)) counting fun e member =>
    countsIn_after (retained _ (command_mem_of_history member))).1
  intro e member addressed r found
  rw [after_registry (records_of_addresses addressed) found,
    Moment.entries_of_countsIn addressed (throughout e member)]

def registryFor (d : Deployment) (passed : Passed) : Nat :=
  if passed.metrics then shared else d.registries.length

def furnish (d : Deployment) (x : Settings) (passed : Passed) : Deployment :=
  { d with registries := d.registries ++ if !passed.metrics && x.metricsEnabled then [{}] else [] }

end Deployment

def Settings.baseSink (x : Settings) : Sink :=
  match x.diagnostics with
  | .stderr => .stderr
  | .log => .log
  | .silent => .silent

def Settings.arguments (x : Settings) (registry : Nat) (passed : Passed) : ManagerArguments where
  tokenName := some x.tokenName
  allowedExpiry := some x.allowedExpiry
  sink := some (if x.metricsEnabled then .counting registry x.baseSink else x.baseSink)
  metrics := if x.metricsEnabled then some registry else none
  source := passed.source
  service := passed.service

namespace Deployment

/-- Whether settings make a manager that answers to a name as if it had been constructed, and that
counts where they say. -/
structure Appoints (d : Deployment) (name : Text) (x : Settings) (passed : Passed) : Prop where
  answered : ∃ m, (d.appoint name x passed).1.result = .ok (.manager m)
  constructed : ((d.furnish x passed).step
    (.construct name (x.arguments (d.registryFor passed) passed))).1.result = .ok .done
  alike : ∀ cs, (d.appoint name x passed).2.run cs = ((d.furnish x passed).step
    (.construct name (x.arguments (d.registryFor passed) passed))).2.run cs
  untouched : ∀ i cs, (x.metricsEnabled = true → d.registryFor passed ≠ i) →
    (∀ c ∈ cs, c.retains name i 0 = true) →
      ∀ e ∈ (d.appoint name x passed).2.history cs, e.command.addresses name = true →
        ∀ r, e.before.registries[i]? = some r → e.after.registries[i]? = some r
  fresh : x.metricsEnabled = true → passed.metrics = false →
    (d.appoint name x passed).2.registries[d.registryFor passed]? = some {}
  counted : ∀ cs, x.metricsEnabled = true →
    (∀ c ∈ cs, c.retains name (d.registryFor passed) 1 = true) →
      ∀ e ∈ (d.appoint name x passed).2.history cs, e.command.addresses name = true →
        ∀ r, e.before.registries[d.registryFor passed]? = some r →
          e.after.registries[d.registryFor passed]? = some (r.enterAll e.tally)

section Appointing

variable {x : Settings} {passed : Passed}

theorem arguments_eq (x : Settings) (registry : Nat) (passed : Passed) :
    x.arguments registry passed =
      { x.managerArguments registry with source := passed.source, service := passed.service } := by
  have sink : x.baseSink = x.diagnostics.sink := by
    rw [Settings.baseSink]
    cases x.diagnostics <;> rfl
  rw [Settings.arguments, sink]
  rfl

theorem construct_arguments (apart : (passed.service && passed.source) = false) (d : Deployment)
    (name : Text) (x : Settings) (registry : Nat) :
    d.step (.construct name (x.arguments registry passed)) =
      ({ result := .ok .done },
        { d with managers := d.managers.put name (x.managerWith registry passed) }) := by
  rw [step, arguments_eq, Manager.new_managerArguments apart x registry]
  rfl

theorem appoint_after (apart : (passed.service && passed.source) = false) (d : Deployment)
    (name : Text) (x : Settings) :
    (d.appoint name x passed).2 = ((d.furnish x passed).step
      (.construct name (x.arguments (d.registryFor passed) passed))).2 := by
  rw [appoint_eq apart, construct_arguments apart]
  rfl

theorem appoint_countsIn (apart : (passed.service && passed.source) = false) (d : Deployment)
    (name : Text) (x : Settings) (i : Nat) :
    (d.appoint name x passed).2.CountsIn name i (x.metricsEnabled && d.registryFor passed == i) := by
  rw [appoint_eq apart]
  exact ⟨_, Named.get?_put_self _ _ _, x.managerWith_countsIn _ passed i⟩

theorem appoints (apart : (passed.service && passed.source) = false) (d : Deployment)
    (name : Text) (x : Settings) : d.Appoints name x passed where
  answered := ⟨_, congrArg (·.1.result) (appoint_eq apart d name x)⟩
  constructed := congrArg (·.1.result) (construct_arguments apart _ name x _)
  alike cs := by rw [appoint_after apart]
  untouched i cs elsewhere retained e member addressed r found := by
    have counting := appoint_countsIn apart d name x i
    have apart' : (x.metricsEnabled && d.registryFor passed == i) = false := by
      cases enabled : x.metricsEnabled with
      | false => rfl
      | true => exact beq_eq_false_iff_ne.mpr (elsewhere enabled)
    rw [apart'] at counting
    exact run_counts counting retained e member addressed r found
  fresh enabled own := by
    rw [appoint_eq apart, registryFor, own, enabled]
    exact List.getElem?_concat_length
  counted cs enabled retained e member addressed r found := by
    have counting := appoint_countsIn apart d name x (d.registryFor passed)
    rw [enabled, beq_self_eq_true] at counting
    exact run_counts counting retained e member addressed r found

end Appointing

/-- Settings take what the value of the first source stands for and look at nothing else; every one
that is wrong is reported, an allowed age below zero as such; and those that are read make a manager
like a constructor, whatever is passed on. -/
theorem settings_decide_manager {s : Sources} (once : s.SpelledOnce) :
    (∃ taken : (f : Setting) → Except FieldProblem f.Kind,
      (∀ f r, s.Takes f r ↔ r = taken f) ∧
      (∀ o v, s.Supplies o .allowedExpiry v → ¬ s.Masks o .allowedExpiry →
        (taken .allowedExpiry = .error .belowZero ↔ ∃ n, n < 0 ∧ v.IsInteger n)) ∧
      (∀ x, Settings.resolve s = .ok x ↔ ∀ f, taken f = .ok (f.of x)) ∧
      ∀ es, Settings.resolve s = .error es ↔
        (∃ f p, taken f = .error p) ∧ es = Settings.errors taken) ∧
    (∀ s' : Sources, s'.SpelledOnce → s.SameUnmasked s' →
      Settings.resolve s' = Settings.resolve s) ∧
    ∀ x, Settings.resolve s = .ok x → ∀ (d : Deployment) (name : Text) (passed : Passed),
      (passed.service && passed.source) = false → d.Appoints name x passed := by
  refine ⟨⟨s.taken, fun f r => Sources.takes_iff once, ?_, fun x => Settings.resolve_eq_ok_iff,
    fun es => Settings.resolve_eq_error_iff⟩, ?_, ?_⟩
  · intro o v supplies first
    have taken : v.readExpiry = s.taken .allowedExpiry :=
      (Sources.takes_iff once).mp (Sources.takes_read supplies first)
    rw [← taken]
    exact Value.readExpiry_eq_belowZero_iff
  · intro s' once' same
    exact Settings.resolve_of_taken (Sources.taken_of_sameUnmasked once once' same)
  · intro x _ d name passed apart
    exact appoints apart d name x

/-- An allowed age of five seconds masks one below zero, and a sink is taken from the file. The
manager that comes of it rejects a token and leaves the registry that it was passed as it was. -/
theorem settings_decide_manager_masked :
    let s : Sources := { arguments := [("csrf_allowed_expiry_ms", .int 5000)],
                         file := [("CSRF_DIAGNOSTICS", some "structlog"), ("LOG_JSON", none)] }
    let s' : Sources := { s with environment := [("CSRF_ALLOWED_EXPIRY_MS", "-1")] }
    let x : Settings := { allowedExpiry := 5000, diagnostics := .log }
    let passed : Passed := { metrics := true, source := false, service := true }
    let d := (showing (.whole 107)).appoint "a" x passed
    Settings.resolve s = .ok x ∧ Settings.resolve s' = .ok x ∧
      d.1.result = .ok (.manager ⟨"csrf_token", 5000, .log, none, true⟩) ∧
      (d.2.step (.check "a" .null (some letters))).2.registries[shared]? = some {} := by
  intro s s' x passed d
  have once : s.SpelledOnce := by decide +kernel
  have once' : s'.SpelledOnce := by decide +kernel
  have same : s.SameUnmasked s' := by
    intro f o
    cases o with
    | arguments | file => exact .inr fun _ => Iff.rfl
    | environment =>
      cases f with
      | allowedExpiry =>
        exact .inl ⟨.arguments, .int 5000, rfl, _, List.mem_cons_self, by decide +kernel⟩
      | _ =>
        refine .inr fun v => ⟨?_, nofun⟩
        rintro ⟨n, member, named⟩
        cases List.mem_singleton.mp member
        exact absurd named (by decide +kernel)
  have resolved : Settings.resolve s = .ok x := by decide +kernel
  obtain ⟨_, masked, made⟩ := settings_decide_manager once
  have appoints := made x resolved (showing (.whole 107)) "a" passed rfl
  refine ⟨resolved, (masked s' once' same).trans resolved, rfl, ?_⟩
  exact appoints.untouched shared [.check "a" .null (some letters)] nofun (by decide) _
    List.mem_cons_self rfl {} rfl

end Deployment

end SealedToken
