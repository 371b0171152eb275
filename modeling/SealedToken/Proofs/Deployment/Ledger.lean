import Mathlib.Algebra.GroupWithZero.Nat
import SealedToken.Proofs.Deployment.Wiring

namespace SealedToken

theorem countP_eq_sum {α : Type} (p : α → Bool) (xs : List α) :
    xs.countP p = (xs.map fun x => if p x then 1 else 0).sum := by
  induction xs with
  | nil => rfl
  | cons x xs ih =>
    rw [List.countP_cons, List.map_cons, List.sum_cons, ih, Nat.add_comm]

namespace Moment

variable {registry : Nat} {es : List Moment}

theorem countedAs_kinds (e : Moment) (registry : Nat) :
    e.countedAs registry .misuse + e.countedAs registry .validation +
      e.countedAs registry .internal = e.counted registry := by
  unfold countedAs counted
  cases e.given? with
  | none => rfl
  | some given =>
    obtain ⟨sink, n⟩ := given
    cases n <;> simp [Notice.kind]

theorem sum_countedAs_kinds (es : List Moment) (registry : Nat) :
    (es.map (·.countedAs registry .misuse)).sum + (es.map (·.countedAs registry .validation)).sum +
      (es.map (·.countedAs registry .internal)).sum = (es.map (·.counted registry)).sum := by
  induction es with
  | nil => rfl
  | cons e es ih =>
    have kinds := e.countedAs_kinds registry
    simp only [List.map_cons, List.sum_cons]
    omega

theorem sum_counted_of_wired (wired : ∀ e ∈ es, e.before.Wired registry) :
    (es.map (·.counted registry)).sum =
      es.countP (·.issued? = some none) + es.countP (·.checked? = some false) +
        ((es.filter (·.direct)).map (·.counted registry)).sum := by
  induction es with
  | nil => rfl
  | cons e es ih =>
    rw [List.forall_mem_cons] at wired
    have counted := counted_of_wired wired.1
    have rest := ih wired.2
    simp only [List.map_cons, List.sum_cons, List.countP_cons, List.filter_cons, decide_eq_true_eq]
    cases given : e.direct with
    | false =>
      rw [given] at counted
      simp only [Bool.false_eq_true, ↓reduceIte] at counted ⊢
      omega
    | true =>
      simp only [given, ↓reduceIte, List.map_cons, List.sum_cons] at counted ⊢
      omega

def ledger (service version : Text) (es : List Moment) (registry : Nat) : Metrics :=
  Metrics.enterAll { service, version } (es.flatMap (·.entries registry))

variable {service version : Text}

theorem ledger_issued :
    (ledger service version es registry).value "csrf_tokens_generated_total" [] =
      es.countP fun e => e.holds registry ∧ e.issued?.join.isSome := by
  rw [Metrics.value_issued, ledger, Metrics.issued_enterAll, List.count_flatMap, countP_eq_sum,
    Nat.zero_add]
  simp only [Function.comp_def, count_issue, decide_eq_true_eq]

theorem ledger_checked (valid : Bool) :
    (ledger service version es registry).value "csrf_tokens_validated_total"
        [("result", .text (Metrics.resultLabel valid))] =
      es.countP fun e => e.holds registry ∧ e.checked? = some valid := by
  have none_yet : Counter.count [] (Metrics.resultLabel valid) = 0 := rfl
  rw [Metrics.value_checked, ledger, Metrics.count_checked_enterAll, none_yet,
    List.count_flatMap, countP_eq_sum, Nat.zero_add]
  simp only [Function.comp_def, count_check, decide_eq_true_eq]

theorem ledger_noticed (kind : NoticeKind) :
    (ledger service version es registry).value "csrf_diagnostics_total"
        [("kind", .text kind.label)] =
      (es.map (·.countedAs registry kind)).sum := by
  have none_yet : Counter.count [] kind.label = 0 := rfl
  rw [Metrics.value_notices, ledger, Metrics.count_notices_enterAll, none_yet,
    List.count_flatMap, Nat.zero_add]
  simp only [Function.comp_def, count_notice]

theorem ledger_noticed_kinds :
    (ledger service version es registry).value "csrf_diagnostics_total"
          [("kind", .text NoticeKind.misuse.label)] +
        (ledger service version es registry).value "csrf_diagnostics_total"
          [("kind", .text NoticeKind.validation.label)] +
        (ledger service version es registry).value "csrf_diagnostics_total"
          [("kind", .text NoticeKind.internal.label)] =
      (es.map (·.counted registry)).sum := by
  rw [ledger_noticed, ledger_noticed, ledger_noticed, sum_countedAs_kinds]

end Moment

namespace Deployment

variable {d : Deployment} {registry : Nat} {service version : Text} {cs : List Command}

/-- What a registry counts is what happened while it was held. If all managers are made from settings
with metrics enabled and keep their sinks, every rejected call counts as one notice. -/
theorem run_keeps_ledger (fresh : d.registries[registry]? = some { service, version })
    (indirect : ∀ c ∈ cs, c.records = false) :
    ∃ m, (d.run cs).2.registries[registry]? = some m ∧
      m.value "csrf_tokens_generated_total" [] =
        (d.history cs).countP (fun e => e.holds registry ∧ e.issued?.join.isSome) ∧
      (∀ valid,
        m.value "csrf_tokens_validated_total" [("result", .text (Metrics.resultLabel valid))] =
          (d.history cs).countP fun e => e.holds registry ∧ e.checked? = some valid) ∧
      (∀ kind : NoticeKind,
        m.value "csrf_diagnostics_total" [("kind", .text kind.label)] =
          ((d.history cs).map (·.countedAs registry kind)).sum) ∧
      (d.Wired registry → (∀ e ∈ d.history cs, e.keepsWiring registry) →
        m.value "csrf_diagnostics_total" [("kind", .text "misuse")] +
            m.value "csrf_diagnostics_total" [("kind", .text "validation")] +
            m.value "csrf_diagnostics_total" [("kind", .text "internal")] =
          (d.history cs).countP (·.issued? = some none) +
            (d.history cs).countP (·.checked? = some false) +
            (((d.history cs).filter (·.direct)).map (·.counted registry)).sum) := by
  refine ⟨Moment.ledger service version (d.history cs) registry, run_registry indirect fresh,
    Moment.ledger_issued, Moment.ledger_checked, Moment.ledger_noticed, ?_⟩
  intro wired keeps
  have throughout : ∀ e ∈ d.history cs, e.before.Wired registry :=
    (run_keeps (P := (·.Wired registry)) wired fun e member => wired_after (keeps e member)).1
  rw [← Moment.sum_counted_of_wired throughout]
  exact Moment.ledger_noticed_kinds

def wiredRun : List Command :=
  [.configure "a" (some [("CSRF_METRICS_ENABLED", .bool true)]) true, .issue "a" (some letters),
    .issue "a" (some "short"), .check "a" .null (some letters), .setTokenName "a" none]

theorem wiredRun_ledger :
    ∃ m, ((showing (.whole 0)).run wiredRun).2.registries[0]? = some m ∧
      m.value "csrf_tokens_generated_total" [] = 1 ∧
      m.value "csrf_tokens_validated_total" [("result", .text "invalid")] = 1 ∧
      m.value "csrf_diagnostics_total" [("kind", .text "misuse")] = 2 ∧
      m.value "csrf_diagnostics_total" [("kind", .text "misuse")] +
          m.value "csrf_diagnostics_total" [("kind", .text "validation")] +
          m.value "csrf_diagnostics_total" [("kind", .text "internal")] = 2 := by
  have fresh : (showing (.whole 0)).registries[0]? =
    some { service := "csrfguard", version := "0.1.0" } := rfl
  have indirect : ∀ c ∈ wiredRun, c.records = false := by decide
  obtain ⟨m, found, issued, checked, noticed, all⟩ :=
    run_keeps_ledger fresh indirect
  have wired : (showing (.whole 0)).Wired 0 := nofun
  have keeps : ∀ e ∈ (showing (.whole 0)).history wiredRun, e.keepsWiring 0 := by
    decide +kernel
  refine ⟨m, found, issued.trans ?_, (checked false).trans ?_, (noticed .misuse).trans ?_,
    (all wired keeps).trans ?_⟩
  · decide +kernel
  · decide +kernel
  · decide +kernel
  · decide +kernel

end Deployment

end SealedToken
