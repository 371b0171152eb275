import Mathlib.Data.List.Forall2
import SealedToken.Proofs.Deployment.Entries
import SealedToken.Proofs.Deployment.Thinning
import SealedToken.Proofs.Deployment.View
import SealedToken.Proofs.Notice.Sink

namespace SealedToken

variable {α : Type} {look : Sink → α}

def Reply.received (r : Reply) : List Delivery :=
  r.deliveries.filter (!·.isCounted)

def Sink.unseen : Sink → Unit :=
  fun _ => ()

namespace Moment

/-- Whether two moments give the same notice to sinks that look the same, draw the same bytes and, if
they are calls, are one call that is answered in the same way. -/
structure Matches (look : Sink → α) (e e' : Moment) : Prop where
  given : e.given?.map (fun (sink, n) => (look sink, n)) =
    e'.given?.map fun (sink, n) => (look sink, n)
  drawn : e.drawn = e'.drawn
  call : e.command.isCall → e.command = e'.command ∧ e.reply.result = e'.reply.result ∧
    e.reply.draws = e'.reply.draws ∧ e.reply.reads = e'.reply.reads ∧
    e.reply.debug = e'.reply.debug

theorem reply_received (e : Moment) :
    e.reply.received = (e.given?.map fun (sink, n) => sink.base.deliver n).getD [] := by
  rw [Reply.received, reply_deliveries]
  cases e.given? with
  | none => rfl
  | some given => exact given.1.uncounted_deliver given.2

theorem Matches.received {e e' : Moment} (same : Matches Sink.base e e') :
    e.reply.received = e'.reply.received := by
  have equal := congrArg (fun given => (given.map fun (base, n) => Sink.deliver n base).getD [])
    same.given
  simp only [Option.map_map, Function.comp_def] at equal
  rw [reply_received, reply_received]
  exact equal

theorem records_of_given {e : Moment} {given : Sink × Notice} (found : e.given? = some given) :
    e.command.records = false := by
  obtain ⟨d, c⟩ := e
  cases c with
  | recordIssue => cases found
  | recordCheck valid => cases found
  | recordNotice label => cases found
  | _ => rfl

theorem value_of_given {e : Moment} {registries : List Nat} {base : Sink} {n : Notice}
    (given : e.given? = some (Sink.layered registries base, n)) {registry : Nat}
    {counters : Metrics} (found : e.before.registries[registry]? = some counters) :
    ∃ counters', e.after.registries[registry]? = some counters' ∧ ∀ kind : NoticeKind,
      counters'.value "csrf_diagnostics_total" [("kind", .text kind.label)] =
        counters.value "csrf_diagnostics_total" [("kind", .text kind.label)] +
          if n.kind = kind then registries.count registry + base.layers registry else 0 := by
  refine ⟨_, Deployment.after_registry (records_of_given given) found, fun kind => ?_⟩
  rw [Metrics.value_notices, Metrics.value_notices, Metrics.count_notices_enterAll, count_notice,
    countedAs, given]
  simp only [Sink.layers_layered]

end Moment

namespace Deployment

variable {d d' : Deployment}

section Same

variable (same : d.view look = d'.view look)
include same

theorem manager_cases (name : Text) :
    (d.managers.get? name = none ∧ d'.managers.get? name = none) ∨
      ∃ m m', d.managers.get? name = some m ∧ d'.managers.get? name = some m' ∧
        m.view look = m'.view look := by
  have managers := managers_of_view same name
  cases held : d.managers.get? name with
  | none =>
    rw [held] at managers
    exact .inl ⟨rfl, Option.map_eq_none_iff.mp managers.symm⟩
  | some m =>
    rw [held] at managers
    obtain ⟨m', held', same'⟩ := Option.map_eq_some_iff.mp managers.symm
    exact .inr ⟨m, m', rfl, held', same'.symm⟩

theorem matches_issue (name : Text) (session : Option Text) :
    Moment.Matches look ⟨d, .issue name session⟩ ⟨d', .issue name session⟩ := by
  have clock : d.clock = d'.clock := congrArg View.clock same
  rcases manager_cases same name with ⟨absent, absent'⟩ | ⟨m, m', held, held', same'⟩
  · refine ⟨?_, ?_, fun _ => ⟨rfl, ?_⟩⟩
    · simp only [Moment.given?, absent, absent']
      rfl
    · simp only [Moment.drawn, absent, absent', Option.elim_none]
    · simp only [Moment.reply, step, withManager, absent, absent', and_self]
  · have looks : look m.sink = look m'.sink := congrArg Prod.snd same'
    have given : m.givenSource = m'.givenSource := congrArg (·.1.givenSource) same'
    have source := sourceOf_of_view same same'
    refine ⟨?_, ?_, fun _ => ⟨rfl, ?_⟩⟩
    · simp only [Moment.given?_issue held, Moment.given?_issue held', Option.map_map,
        Function.comp_def, looks, clock, source]
    · simp only [Moment.drawn, held, held', Option.elim_some, clock, source]
    · simp only [Moment.reply_issue held, Moment.reply_issue held', issue_reply,
        Manager.issueReply, given, clock, source, and_self]

theorem matches_check (name : Text) (token : Value) (session : Option Text) :
    Moment.Matches look ⟨d, .check name token session⟩ ⟨d', .check name token session⟩ := by
  have clock : d.clock = d'.clock := congrArg View.clock same
  rcases manager_cases same name with ⟨absent, absent'⟩ | ⟨m, m', held, held', same'⟩
  · refine ⟨?_, rfl, fun _ => ⟨rfl, ?_⟩⟩
    · simp only [Moment.given?, absent, absent']
      rfl
    · simp only [Moment.reply, step, withManager, absent, absent', and_self]
  · have looks : look m.sink = look m'.sink := congrArg Prod.snd same'
    have allowed : m.allowedExpiry = m'.allowedExpiry := congrArg (·.1.allowedExpiry) same'
    refine ⟨?_, rfl, fun _ => ⟨rfl, ?_⟩⟩
    · simp only [Moment.given?_check held, Moment.given?_check held', Option.map_map,
        Function.comp_def, looks, clock, allowed]
    · simp only [Moment.reply_check held, Moment.reply_check held', check_reply, Manager.reply,
        clock, allowed, and_self]

theorem matches_notify (name : Text) (n : Notice) :
    Moment.Matches look ⟨d, .notify name n⟩ ⟨d', .notify name n⟩ := by
  have sinks : (d.sinks.get? name).map (Option.map look) =
      (d'.sinks.get? name).map (Option.map look) := congrFun (congrArg View.sinks same) name
  have joined : (d.sinks.get? name).join.map look = (d'.sinks.get? name).join.map look := by
    rw [← Option.join_map_eq_map_join, sinks, Option.join_map_eq_map_join]
  refine ⟨?_, rfl, nofun⟩
  have given := congrArg (Option.map fun seen => (seen, n)) joined
  simp only [Option.map_map] at given
  simp only [Moment.given?, Option.map_map]
  exact given

theorem matches_of_view {c c' : Command} (alike : Moment.Alike look ⟨d, c⟩ ⟨d', c'⟩) :
    Moment.Matches look ⟨d, c⟩ ⟨d', c'⟩ := by
  cases alike with
  | same plain =>
    cases c with
    | issue name session => exact matches_issue same name session
    | check name token session => exact matches_check same name token session
    | notify name n => exact matches_notify same name n
    | _ => exact ⟨rfl, rfl, nofun⟩
  | _ => exact ⟨rfl, rfl, nofun⟩

theorem run_matches {cs cs' : List Command}
    (alike : List.Forall₂ (Moment.Alike look) (d.history cs) (d'.history cs')) :
    List.Forall₂ (Moment.Matches look) (d.history cs) (d'.history cs') ∧
      (d.run cs).2.view look = (d'.run cs').2.view look := by
  -- On the commands of the first run; deployments that look the same do so after each step.
  induction cs generalizing d d' cs' with
  | nil =>
    cases cs' with
    | nil => exact ⟨.nil, same⟩
    | cons c' cs' => cases alike
  | cons c cs ih =>
    cases cs' with
    | nil => cases alike
    | cons c' cs' =>
      cases alike with
      | cons first rest =>
        obtain ⟨rest, final⟩ := ih (step_of_view same first) rest
        exact ⟨.cons (matches_of_view same first) rest, final⟩

theorem value_of_view {name : Text} (different : name ≠ "csrf_diagnostics_total") (labels : Fields)
    (registry : Nat) :
    d.registries[registry]?.map (·.value name labels) =
      d'.registries[registry]?.map (·.value name labels) := by
  have quiet : ∀ d : Deployment, d.registries[registry]?.map (·.value name labels) =
      (d.view look).registries[registry]?.map (·.value name labels) := by
    intro d
    simp only [view, List.getElem?_map, Option.map_map, Function.comp_def,
      Metrics.value_quiet _ different]
  rw [quiet, quiet, same]

end Same

/-- Runs that are alike but for their sinks have the same calls, and the same counts of all but
notices. If the sinks have the same bases, these receive the same. Each layer that is put around a
base counts a notice once, under its own kind. -/
theorem sinks_are_transparent (d d' : Deployment) (cs cs' : List Command) :
    (d.view Sink.unseen = d'.view Sink.unseen →
      List.Forall₂ (Moment.Alike Sink.unseen) (d.history cs) (d'.history cs') →
        List.Forall₂ (Moment.Matches Sink.unseen) (d.history cs) (d'.history cs') ∧
          ∀ (name : Text) (labels : Fields) (registry : Nat), name ≠ "csrf_diagnostics_total" →
            (d.run cs).2.registries[registry]?.map (fun m : Metrics => m.value name labels) =
              (d'.run cs').2.registries[registry]?.map fun m : Metrics => m.value name labels) ∧
    (d.view Sink.base = d'.view Sink.base →
      List.Forall₂ (Moment.Alike Sink.base) (d.history cs) (d'.history cs') →
        List.Forall₂ (fun e e' => Moment.Matches Sink.base e e' ∧
          e.reply.received = e'.reply.received) (d.history cs) (d'.history cs')) ∧
    ∀ e ∈ d.history cs, ∀ (registries : List Nat) (base : Sink) (n : Notice),
      e.given? = some (Sink.layered registries base, n) → e.reply.deliveries =
        (registries.map fun registry => Delivery.counted registry n.kind) ++ base.deliver n ∧
      ∀ (registry : Nat) (counters : Metrics), e.before.registries[registry]? = some counters →
        ∃ counters', e.after.registries[registry]? = some counters' ∧ ∀ kind : NoticeKind,
          counters'.value "csrf_diagnostics_total" [("kind", .text kind.label)] =
            counters.value "csrf_diagnostics_total" [("kind", .text kind.label)] +
              if n.kind = kind then registries.count registry + base.layers registry else 0 := by
  refine ⟨?_, ?_, ?_⟩
  · intro same alike
    obtain ⟨matched, final⟩ := run_matches same alike
    exact ⟨matched, fun name labels registry different =>
      value_of_view final different labels registry⟩
  · intro same alike
    obtain ⟨matched, _⟩ := run_matches same alike
    exact matched.imp fun _ _ same => ⟨same, same.received⟩
  · intro e _ registries base n given
    refine ⟨?_, fun registry counters found => Moment.value_of_given given found⟩
    rw [e.reply_deliveries, given]
    exact Sink.deliver_layered n registries base

def sunkRun (sink : Sink) (choice : SinkChoice) : List Command :=
  [.nameSink "s" (some sink), .construct "a" { sink := some sink },
    .configure "b" (some [("CSRF_DIAGNOSTICS", .text choice.label)]) true,
    .notify "s" (.validation "seen"), .issue "a" (some "short"), .check "b" .null (some letters)]

theorem sunkRun_alike {sink sink' : Sink} {k k' : SinkChoice} (looks : look sink = look sink')
    (choices : look k.sink = look k'.sink)
    (layers : ∀ registry, look (.counting registry k.sink) = look (.counting registry k'.sink)) :
    List.Forall₂ (Moment.Alike look) ((showing (.whole 0)).history (sunkRun sink k))
      ((showing (.whole 0)).history (sunkRun sink' k')) := by
  have named := congrArg some looks
  exact .cons (.nameSink "s" named) (.cons (.construct "a" {} looks)
    (.cons (.of_choice (by rfl) choices layers "b" [] true)
      (.cons (.same rfl) (.cons (.same rfl) (.cons (.same rfl) .nil)))))

theorem sunkRun_is_transparent :
    List.Forall₂ (Moment.Matches Sink.unseen)
      ((showing (.whole 0)).history (sunkRun .silent .stderr))
      ((showing (.whole 0)).history (sunkRun (.layered [0, 0] .record) .log)) ∧
    List.Forall₂ (fun e e' => Moment.Matches Sink.base e e' ∧ e.reply.received = e'.reply.received)
      ((showing (.whole 0)).history (sunkRun (.layered [0, 0] .record) .log))
      ((showing (.whole 0)).history (sunkRun .record .log)) ∧
    ∃ e ∈ (showing (.whole 0)).history (sunkRun (.layered [0, 0] .record) .log), ∃ counters,
      e.after.registries[0]? = some counters ∧
        counters.value "csrf_diagnostics_total" [("kind", .text "validation")] = 2 := by
  have chosen := sinks_are_transparent (showing (.whole 0)) (showing (.whole 0))
    (sunkRun .silent .stderr) (sunkRun (.layered [0, 0] .record) .log)
  have layered := sinks_are_transparent (showing (.whole 0)) (showing (.whole 0))
    (sunkRun (.layered [0, 0] .record) .log) (sunkRun .record .log)
  refine ⟨(chosen.1 rfl (sunkRun_alike rfl rfl fun _ => rfl)).1,
    layered.2.1 rfl (sunkRun_alike (Sink.base_layered [0, 0] .record) rfl fun _ => rfl),
    _, .tail _ (.tail _ (.tail _ (.head _))), ?_⟩
  obtain ⟨_, counted⟩ := layered.2.2 _ (.tail _ (.tail _ (.tail _ (.head _)))) [0, 0] .record
    (.validation "seen") rfl
  obtain ⟨counters, found, counts⟩ := counted 0 {} rfl
  refine ⟨counters, found, (counts .validation).trans ?_⟩
  decide +kernel

end Deployment

end SealedToken
