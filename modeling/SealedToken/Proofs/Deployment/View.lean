import SealedToken.Proofs.Deployment.History
import SealedToken.Proofs.Named
import SealedToken.Proofs.Settings.Choice

namespace SealedToken

structure View (α : Type) where
  clock : Reading
  source : RandomSource
  systemSource : RandomSource
  registries : List Metrics
  managers : Text → Option (Manager × α)
  sinks : Text → Option (Option α)

variable {α : Type} {look : Sink → α}

def Manager.view (look : Sink → α) (m : Manager) : Manager × α :=
  ({ m with sink := .silent }, look m.sink)

def Deployment.view (look : Sink → α) (d : Deployment) : View α where
  clock := d.clock
  source := d.source
  systemSource := d.systemSource
  registries := d.registries.map Metrics.quiet
  managers name := (d.managers.get? name).map (Manager.view look)
  sinks name := (d.sinks.get? name).map (Option.map look)

/-- Whether settings are the same but for the sink that they ask for, and the sinks that come of them
look the same. -/
structure Settings.Alike (look : Sink → α) (s s' : Settings) : Prop where
  rest : { s with diagnostics := s'.diagnostics } = s'
  looks : ∀ registry, look (s.manager registry).sink = look (s'.manager registry).sink

def Command.choosesSink : Command → Bool
  | .construct _ _ | .configure _ _ _ | .setSink _ _ | .nameSink _ _ | .setEnvironment _ _ => true
  | _ => false

/-- Whether two moments are of one command, but for sinks that look the same. Settings may be read
from anywhere. -/
inductive Moment.Alike (look : Sink → α) : Moment → Moment → Prop
  | construct {d d' : Deployment} (name : Text) (a : ManagerArguments) {sink sink' : Option Sink}
    (looks : look (sink.getD .stderr) = look (sink'.getD .stderr)) :
    Alike look ⟨d, .construct name { a with sink }⟩ ⟨d', .construct name { a with sink := sink' }⟩
  | configure {d d' : Deployment} (name : Text) {arguments arguments' : Option Fields}
    (metrics : Bool) {s s' : Settings} {store store' : SettingsStore}
    (read : d.settings.select arguments = (.ok s, store))
    (read' : d'.settings.select arguments' = (.ok s', store')) (alike : s.Alike look s') :
    Alike look ⟨d, .configure name arguments metrics⟩ ⟨d', .configure name arguments' metrics⟩
  | unreadable {d d' : Deployment} (name : Text) {arguments arguments' : Option Fields}
    (metrics : Bool) {es es' : List FieldError} {store store' : SettingsStore}
    (unread : d.settings.select arguments = (.error es, store))
    (unread' : d'.settings.select arguments' = (.error es', store')) :
    Alike look ⟨d, .configure name arguments metrics⟩ ⟨d', .configure name arguments' metrics⟩
  | setSink {d d' : Deployment} (name : Text) {sink sink' : Option Sink}
    (looks : sink.map look = sink'.map look) :
    Alike look ⟨d, .setSink name sink⟩ ⟨d', .setSink name sink'⟩
  | nameSink {d d' : Deployment} (name : Text) {sink sink' : Option Sink}
    (looks : sink.map look = sink'.map look) :
    Alike look ⟨d, .nameSink name sink⟩ ⟨d', .nameSink name sink'⟩
  | setEnvironment {d d' : Deployment} (changes changes' : Fields) (file file' : Option Text) :
    Alike look ⟨d, .setEnvironment changes file⟩ ⟨d', .setEnvironment changes' file'⟩
  | same {d d' : Deployment} {c : Command} (plain : c.choosesSink = false) :
    Alike look ⟨d, c⟩ ⟨d', c⟩

/-- Arguments that choose sinks which look the same, and go on in the same way, are alike whatever else
they hold. -/
theorem Moment.Alike.of_choice {d d' : Deployment} (settings : d.settings = d'.settings)
    {k k' : SinkChoice} (looks : look k.sink = look k'.sink)
    (layers : ∀ registry, look (.counting registry k.sink) = look (.counting registry k'.sink))
    (name : Text) (arguments : Fields) (metrics : Bool) :
    Moment.Alike look
      ⟨d, .configure name (some ((Settings.diagnosticsName, .text k.label) :: arguments)) metrics⟩
      ⟨d', .configure name (some ((Settings.diagnosticsName, .text k'.label) :: arguments))
        metrics⟩ := by
  have read := Settings.resolve_choice ⟨arguments, d.settings.environment, []⟩
  generalize Settings.resolve _ = result at read
  have selected : ∀ k : SinkChoice, d.settings.select
      (some ((Settings.diagnosticsName, .text k.label) :: arguments)) =
        (result.map ({ · with diagnostics := k }), d.settings) :=
    fun k => congrArg (·, d.settings) (read k)
  have selected' := selected k'
  rw [settings] at selected'
  cases result with
  | error es => exact .unreadable name metrics (selected k) selected'
  | ok s =>
    refine .configure name metrics (selected k) selected' ⟨rfl, fun registry => ?_⟩
    simp only [Settings.manager]
    cases s.metricsEnabled with
    | true => exact layers registry
    | false => exact looks

theorem new_of_looks (a : ManagerArguments) {sink sink' : Option Sink}
    (looks : look (sink.getD .stderr) = look (sink'.getD .stderr)) :
    (Manager.new { a with sink }).map (Manager.view look) =
      (Manager.new { a with sink := sink' }).map (Manager.view look) := by
  simp only [Manager.new]
  cases a.service && a.source with
  | true => rfl
  | false =>
    cases Manager.readTokenName a.tokenName with
    | error fault => rfl
    | ok tokenName =>
      cases Manager.readAllowedExpiry a.allowedExpiry with
      | error fault => rfl
      | ok allowedExpiry =>
        let m : Manager := ⟨tokenName, allowedExpiry, .silent, a.metrics, a.source || a.service⟩
        exact congrArg (fun seen => (Except.ok (m, seen) : Except Fault (Manager × α))) looks

namespace Deployment

variable {d d' : Deployment} {m m' : Manager} {name : Text}

theorem filter_noticed (sink : Sink) (notice : Option Notice) (registry : Nat) :
    (noticed sink notice registry).filter (!·.isNotice) = [] := by
  apply List.filter_eq_nil_iff.mpr
  intro entry member
  rw [isNotice_of_noticed member]
  exact Bool.false_ne_true

theorem filter_entriesBy (m : Manager) (notice : Option Notice) (outcome : Option Entry)
    (registry : Nat) :
    (entriesBy m notice outcome registry).filter (!·.isNotice) =
      (if m.metrics = some registry then outcome.toList else []).filter (!·.isNotice) := by
  rw [entriesBy, List.filter_append, filter_noticed, List.nil_append]

section Same

variable (same : d.view look = d'.view look)
include same

theorem managers_of_view (name : Text) :
    (d.managers.get? name).map (Manager.view look) =
      (d'.managers.get? name).map (Manager.view look) :=
  congrFun (congrArg View.managers same) name

theorem book_of_view {entries entries' : Nat → List Entry}
    (equal : ∀ i, (entries i).filter (!·.isNotice) = (entries' i).filter (!·.isNotice)) :
    (d.book entries).view look = (d'.book entries').view look := by
  have registries : d.registries.map Metrics.quiet = d'.registries.map Metrics.quiet :=
    congrArg View.registries same
  have booked : (d.book entries).registries.map Metrics.quiet =
      (d'.book entries').registries.map Metrics.quiet := by
    apply List.ext_getElem?
    intro i
    have at_i : d.registries[i]?.map Metrics.quiet = d'.registries[i]?.map Metrics.quiet := by
      rw [← List.getElem?_map, ← List.getElem?_map, registries]
    rw [List.getElem?_map, List.getElem?_map, registry_book, registry_book, Option.map_map,
      Option.map_map]
    have entered : ∀ entries : Nat → List Entry,
        Metrics.quiet ∘ (·.enterAll (entries i)) =
          (·.enterAll ((entries i).filter (!·.isNotice))) ∘ Metrics.quiet := by
      intro entries
      funext m
      exact m.quiet_enterAll (entries i)
    rw [entered, entered, equal i, ← Option.map_map, ← Option.map_map, at_i]
  have rest : ∀ (d : Deployment) entries, (d.book entries).view look =
      { d.view look with registries := (d.book entries).registries.map Metrics.quiet } :=
    fun _ _ => rfl
  rw [rest, rest, booked, same]

theorem put_of_view (same' : m.view look = m'.view look) (name : Text) :
    view look { d with managers := d.managers.put name m } =
      view look { d' with managers := d'.managers.put name m' } := by
  have put : ∀ (d : Deployment) (m : Manager),
      view look { d with managers := d.managers.put name m } =
        { d.view look with managers := fun other =>
            if other = name then some (m.view look) else (d.view look).managers other } := by
    intro d m
    simp only [view, Named.map_get?_put]
  rw [put, put, same, same']

theorem keep_of_view {made made' : Except Fault Manager}
    (same' : made.map (Manager.view look) = made'.map (Manager.view look)) (name : Text)
    (a a' : Manager → Answer) :
    (d.keep name made a).2.view look = (d'.keep name made' a').2.view look :=
  keep_rel (R := fun r r' => r.2.view look = r'.2.view look) same' (fun _ => same)
    fun _ _ same' => put_of_view same same' name

theorem nameSink_of_view {sink sink' : Option Sink} (looks : sink.map look = sink'.map look)
    (name : Text) :
    view look { d with sinks := d.sinks.put name sink } =
      view look { d' with sinks := d'.sinks.put name sink' } := by
  have put : ∀ (d : Deployment) (sink : Option Sink),
      view look { d with sinks := d.sinks.put name sink } =
        { d.view look with sinks := fun other =>
            if other = name then some (sink.map look) else (d.view look).sinks other } := by
    intro d sink
    simp only [view, Named.map_get?_put]
  rw [put, put, same, looks]

theorem configure_of_view {arguments arguments' : Option Fields} {s s' : Settings}
    {store store' : SettingsStore} (read : d.settings.select arguments = (.ok s, store))
    (read' : d'.settings.select arguments' = (.ok s', store')) (alike : s.Alike look s')
    (name : Text) (metrics : Bool) :
    (d.configure name arguments metrics).2.view look =
      (d'.configure name arguments' metrics).2.view look := by
  have registries : d.registries.map Metrics.quiet = d'.registries.map Metrics.quiet :=
    congrArg View.registries same
  have length : d.registries.length = d'.registries.length := by
    have lengths := congrArg List.length registries
    rwa [List.length_map, List.length_map] at lengths
  obtain ⟨rest, looks⟩ := alike
  have enabled : s.metricsEnabled = s'.metricsEnabled := by rw [← rest]
  have same' : ∀ registry, (s.manager registry).view look = (s'.manager registry).view look := by
    intro registry
    have others : { s.manager registry with sink := .silent } =
        { s'.manager registry with sink := Sink.silent } := by
      rw [← rest]
      rfl
    exact Prod.ext others (looks registry)
  have added : view look { d with
        settings := store
        registries := d.registries ++ if !metrics && s.metricsEnabled then [{}] else [] } =
      view look { d' with
        settings := store'
        registries := d'.registries ++ if !metrics && s'.metricsEnabled then [{}] else [] } := by
    have grown : ∀ added : List Metrics, (d.registries ++ added).map Metrics.quiet =
        (d'.registries ++ added).map Metrics.quiet := by
      intro added
      rw [List.map_append, List.map_append, registries]
    have parts : ∀ (d : Deployment) settings added,
        view look { d with settings, registries := d.registries ++ added } =
          { d.view look with registries := (d.registries ++ added).map Metrics.quiet } :=
      fun _ _ _ => rfl
    rw [parts, parts, enabled, grown, same]
  -- A registry that is added has the same place in both.
  rw [configure_eq read, configure_eq read', length]
  exact put_of_view added (same' _) name

theorem sourceOf_of_view (same' : m.view look = m'.view look) : d.sourceOf m = d'.sourceOf m' := by
  have given : m.givenSource = m'.givenSource := congrArg (·.1.givenSource) same'
  have source : d.source = d'.source := congrArg View.source same
  have systemSource : d.systemSource = d'.systemSource := congrArg View.systemSource same
  rw [sourceOf, sourceOf, given, source, systemSource]

theorem withSource_of_view (same' : m.view look = m'.view look) (source : RandomSource) :
    (d.withSource m source).view look = (d'.withSource m' source).view look := by
  have given : m.givenSource = m'.givenSource := congrArg (·.1.givenSource) same'
  rw [withSource, withSource, given]
  cases m'.givenSource with
  | true => exact congrArg ({ · with source := source }) same
  | false => exact congrArg ({ · with systemSource := source }) same

theorem issue_of_view (same' : m.view look = m'.view look) (session : Option Text) :
    (d.issue m session).2.view look = (d'.issue m' session).2.view look := by
  have clock : d.clock = d'.clock := congrArg View.clock same
  have metrics : m.metrics = m'.metrics := congrArg (·.1.metrics) same'
  rw [issue_after, issue_after, clock, sourceOf_of_view same same']
  apply book_of_view (withSource_of_view same same' _)
  intro registry
  rw [filter_entriesBy, filter_entriesBy, metrics]

theorem check_of_view (same' : m.view look = m'.view look) (token : Value)
    (session : Option Text) :
    (d.check m token session).2.view look = (d'.check m' token session).2.view look := by
  have clock : d.clock = d'.clock := congrArg View.clock same
  have allowed : m.allowedExpiry = m'.allowedExpiry := congrArg (·.1.allowedExpiry) same'
  have metrics : m.metrics = m'.metrics := congrArg (·.1.metrics) same'
  rw [check_after, check_after, clock, allowed]
  apply book_of_view same
  intro registry
  rw [filter_entriesBy, filter_entriesBy, metrics]

theorem modify_of_view (registry : Nat) (e : Entry) :
    (d.modifyRegistry registry (·.enter e)).view look =
      (d'.modifyRegistry registry (·.enter e)).view look := by
  rw [modifyRegistry_enter, modifyRegistry_enter]
  exact book_of_view same fun _ => rfl

theorem notify_of_view (name : Text) (n : Notice) :
    (d.notify name n).2.view look = (d'.notify name n).2.view look := by
  have quiet : ∀ d : Deployment, (d.notify name n).2.view look = d.view look := by
    intro d
    rcases d.notify_cases name n with ⟨_, _, refused⟩ | ⟨sink, _, notified⟩
    · rw [refused]
    · rw [notified]
      conv => rhs; rw [← d.book_nil]
      exact book_of_view rfl fun registry => filter_noticed sink (some n) registry
  rw [quiet, quiet, same]

theorem step_of_view {c c' : Command} (alike : Moment.Alike look ⟨d, c⟩ ⟨d', c'⟩) :
    (d.step c).2.view look = (d'.step c').2.view look := by
  cases alike with
  | construct name a looks => exact keep_of_view same (new_of_looks a looks) name _ _
  | configure name metrics read read' alike =>
    exact configure_of_view same read read' alike name metrics
  | unreadable name metrics unread unread' =>
    simp only [step, configure_of_error unread, configure_of_error unread']
    exact same
  | @setSink _ _ name sink sink' looks =>
    refine withManager_rel (R := fun r r' => r.2.view look = r'.2.view look)
      (managers_of_view same name) same fun m m' _ _ same' => keep_of_view same ?_ name _ _
    have others : { m with sink := .silent } = { m' with sink := Sink.silent } :=
      congrArg Prod.fst same'
    cases sink with
    | none =>
      cases sink' with
      | none => rfl
      | some sink' => cases looks
    | some sink =>
      cases sink' with
      | none => cases looks
      | some sink' => exact congrArg Except.ok (Prod.ext others (Option.some.inj looks))
  | nameSink name looks => exact nameSink_of_view same looks name
  | setEnvironment changes changes' file file' => exact same
  | same plain =>
    have clock : d.clock = d'.clock := congrArg View.clock same
    cases c with
    | construct _ _ | configure _ _ _ | setSink _ _ | nameSink _ _ | setEnvironment _ _ =>
      cases plain
    | inspect name =>
      exact withManager_rel (R := fun r r' => r.2.view look = r'.2.view look)
        (managers_of_view same name) same fun _ _ _ _ _ => same
    | issue name session =>
      exact withManager_rel (R := fun r r' => r.2.view look = r'.2.view look)
        (managers_of_view same name) same fun _ _ _ _ same' => issue_of_view same same' session
    | check name token session =>
      exact withManager_rel (R := fun r r' => r.2.view look = r'.2.view look)
        (managers_of_view same name) same fun _ _ _ _ same' =>
          check_of_view same same' token session
    | setTokenName name v =>
      refine withManager_rel (R := fun r r' => r.2.view look = r'.2.view look)
        (managers_of_view same name) same fun m m' _ _ same' => keep_of_view same ?_ name _ _
      cases v with
      | none => rfl
      | some v => exact congrArg (fun s => Except.ok ({ s.1 with tokenName := v }, s.2)) same'
    | setAllowedExpiry name v =>
      refine withManager_rel (R := fun r r' => r.2.view look = r'.2.view look)
        (managers_of_view same name) same fun m m' _ _ same' => keep_of_view same ?_ name _ _
      cases Manager.readAllowedExpiry v with
      | error fault => rfl
      | ok expiry =>
        exact congrArg (fun s => Except.ok ({ s.1 with allowedExpiry := expiry }, s.2)) same'
    | setClock clock => exact congrArg ({ · with clock }) same
    | advanceClock r =>
      simp only [step, advanceClock, clock]
      cases d'.clock.add r with
      | error fault => exact same
      | ok clock => exact congrArg ({ · with clock }) same
    | isSink name =>
      simp only [step]
      cases d.sinks.get? name <;> cases d'.sinks.get? name <;> exact same
    | notify name n => exact notify_of_view same name n
    | recordIssue => exact modify_of_view same shared .issue
    | recordCheck v => exact modify_of_view same shared (.check v.isTrue)
    | recordNotice label => exact modify_of_view same shared (.notice label)
    | readSettings =>
      simp only [step, readSettings]
      cases d.settings.get.1 <;> cases d'.settings.get.1 <;> exact same
    | _ => exact same

end Same

end Deployment

end SealedToken
