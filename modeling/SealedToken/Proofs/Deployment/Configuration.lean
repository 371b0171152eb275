import SealedToken.Proofs.Deployment.Injectivity
import SealedToken.Proofs.Deployment.Wiring

namespace SealedToken

structure Configuration where
  tokenName : Option Text
  allowedExpiry : Option Int
  sink : Option Sink
  deriving DecidableEq

/-- Whether nothing is missing and the allowed age is not negative. -/
structure Configuration.Sound (x : Configuration) : Prop where
  tokenName : x.tokenName ≠ none
  allowedExpiry : ∃ n, x.allowedExpiry = some n ∧ 0 ≤ n
  sink : x.sink ≠ none

def Manager.configuration (m : Manager) : Configuration :=
  ⟨some m.tokenName, some m.allowedExpiry, some m.sink⟩

/-- Only a sink may be left out. -/
def ManagerArguments.configuration (a : ManagerArguments) : Configuration :=
  ⟨a.tokenName, a.allowedExpiry, some (a.sink.getD .stderr)⟩

def Deployment.configuration (d : Deployment) (name : Text) : Option Configuration :=
  (d.managers.get? name).map Manager.configuration

/-- What the manager of a name is configured with once a command is carried out: what the command
assigns, all of it when a manager is made and one field when that is set, or else what it was. -/
def Command.assigns (c : Command) (d : Deployment) (name : Text) (was : Option Configuration) :
    Option Configuration :=
  match c with
  | .construct other a => if name = other then some a.configuration else was
  | .configure other arguments metrics =>
    if name = other then
      (d.settings.select arguments).1.toOption.map fun s => (s.managerArguments
        (if metrics then Deployment.shared else d.registries.length)).configuration
    else was
  | .setTokenName other v => if name = other then was.map ({ · with tokenName := v }) else was
  | .setAllowedExpiry other v =>
    if name = other then was.map ({ · with allowedExpiry := v }) else was
  | .setSink other v => if name = other then was.map ({ · with sink := v }) else was
  | _ => was

def Moment.assigns (e : Moment) (name : Text) (was : Option Configuration) :
    Option Configuration :=
  match e.reply.result with
  | .ok _ => e.command.assigns e.before name was
  | .error _ => was

def Command.isSetter : Command → Bool
  | .setTokenName _ _ | .setAllowedExpiry _ _ | .setSink _ _ => true
  | _ => false

def Command.configures : Command → Bool
  | .construct _ _ | .configure _ _ _ => true
  | c => c.isSetter

inductive Command.Sets : Command → Text → Manager → Manager → Prop
  | tokenName (name t : Text) (m : Manager) :
      Sets (.setTokenName name (some t)) name m { m with tokenName := t }
  | allowedExpiry (name : Text) (n : Nat) (m : Manager) :
      Sets (.setAllowedExpiry name (some (n : Int))) name m { m with allowedExpiry := n }
  | sink (name : Text) (s : Sink) (m : Manager) :
      Sets (.setSink name (some s)) name m { m with sink := s }

namespace Manager

theorem configuration_sound (m : Manager) : m.configuration.Sound :=
  ⟨nofun, ⟨m.allowedExpiry, rfl, Int.natCast_nonneg _⟩, nofun⟩

theorem readTokenName_eq_ok_iff {v : Option Text} {t : Text} :
    readTokenName v = .ok t ↔ v = some t := by
  cases v <;> simp [readTokenName]

theorem readAllowedExpiry_eq_ok_iff {v : Option Int} {n : Nat} :
    readAllowedExpiry v = .ok n ↔ v = some (n : Int) := by
  cases v with
  | none => simp [readAllowedExpiry]
  | some i =>
    simp only [readAllowedExpiry, Option.some.injEq]
    split
    · next negative => simp only [reduceCtorEq, false_iff]; omega
    · next large => simp only [Except.ok.injEq]; omega

theorem readSink_eq_ok_iff {v : Option Sink} {s : Sink} : readSink v = .ok s ↔ v = some s := by
  cases v <;> simp [readSink]

theorem configuration_of_new {a : ManagerArguments} {m : Manager} (made : new a = .ok m) :
    m.configuration = a.configuration := by
  unfold new at made
  split at made
  · cases made
  · cases name : readTokenName a.tokenName with
    | error fault =>
      rw [name] at made
      cases made
    | ok t =>
      cases expiry : readAllowedExpiry a.allowedExpiry with
      | error fault =>
        rw [name, expiry] at made
        cases made
      | ok n =>
        rw [name, expiry] at made
        cases made
        rw [ManagerArguments.configuration, readTokenName_eq_ok_iff.mp name,
          readAllowedExpiry_eq_ok_iff.mp expiry]
        rfl

end Manager

namespace Deployment

variable {d : Deployment} {c : Command} {name : Text}

theorem configuration_put (d : Deployment) (other : Text) (m : Manager) (name : Text) :
    Deployment.configuration { d with managers := d.managers.put other m } name =
      if name = other then some m.configuration else d.configuration name :=
  Named.map_get?_put _ _ _ _ _

theorem set_cases {α : Type} {request : Text} {read : Except Fault α} {a : Manager → Answer}
    {update : Manager → α → Manager} {r : Reply × Deployment}
    (asked : r = d.withManager name request fun m => d.keep name (read.map (update m)) a) :
    (∃ refusal, r = ({ result := .error refusal }, d)) ∨
    ∃ m x, d.managers.get? name = some m ∧ read = .ok x ∧
      r = ({ result := .ok (a (update m x)) },
        { d with managers := d.managers.put name (update m x) }) := by
  subst asked
  cases held : d.managers.get? name with
  | none => exact .inl ⟨.unanswered request, by simp only [withManager, held]⟩
  | some m =>
    cases read with
    | error fault =>
      refine .inl ⟨.fault fault, ?_⟩
      simp only [withManager, held]
      rfl
    | ok x =>
      refine .inr ⟨m, x, rfl, rfl, ?_⟩
      simp only [withManager, held]
      rfl

theorem step_setter (setter : c.isSetter = true) (d : Deployment) :
    (∃ refusal, d.step c = ({ result := .error refusal }, d)) ∨
    ∃ name m m' answer, c.Sets name m m' ∧ d.managers.get? name = some m ∧
      d.step c = ({ result := .ok answer }, { d with managers := d.managers.put name m' }) := by
  cases c with
  | setTokenName name v =>
    rcases d.set_cases (r := d.step (.setTokenName name v)) rfl with refused | ⟨m, t, held, read, set⟩
    · exact .inl refused
    · cases Manager.readTokenName_eq_ok_iff.mp read
      exact .inr ⟨name, m, _, _, .tokenName name t m, held, set⟩
  | setAllowedExpiry name v =>
    rcases d.set_cases (r := d.step (.setAllowedExpiry name v)) rfl with
      refused | ⟨m, n, held, read, set⟩
    · exact .inl refused
    · cases Manager.readAllowedExpiry_eq_ok_iff.mp read
      exact .inr ⟨name, m, _, _, .allowedExpiry name n m, held, set⟩
  | setSink name v =>
    rcases d.set_cases (r := d.step (.setSink name v)) rfl with refused | ⟨m, s, held, read, set⟩
    · exact .inl refused
    · cases Manager.readSink_eq_ok_iff.mp read
      exact .inr ⟨name, m, _, _, .sink name s m, held, set⟩
  | _ => cases setter

theorem step_managers (plain : c.configures = false) (d : Deployment) :
    (d.step c).2.managers = d.managers := by
  cases c with
  | construct _ _ | configure _ _ _ => cases plain
  | setTokenName _ _ | setAllowedExpiry _ _ | setSink _ _ => cases plain
  | issue name session =>
    refine withManager_ind (P := fun r => r.2.managers = d.managers) rfl fun m _ => ?_
    rw [issue_after]
    exact d.withSource_managers m _
  | check name token session =>
    refine withManager_ind (P := fun r => r.2.managers = d.managers) rfl fun m _ => ?_
    rw [check_after]
    rfl
  | notify name n =>
    simp only [step]
    rcases d.notify_cases name n with ⟨_, _, refused⟩ | ⟨sink, _, notified⟩
    · rw [refused]
    · rw [notified]
      rfl
  | recordIssue | recordCheck _ | recordNotice _ => rfl
  | _ => exact (step_aside rfl d).1

theorem assigns_of_plain (plain : c.configures = false) (d : Deployment) (name : Text)
    (was : Option Configuration) : c.assigns d name was = was := by
  cases c with
  | construct _ _ | configure _ _ _ => cases plain
  | setTokenName _ _ | setAllowedExpiry _ _ | setSink _ _ => cases plain
  | _ => rfl

theorem assigns_of_sets {m m' : Manager} (sets : c.Sets name m m')
    (held : d.managers.get? name = some m) (other : Text) :
    c.assigns d other (d.configuration other) =
      if other = name then some m'.configuration else d.configuration other := by
  have was : d.configuration name = some m.configuration := by
    rw [configuration, held, Option.map_some]
  cases sets <;>
  · simp only [Command.assigns]
    split
    · next same =>
      rw [same, was]
      rfl
    · rfl

theorem configuration_after_setter (setter : c.isSetter = true) (d : Deployment) (name : Text) :
    Deployment.configuration (Moment.after ⟨d, c⟩) name =
      Moment.assigns ⟨d, c⟩ name (d.configuration name) := by
  simp only [Moment.assigns, Moment.reply, Moment.after]
  rcases step_setter setter d with ⟨refusal, refused⟩ | ⟨other, m, m', _, sets, held, set⟩
  · rw [refused]
  · rw [set, assigns_of_sets sets held]
    exact configuration_put d other m' name

theorem configuration_after (e : Moment) (name : Text) :
    e.after.configuration name = e.assigns name (e.before.configuration name) := by
  obtain ⟨d, c⟩ := e
  cases plain : c.configures with
  | false =>
    simp only [Moment.assigns, Moment.after, assigns_of_plain plain]
    rw [configuration, step_managers plain]
    split <;> rfl
  | true =>
    cases c with
    | construct other a =>
      simp only [Moment.assigns, Moment.reply, Moment.after, step]
      cases made : Manager.new a with
      | error fault => rfl
      | ok m =>
        refine (configuration_put d other m name).trans ?_
        rw [Manager.configuration_of_new made]
        rfl
    | configure other arguments metrics =>
      simp only [Moment.assigns, Moment.reply, Moment.after, step]
      cases selected : d.settings.select arguments with
      | mk result store =>
        cases result with
        | error es =>
          rw [configure_of_error selected]
          rfl
        | ok s =>
          simp only [configure_eq selected, Command.assigns, selected]
          exact Named.map_get?_put _ _ _ _ _
    | setTokenName _ _ | setAllowedExpiry _ _ | setSink _ _ =>
      exact configuration_after_setter rfl d name
    | _ => cases plain

theorem configuration_run (d : Deployment) (cs : List Command) (name : Text) :
    (d.run cs).2.configuration name =
      (d.history cs).foldl (fun was e => e.assigns name was) (d.configuration name) := by
  induction cs generalizing d with
  | nil => rfl
  | cons c cs ih =>
    rw [history, List.foldl_cons, ← configuration_after]
    exact ih (d.step c).2

end Deployment

theorem Issued.checkToken_fresh {session token : Text} {clock : Reading} {drawn : Bytes} {now : Int}
    (issued : Issued session clock drawn now token) (allowed : Nat) :
    ∃ line, checkToken (.text token) (some session) allowed clock =
      { result := .ok true, reads := 1, debug := [line] } := by
  obtain ⟨p, plaintext, presented, fits, opens, reads⟩ := tokenFor_iff.mp issued.tokenFor
  have fresh : now ≤ now + allowed := by omega
  exact ⟨_, checkToken_of_valid presented fits opens reads rfl fresh issued.finite⟩

namespace Deployment

variable {d : Deployment} {session token : Text}

def Welcomes (d : Deployment) (token session : Text) : Prop :=
  ∀ name m, d.managers.get? name = some m → ∃ line,
    let check : Moment := ⟨d, .check name (.text token) (some session)⟩
    check.given? = none ∧
      check.reply = { result := .ok (.truth true), reads := 1, debug := [line] }

theorem issue_clock (d : Deployment) (m : Manager) (session : Option Text) :
    (d.issue m session).2.clock = d.clock := by
  rw [issue_after, withSource]
  cases m.givenSource <;> rfl

theorem welcomes_of_issued {drawn : Bytes} {now : Int}
    (issued : Issued session d.clock drawn now token) : d.Welcomes token session := by
  intro name m held
  obtain ⟨line, call⟩ := issued.checkToken_fresh m.allowedExpiry
  refine ⟨line, ?_, ?_⟩
  · rw [Moment.given?_check held, call]
    rfl
  · rw [Moment.reply_check held, check_reply, call]
    rfl

theorem welcomes_after_issue {name : Text}
    (answered : (d.step (.issue name (some session))).1.result = .ok (.token (some token))) :
    (d.step (.issue name (some session))).2.clock = d.clock ∧
      (d.step (.issue name (some session))).2.Welcomes token session := by
  simp only [step, withManager] at answered ⊢
  cases held : d.managers.get? name with
  | none =>
    rw [held] at answered
    cases answered
  | some m =>
    rw [held] at answered
    obtain ⟨now, issued⟩ := issued_of_issue answered
    rw [← d.issue_clock m (some session)] at issued
    exact ⟨d.issue_clock m _, welcomes_of_issued issued⟩

/-- In every state that a run reaches, managers are configured with what was assigned to them, all of
it sound. Only making and setting change a manager, and setting changes one field of one. What is
issued is valid at once to every manager. -/
theorem run_keeps_configuration (d : Deployment) (cs : List Command) :
    let d' := (d.run cs).2
    (∀ name, d'.configuration name =
      (d.history cs).foldl (fun was e => e.assigns name was) (d.configuration name)) ∧
    (∀ name x, d'.configuration name = some x → x.Sound) ∧
    (∀ c : Command, c.configures = false → (d'.step c).2.managers = d'.managers) ∧
    (∀ c : Command, c.isSetter = true →
      (∃ refusal, d'.step c = ({ result := .error refusal }, d')) ∨
      ∃ name m m' answer, c.Sets name m m' ∧ d'.managers.get? name = some m ∧
        d'.step c = ({ result := .ok answer },
          { d' with managers := d'.managers.put name m' })) ∧
    ∀ name session token,
      (d'.step (.issue name (some session))).1.result = .ok (.token (some token)) →
        (d'.step (.issue name (some session))).2.clock = d'.clock ∧
          (d'.step (.issue name (some session))).2.Welcomes token session := by
  intro d'
  refine ⟨d.configuration_run cs, ?_, fun c plain => step_managers plain d',
    fun c setter => step_setter setter d', fun name session token => welcomes_after_issue⟩
  intro name x configured
  obtain ⟨m, _, rfl⟩ := Option.map_eq_some_iff.mp configured
  exact m.configuration_sound

/-- Two managers that are made, one of them from settings, and set to an age of zero, between attempts
to leave them without a name, with an age below zero and without a sink. -/
def unsettledRun : List Command :=
  [.construct "a" {}, .construct "b" { tokenName := none }, .setAllowedExpiry "a" (some 0),
    .setAllowedExpiry "a" (some (-1)), .setAllowedExpiry "a" none, .setTokenName "a" (some "t"),
    .setTokenName "a" none, .setSink "a" none,
    .configure "b" (some [("csrf_allowed_expiry_ms", .text "-1")]) false,
    .configure "b" (some [("csrf_allowed_expiry_ms", .text "0")]) false]

theorem unsettledRun_configuration :
    let d := ((showing (.whole 107)).run unsettledRun).2
    d.configuration "a" = some ⟨some "t", some 0, some .stderr⟩ ∧
    d.configuration "b" = some ⟨some "csrf_token", some 0, some .stderr⟩ ∧
    ∃ token line, (d.step (.issue "a" (some letters))).1.result = .ok (.token (some token)) ∧
      Moment.reply
          ⟨(d.step (.issue "a" (some letters))).2, .check "b" (.text token) (some letters)⟩ =
        { result := .ok (.truth true), reads := 1, debug := [line] } := by
  obtain ⟨assigned, _, plain, _, welcomes⟩ :=
    run_keeps_configuration (showing (.whole 107)) unsettledRun
  have configured := (assigned "a").trans (c := some ⟨some "t", some 0, some .stderr⟩)
    (by decide +kernel)
  have configured' := (assigned "b").trans (c := some ⟨some "csrf_token", some 0, some .stderr⟩)
    (by decide +kernel)
  have usable : Usable letters := by decide +kernel
  have finite : ((showing (.whole 107)).run unsettledRun).2.clock.truncate = .ok 107 := rfl
  have source : ((showing (.whole 107)).run unsettledRun).2.source = .counting := rfl
  have bounded : (107 : Int).natAbs < 10 ^ Decimal.maxDigits := by decide +kernel
  have held : ((showing (.whole 107)).run unsettledRun).2.managers.get? "a" =
    some ⟨"t", 0, .stderr, none, true⟩ := by decide +kernel
  have held' : ((showing (.whole 107)).run unsettledRun).2.managers.get? "b" =
    some ⟨"csrf_token", 0, .stderr, none, true⟩ := by decide +kernel
  generalize ((showing (.whole 107)).run unsettledRun).2 = d at *
  have size : (d.drawn ⟨"t", 0, .stderr, none, true⟩).length = tokenIdSize := by
    rw [drawn, sourceOf, if_pos rfl, source]
    decide
  have answered := issue_result_eq_token_iff.mpr (issueToken_result usable size finite bounded)
  rw [← Moment.reply_issue held, Moment.reply] at answered
  rw [← plain (.issue "a" (some letters)) rfl] at held'
  obtain ⟨line, _, reply⟩ := (welcomes "a" letters _ answered).2 "b" _ held'
  exact ⟨configured, configured', _, line, answered, reply⟩

end Deployment

end SealedToken
