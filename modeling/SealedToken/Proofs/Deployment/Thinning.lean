import Mathlib.Data.List.Forall2
import SealedToken.Proofs.Deployment.Basis
import SealedToken.Proofs.Deployment.History
import SealedToken.Proofs.Token.Issuing

namespace SealedToken

def Command.isCall : Command → Bool
  | .issue _ _ | .check _ _ _ => true
  | _ => false

namespace Moment

/-- Whether a moment is a check, an assignment of a token name or of a sink, or a request that fails
for an empty session or is rejected as misuse. -/
def Passing (e : Moment) : Prop :=
  match e.command with
  | .check _ _ _ | .setTokenName _ _ | .setSink _ _ => True
  | .issue _ _ => e.reply.result = .error (.fault .emptySession) ∨
    ∃ sink text, e.given? = some (sink, .misuse text)
  | _ => False

inductive Thinned : List Moment → List Moment → Prop
  | nil : Thinned [] []
  | keep {e : Moment} {es kept : List Moment} (rest : Thinned es kept) : Thinned (e :: es) (e :: kept)
  | drop {e : Moment} {es kept : List Moment} (passing : e.Passing) (rest : Thinned es kept) :
    Thinned (e :: es) kept

def drawn (e : Moment) : List Bytes :=
  match e.command with
  | .issue name session => (e.before.managers.get? name).elim [] fun m =>
    let source := e.before.sourceOf m
    (issueToken session e.before.clock source).1.draws.map fun size => (source.draw size).1
  | _ => []

/-- Whether two moments are of one command, draw the same bytes and, if they are calls, have the same
result with the same draws and as many readings of the clock. -/
structure Repeats (e e' : Moment) : Prop where
  command : e.command = e'.command
  drawn : e.drawn = e'.drawn
  answer : e.command.isCall → e.reply.result = e'.reply.result ∧
    e.reply.draws = e'.reply.draws ∧ e.reply.reads = e'.reply.reads

end Moment

namespace Deployment

variable {d d' : Deployment} {m m' : Manager}

theorem basis_after_passing {e : Moment} (passing : e.Passing) :
    e.after.basis = e.before.basis := by
  obtain ⟨d, c⟩ := e
  cases c with
  | check name token session =>
    refine withManager_ind (P := fun r => r.2.basis = d.basis) rfl fun m _ => ?_
    rw [check_after, basis_book]
  | setTokenName name v =>
    refine withManager_ind (P := fun r => r.2.basis = d.basis) rfl fun m held => ?_
    cases v with
    | none => rfl
    | some v => exact basis_put_self held rfl
  | setSink name v =>
    refine withManager_ind (P := fun r => r.2.basis = d.basis) rfl fun m held => ?_
    cases v with
    | none => rfl
    | some sink => exact basis_put_self held rfl
  | issue name session =>
    refine withManager_ind (P := fun r => r.2.basis = d.basis) rfl fun m held => ?_
    have turned : TurnedAway (issueToken session d.clock (d.sourceOf m)).1 := by
      simp only [Moment.Passing, Moment.reply_issue held, issue_reply, Manager.issueReply,
        Moment.given?_issue held] at passing
      unfold TurnedAway
      generalize (issueToken session d.clock (d.sourceOf m)).1 = call at passing ⊢
      obtain ⟨result, notice, draws, reads, debug⟩ := call
      rcases passing with refused | ⟨sink, text, rejected⟩
      · left
        cases result with
        | error fault =>
          cases refused
          rfl
        | ok token => cases refused
      · right
        cases notice with
        | none => cases rejected
        | some n =>
          cases rejected
          exact ⟨text, rfl⟩
    rw [issue_after, basis_book, issueToken_source turned, withSource_sourceOf]
  | _ => exact passing.elim

section Same

variable (same : d.basis = d'.basis)
include same

theorem drawn_of_basis (c : Command) : Moment.drawn ⟨d, c⟩ = Moment.drawn ⟨d', c⟩ := by
  cases c with
  | issue name session =>
    have clock : d.clock = d'.clock := congrArg Basis.clock same
    have managers := managers_of_basis same name
    unfold Moment.drawn
    cases held : d.managers.get? name with
    | none =>
      rw [held] at managers
      simp only [held, Option.map_eq_none_iff.mp managers.symm, Option.elim_none]
    | some m =>
      rw [held] at managers
      obtain ⟨m', held', same'⟩ := Option.map_eq_some_iff.mp managers.symm
      simp only [held, held', Option.elim_some, clock, sourceOf_of_basis same same'.symm]
  | _ => rfl

theorem repeats_of_basis (c : Command) : Moment.Repeats ⟨d, c⟩ ⟨d', c⟩ := by
  have clock : d.clock = d'.clock := congrArg Basis.clock same
  refine ⟨rfl, drawn_of_basis same c, ?_⟩
  intro call
  cases c with
  | issue name session =>
    refine withManager_of_basis (R := fun r r' => r.1.result = r'.1.result ∧
      r.1.draws = r'.1.draws ∧ r.1.reads = r'.1.reads) same ⟨rfl, rfl, rfl⟩ fun m m' _ _ same' => ?_
    have given : m.givenSource = m'.givenSource := congrArg Prod.snd same'
    simp only [issue_reply, Manager.issueReply, clock, given, sourceOf_of_basis same same',
      and_self]
  | check name token session =>
    refine withManager_of_basis (R := fun r r' => r.1.result = r'.1.result ∧
      r.1.draws = r'.1.draws ∧ r.1.reads = r'.1.reads) same ⟨rfl, rfl, rfl⟩ fun m m' _ _ same' => ?_
    have allowed : m.allowedExpiry = m'.allowedExpiry := congrArg Prod.fst same'
    simp only [check_reply, Manager.reply, clock, allowed, and_self]
  | _ => cases call

theorem repeats_of_thinned {cs : List Command} {kept : List Moment}
    (thinned : Moment.Thinned (d.history cs) kept) :
    List.Forall₂ Moment.Repeats kept (d'.history (kept.map (·.command))) := by
  -- On the commands of the longer run: a moment of both keeps the bases the same, and one that is
  -- taken out leaves the basis as it was.
  induction cs generalizing d d' kept with
  | nil =>
    cases thinned
    exact .nil
  | cons c cs ih =>
    cases thinned with
    | keep rest => exact .cons (repeats_of_basis same c) (ih (step_of_basis same c) rest)
    | drop passing rest => exact ih ((basis_after_passing passing).trans same) rest

end Same

/-- Calls are answered as if nothing that passes had happened, and a check by the token, the session,
the time and the allowed age alone. -/
theorem run_is_stateless {cs : List Command} {kept : List Moment}
    (thinned : Moment.Thinned (d.history cs) kept) :
    List.Forall₂ Moment.Repeats kept (d.history (kept.map (·.command))) ∧
    ∀ (d d' : Deployment) (m m' : Manager) (token : Value) (session : Option Text),
      d.clock.truncate = d'.clock.truncate → m.allowedExpiry = m'.allowedExpiry →
        (d.check m token session).1.result = (d'.check m' token session).1.result := by
  refine ⟨repeats_of_thinned rfl thinned, ?_⟩
  intro d d' m m' token session clock allowed
  rw [check_reply, check_reply, allowed, checkToken_of_truncate clock]
  rfl

def busyRun : List Command :=
  [.construct "a" {}, .issue "a" (some "short"), .check "a" .null (some letters),
    .setTokenName "a" (some "t"), .issue "a" (some letters)]

theorem busyRun_thinned :
    ∃ kept, Moment.Thinned ((showing (.whole 0)).history busyRun) kept ∧
      List.Forall₂ Moment.Repeats kept
        ((showing (.whole 0)).history [.construct "a" {}, .issue "a" (some letters)]) := by
  have thinned : Moment.Thinned ((showing (.whole 0)).history busyRun) [⟨_, _⟩, ⟨_, _⟩] :=
    .keep (.drop (.inr ⟨_, _, rfl⟩) (.drop trivial (.drop trivial (.keep .nil))))
  exact ⟨_, thinned, (run_is_stateless thinned).1⟩

end Deployment

end SealedToken
