import SealedToken.Deployment.Step

namespace SealedToken

def letters : Text := "abcdefghijklmnopqrstuvwxyz"

def Manager.standard : Manager := ⟨defaultTokenName, defaultExpiry, .stderr, none, true⟩

example : Manager.new {} = .ok .standard := rfl

def Manager.reply (m : Manager) (call : Call Bool) : Reply where
  result := (call.result.map .truth).mapError .fault
  deliveries := (call.notice.map m.sink.deliver).getD []
  reads := call.reads
  debug := call.debug

/-- The answer of a manager to a request for a token. Draws from the system are not told. -/
def Manager.issueReply (m : Manager) (call : Call (Option Text)) : Reply where
  result := (call.result.map .token).mapError .fault
  deliveries := (call.notice.map m.sink.deliver).getD []
  draws := if m.givenSource then call.draws else []
  reads := call.reads
  debug := call.debug

namespace Deployment

def showing (clock : Reading) : Deployment where
  clock
  source := .counting
  systemSource := .counting
  registries := [{}]

structure Checks (d : Deployment) (m : Manager) (token : Value) (session : Text)
    (call : Call Bool) : Prop where
  made : checkToken token (some session) m.allowedExpiry d.clock = call
  reply : (d.check m token (some session)).1 = m.reply call

theorem check_reply (d : Deployment) (m : Manager) (token : Value) (session : Option Text) :
    (d.check m token session).1 = m.reply (checkToken token session m.allowedExpiry d.clock) := by
  unfold check
  generalize checkToken token session m.allowedExpiry d.clock = call
  obtain ⟨result, notice, draws, reads, debug⟩ := call
  cases notice <;> rfl

theorem checks_of_call {d : Deployment} {m : Manager} {token : Value} {session : Text}
    {call : Call Bool} (made : checkToken token (some session) m.allowedExpiry d.clock = call) :
    d.Checks m token session call :=
  ⟨made, by rw [check_reply, made]⟩

theorem answered_eq_ok_iff {α : Type} {answer : α → Answer} {result : Except Fault α} {a : α}
    (injective : ∀ a b, answer a = answer b → a = b) :
    (result.map answer).mapError Refusal.fault = .ok (answer a) ↔ result = .ok a := by
  cases result with
  | error fault => exact ⟨nofun, nofun⟩
  | ok b =>
    constructor
    · intro same
      have answers : answer b = answer a := Except.ok.inj same
      rw [injective b a answers]
    · intro same
      rw [Except.ok.inj same]
      rfl

theorem check_result_eq_truth_iff {d : Deployment} {m : Manager} {token : Value} {session : Text}
    {valid : Bool} :
    (d.check m token (some session)).1.result = .ok (.truth valid) ↔
      (checkToken token (some session) m.allowedExpiry d.clock).result = .ok valid := by
  rw [check_reply]
  exact answered_eq_ok_iff fun _ _ => Answer.truth.inj

def sourceOf (d : Deployment) (m : Manager) : RandomSource :=
  if m.givenSource then d.source else d.systemSource

def drawn (d : Deployment) (m : Manager) : Bytes :=
  ((d.sourceOf m).draw tokenIdSize).1

theorem issue_reply (d : Deployment) (m : Manager) (session : Option Text) :
    (d.issue m session).1 = m.issueReply (issueToken session d.clock (d.sourceOf m)).1 := by
  cases made : issueToken session d.clock (d.sourceOf m) with
  | mk call source =>
    rw [sourceOf] at made
    simp only [issue, made]
    obtain ⟨result, notice, draws, reads, debug⟩ := call
    cases notice <;> rfl

theorem issue_result (d : Deployment) (m : Manager) (session : Option Text) :
    (d.issue m session).1.result =
      ((issueToken session d.clock (d.sourceOf m)).1.result.map .token).mapError .fault := rfl

theorem issue_result_eq_token_iff {d : Deployment} {m : Manager} {session token : Option Text} :
    (d.issue m session).1.result = .ok (.token token) ↔
      (issueToken session d.clock (d.sourceOf m)).1.result = .ok token := by
  rw [issue_result]
  exact answered_eq_ok_iff fun _ _ => Answer.token.inj

end Deployment

end SealedToken
