import SealedToken.Settings.Store

namespace SealedToken

theorem Sources.value?_of_other {s : Sources} {name other : Text} (v : Value)
    (different : Text.sameName name other = false) :
    Sources.value? { s with arguments := (other, v) :: s.arguments } name = s.value? name := by
  have first : firstNamed name ((other, v) :: s.arguments) = firstNamed name s.arguments := by
    rw [firstNamed, firstNamed, List.find?_cons_of_neg]
    simp only [different, Bool.false_eq_true, not_false_eq_true]
  rw [value?, value?, first]

theorem Sources.read_of_other {α : Type} {s : Sources} {name other : Text} (v : Value)
    (different : Text.sameName name other = false) (read : Value → Except FieldProblem α)
    (default : α) :
    Sources.read { s with arguments := (other, v) :: s.arguments } name read default =
      s.read name read default := by
  rw [Sources.read, Sources.read, value?_of_other v different]

theorem Value.readSinkChoice_label (k : SinkChoice) :
    Value.readSinkChoice (.text k.label) = .ok k := by
  cases k <;> rfl

namespace Settings

theorem read_choice (s : Sources) (k : SinkChoice) :
    Sources.read { s with arguments := (diagnosticsName, .text k.label) :: s.arguments }
      diagnosticsName Value.readSinkChoice .stderr = .ok k := by
  have found : Sources.value?
      { s with arguments := (diagnosticsName, .text k.label) :: s.arguments } diagnosticsName =
      some (.text k.label) := by
    have first : firstNamed diagnosticsName ((diagnosticsName, .text k.label) :: s.arguments) =
        some (Value.text k.label) := by
      have here : Text.sameName diagnosticsName diagnosticsName = true := by decide
      rw [firstNamed, List.find?_cons, here]
      rfl
    rw [Sources.value?, first]
    rfl
  rw [Sources.read, found]
  exact Value.readSinkChoice_label k

/-- Whatever sink is chosen, the other settings and the errors are the same. -/
theorem resolve_choice (s : Sources) (k : SinkChoice) :
    resolve { s with arguments := (diagnosticsName, .text k.label) :: s.arguments } =
      (resolve { s with
        arguments := (diagnosticsName, .text SinkChoice.stderr.label) :: s.arguments }).map
          ({ · with diagnostics := k }) := by
  have logJson : Text.sameName logJsonName diagnosticsName = false := by decide
  have tokenName : Text.sameName tokenNameName diagnosticsName = false := by decide
  have allowedExpiry : Text.sameName allowedExpiryName diagnosticsName = false := by decide
  have metricsEnabled : Text.sameName metricsEnabledName diagnosticsName = false := by decide
  simp only [resolve, read_choice, Sources.read_of_other _ logJson,
    Sources.read_of_other _ tokenName, Sources.read_of_other _ allowedExpiry,
    Sources.read_of_other _ metricsEnabled]
  cases s.read logJsonName Value.readBool true with
  | error fault => rfl
  | ok j =>
    cases s.read tokenNameName Value.readText "csrf_token" with
    | error fault => rfl
    | ok n =>
      cases s.read allowedExpiryName Value.readExpiry 3600000 with
      | error fault => rfl
      | ok e => cases s.read metricsEnabledName Value.readBool false <;> rfl

end Settings

end SealedToken
