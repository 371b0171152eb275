import SealedToken.Notice.Line
import SealedToken.Proofs.Text.Quoted

namespace SealedToken.Notice

variable {format format' : Cause → Text} {n n' : Notice}

theorem kind_of_eventName (same : n.eventName = n'.eventName) : n.kind = n'.kind := by
  have misuse_validation : ("csrf.misuse" : Text) ≠ "csrf.validation_failed" := by decide
  have misuse_internal : ("csrf.misuse" : Text) ≠ "csrf.internal_failure" := by decide
  have validation_internal : ("csrf.validation_failed" : Text) ≠ "csrf.internal_failure" := by decide
  cases n with
  | misuse message =>
    cases n' with
    | misuse message' => rfl
    | validation message' => exact absurd same misuse_validation
    | internal message' cause' => exact absurd same misuse_internal
  | validation message =>
    cases n' with
    | misuse message' => exact absurd same.symm misuse_validation
    | validation message' => rfl
    | internal message' cause' => exact absurd same validation_internal
  | internal message cause =>
    cases n' with
    | misuse message' => exact absurd same.symm misuse_internal
    | validation message' => exact absurd same.symm validation_internal
    | internal message' cause' => rfl

theorem level_of_kind (same : n.kind = n'.kind) : n.level = n'.level := by
  cases n <;> cases n' <;> cases same <;> rfl

theorem eventName_of_kind (same : n.kind = n'.kind) : n.eventName = n'.eventName := by
  cases n <;> cases n' <;> cases same <;> rfl

def exceptionField (exception : Option Text) : Text :=
  match exception with
  | some t => " exception=" ++ Quoted.write t
  | none => []

theorem line_eq (format : Cause → Text) (n : Notice) :
    n.line format = "ts=" ++ timeMark ++ " level=" ++ Quoted.write n.level.label ++ " event=" ++
      Quoted.write n.eventName ++ " detail=" ++ Quoted.write n.message ++
        exceptionField (n.cause?.map format) := by
  unfold line
  cases n.cause? <;> rfl

theorem exceptionField_inj {exception exception' : Option Text}
    (same : exceptionField exception = exceptionField exception') : exception = exception' := by
  cases exception with
  | none =>
    cases exception' with
    | none => rfl
    | some t' => cases same
  | some t =>
    cases exception' with
    | none => cases same
    | some t' => rw [Quoted.write_inj (List.append_cancel_left same)]

theorem line_inj : n.line format = n'.line format' ↔
    n.kind = n'.kind ∧ n.message = n'.message ∧
      n.cause?.map format = n'.cause?.map format' := by
  constructor
  · intro same
    simp only [line_eq, List.append_assoc] at same
    have same := List.append_cancel_left (List.append_cancel_left (List.append_cancel_left same))
    have same := List.append_cancel_left (Quoted.write_append_inj same).2
    obtain ⟨events, same⟩ := Quoted.write_append_inj same
    obtain ⟨messages, same⟩ := Quoted.write_append_inj (List.append_cancel_left same)
    exact ⟨kind_of_eventName events, messages, exceptionField_inj same⟩
  · rintro ⟨kinds, messages, exceptions⟩
    rw [line_eq, line_eq, level_of_kind kinds, eventName_of_kind kinds, messages, exceptions]

theorem printable_exceptionField (exception : Option Text) :
    Text.Printable (exceptionField exception) := by
  cases exception with
  | none => exact fun _ member => absurd member List.not_mem_nil
  | some t =>
    have key : Text.plain " exception=" = true := by decide +kernel
    exact (Text.printable_of_plain key).append (Quoted.printable_write t)

theorem printable_line (format : Cause → Text) (n : Notice) : Text.Printable (n.line format) := by
  have start : Text.plain ("ts=" ++ timeMark ++ " level=") = true := by decide +kernel
  have eventKey : Text.plain " event=" = true := by decide +kernel
  have detailKey : Text.plain " detail=" = true := by decide +kernel
  have level := (Text.printable_of_plain start).append (Quoted.printable_write n.level.label)
  have event := (level.append (Text.printable_of_plain eventKey)).append
    (Quoted.printable_write n.eventName)
  have detail := (event.append (Text.printable_of_plain detailKey)).append
    (Quoted.printable_write n.message)
  rw [line_eq]
  exact detail.append (printable_exceptionField _)

end SealedToken.Notice
