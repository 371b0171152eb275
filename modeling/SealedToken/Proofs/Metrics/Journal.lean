import SealedToken.Proofs.Metrics.Reading

namespace SealedToken

inductive Entry
  | issue
  | check (valid : Bool)
  | notice (label : Text)
  deriving DecidableEq

def Entry.isNotice : Entry → Bool
  | .notice _ => true
  | _ => false

namespace Metrics

def enter (m : Metrics) : Entry → Metrics
  | .issue => m.recordIssue
  | .check valid => m.recordCheck valid
  | .notice label => m.recordNotice label

def enterAll (m : Metrics) (es : List Entry) : Metrics :=
  es.foldl enter m

theorem enterAll_append (m : Metrics) (es es' : List Entry) :
    m.enterAll (es ++ es') = (m.enterAll es).enterAll es' :=
  List.foldl_append

theorem resultLabel_inj {valid valid' : Bool} :
    resultLabel valid = resultLabel valid' ↔ valid = valid' := by
  revert valid valid'
  decide

theorem issued_enterAll (m : Metrics) (es : List Entry) :
    (m.enterAll es).issued = m.issued + es.count .issue := by
  induction es generalizing m with
  | nil => rfl
  | cons e es ih =>
    rw [enterAll, List.foldl_cons, ← enterAll, ih, List.count_cons]
    cases e with
    | issue => simp only [enter, recordIssue, BEq.rfl, ↓reduceIte]; omega
    | check valid => rfl
    | notice label => rfl

theorem count_checked_enterAll (m : Metrics) (es : List Entry) (valid : Bool) :
    Counter.count (m.enterAll es).checked (resultLabel valid) =
      Counter.count m.checked (resultLabel valid) + es.count (.check valid) := by
  induction es generalizing m with
  | nil => rfl
  | cons e es ih =>
    rw [enterAll, List.foldl_cons, ← enterAll, ih, List.count_cons]
    cases e with
    | issue => rfl
    | check valid' =>
      simp only [enter, recordCheck, Counter.count_increment, resultLabel_inj, beq_iff_eq,
        Entry.check.injEq]
      omega
    | notice label => rfl

theorem count_notices_enterAll (m : Metrics) (es : List Entry) (label : Text) :
    Counter.count (m.enterAll es).notices label =
      Counter.count m.notices label + es.count (.notice label) := by
  induction es generalizing m with
  | nil => rfl
  | cons e es ih =>
    rw [enterAll, List.foldl_cons, ← enterAll, ih, List.count_cons]
    cases e with
    | issue => rfl
    | check valid => rfl
    | notice label' =>
      simp only [enter, recordNotice, Counter.count_increment, beq_iff_eq, Entry.notice.injEq]
      omega

theorem quiet_enterAll (m : Metrics) (es : List Entry) :
    (m.enterAll es).quiet = m.quiet.enterAll (es.filter (!·.isNotice)) := by
  induction es generalizing m with
  | nil => rfl
  | cons e es ih =>
    rw [enterAll, List.foldl_cons, ← enterAll, ih]
    cases e with
    | issue => rfl
    | check valid => rfl
    | notice label => rfl

end Metrics

end SealedToken
