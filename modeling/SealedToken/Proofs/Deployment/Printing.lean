import SealedToken.Proofs.Deployment.History
import SealedToken.Proofs.Notice.Line
import SealedToken.Proofs.Notice.Sink

namespace SealedToken

def Reply.printed (r : Reply) : List Notice :=
  r.deliveries.filterMap Delivery.printed?

def Moment.printed? (e : Moment) : Option Notice :=
  match e.given? with
  | some (sink, n) => if sink.base = .stderr then some n else none
  | none => none

/-- The lines of notices. The same exception may be formatted in another way each time, since its
text tells where it was raised. -/
def linesOf (format : Nat → Cause → Text) (ns : List Notice) : List Text :=
  ns.mapIdx fun i n => n.line (format i)

def written (lines : List Text) : Text :=
  lines.flatMap (· ++ [0x0A])

theorem splitOnP_written {lines : List Text} (printable : ∀ line ∈ lines, Text.Printable line) :
    (written lines).splitOnP CodePoint.isLineBreak = lines ++ [[]] := by
  induction lines with
  | nil => rfl
  | cons line lines ih =>
    rw [List.forall_mem_cons] at printable
    have unbroken : ∀ c ∈ line, CodePoint.isLineBreak c = false := fun c member =>
      CodePoint.isLineBreak_of_printable (printable.1 c member)
    have text : written (line :: lines) = line ++ 0x0A :: written lines := by
      simp [written]
    rw [text, List.splitOnP_append_cons_of_forall_mem unbroken _ rfl, ih printable.2]
    rfl

theorem printable_linesOf {format : Nat → Cause → Text} {ns : List Notice} :
    ∀ line ∈ linesOf format ns, Text.Printable line := by
  intro line member
  obtain ⟨i, _, rfl⟩ := List.mem_mapIdx.mp member
  exact Notice.printable_line _ _

theorem Moment.reply_printed (e : Moment) : e.reply.printed = e.printed?.toList := by
  unfold Reply.printed Moment.printed?
  rw [e.reply_deliveries]
  cases e.given? with
  | none => rfl
  | some given =>
    obtain ⟨sink, n⟩ := given
    simp only [Option.map_some, Option.getD_some, Sink.printed_deliver]
    split <;> rfl

namespace Deployment

variable {d : Deployment} {name : Text} {sink : Sink}

def printed (d : Deployment) (cs : List Command) : List Notice :=
  (d.run cs).1.flatMap Reply.printed

theorem printed_eq (d : Deployment) (cs : List Command) :
    d.printed cs = (d.history cs).filterMap Moment.printed? := by
  rw [printed, run_replies]
  generalize d.history cs = es
  induction es with
  | nil => rfl
  | cons e es ih =>
    rw [List.map_cons, List.flatMap_cons, ih, e.reply_printed]
    cases told : e.printed? with
    | none => rw [List.filterMap_cons_none told]; rfl
    | some n => rw [List.filterMap_cons_some told]; rfl

theorem printed?_notify (found : d.sinks.get? name = some (some sink)) (ns : List Notice) :
    (d.history (ns.map (.notify name))).filterMap Moment.printed? =
      ns.filterMap fun n => if sink.base = .stderr then some n else none := by
  induction ns generalizing d with
  | nil => rfl
  | cons n ns ih =>
    have given : Moment.given? ⟨d, .notify name n⟩ = some (sink, n) := by
      simp only [Moment.given?, found, Option.join_some, Option.map_some]
    have told : Moment.printed? ⟨d, .notify name n⟩ =
        if sink.base = .stderr then some n else none := by
      simp only [Moment.printed?, given]
    have kept : (d.step (.notify name n)).2.sinks.get? name = some (some sink) := by
      rcases d.notify_cases name n with ⟨absent, _⟩ | ⟨_, _, notified⟩
      · rw [found] at absent
        cases absent
      · simp only [step, notified]
        exact found
    rw [List.map_cons, history, List.filterMap_cons, List.filterMap_cons, told, ih kept]

theorem printed_notify (found : d.sinks.get? name = some (some sink)) (ns : List Notice) :
    d.printed (ns.map (.notify name)) = if sink.base = .stderr then ns else [] := by
  rw [printed_eq, printed?_notify found]
  by_cases standard : sink.base = .stderr
  · simp only [standard, ↓reduceIte, List.filterMap_some]
  · simp only [standard, ↓reduceIte, List.filterMap_eq_nil_iff, implies_true]

def lines (d : Deployment) (format : Nat → Cause → Text) (cs : List Command) : List Text :=
  linesOf format (d.printed cs)

/-- A run prints one line for each notice that goes to standard error, in their order, and whoever
reads line by line finds these lines. They hold nothing but printable code points, and notices have
the same line exactly if they agree in their kind, their message and the text of their exception. -/
theorem run_prints_lines (d : Deployment) (format : Nat → Cause → Text) (cs : List Command) :
    d.lines format cs =
      ((d.history cs).filterMap Moment.printed?).mapIdx (fun i n => n.line (format i)) ∧
    (∀ (name : Text) (sink : Sink) (ns : List Notice),
      d.lines format (.nameSink name (some sink) :: ns.map (.notify name)) =
        if sink.base = .stderr then ns.mapIdx (fun i n => n.line (format i)) else []) ∧
    (written (d.lines format cs)).splitOnP CodePoint.isLineBreak = d.lines format cs ++ [[]] ∧
    (∀ line ∈ d.lines format cs, ∀ c ∈ line,
      c.printable = true ∧ c.isSurrogate = false ∧ c.isLineBreak = false) ∧
    ∀ (format format' : Cause → Text) (n n' : Notice), n.line format = n'.line format' ↔
      n.kind = n'.kind ∧ n.message = n'.message ∧
        n.cause?.map format = n'.cause?.map format' := by
  refine ⟨?_, ?_, splitOnP_written printable_linesOf, ?_, fun _ _ _ _ => Notice.line_inj⟩
  · rw [lines, printed_eq, linesOf]
  · intro name sink ns
    have found := Named.get?_put_self d.sinks name (some sink)
    have told : d.printed (.nameSink name (some sink) :: ns.map (.notify name)) =
        if sink.base = .stderr then ns else [] :=
      printed_notify (d := { d with sinks := d.sinks.put name (some sink) }) found ns
    rw [lines, told]
    split <;> rfl
  · intro line member c within
    have printable := printable_linesOf line member c within
    exact ⟨printable, CodePoint.isSurrogate_of_printable printable,
      CodePoint.isLineBreak_of_printable printable⟩

/-- A message that goes on, after a line feed, like the line of another notice, and two failures
whose exceptions end in the same line. -/
def feigned : List Notice :=
  [.misuse "it's\nts=<ts> level='error' event='csrf.internal_failure' detail=''",
    .internal "late" (.reported "ValueError" "first\nsecond"),
    .internal "late" (.reported "RuntimeError" "other\nsecond")]

def formatted (c : Cause) : Text :=
  "Traceback (most recent call last):\n  File \"app.py\", line 7, in serve\n" ++ c.name ++ ": " ++
    c.message

theorem run_prints_feigned :
    let lines := (showing (.whole 0)).lines (fun _ => formatted)
      (.nameSink "s" (some .stderr) :: feigned.map (.notify "s"))
    lines = feigned.map (Notice.line formatted) ∧ lines.Nodup ∧
      ∀ line ∈ lines, ∀ c ∈ line, c.isLineBreak = false := by
  intro lines
  have prints := run_prints_lines (showing (.whole 0)) (fun _ => formatted)
    (.nameSink "s" (some .stderr) :: feigned.map (.notify "s"))
  have three : lines = feigned.map (Notice.line formatted) := prints.2.1 "s" .stderr feigned
  have apart : feigned.Pairwise fun n n' => ¬ (n.kind = n'.kind ∧ n.message = n'.message ∧
      n.cause?.map formatted = n'.cause?.map formatted) := by decide +kernel
  refine ⟨three, ?_, fun line member c within => (prints.2.2.2.1 line member c within).2.2⟩
  rw [three, List.Nodup, List.pairwise_map]
  exact apart.imp fun differ same => differ ((prints.2.2.2.2 formatted formatted _ _).mp same)

end Deployment

end SealedToken
