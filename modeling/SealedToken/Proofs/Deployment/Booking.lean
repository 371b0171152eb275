import SealedToken.Proofs.Deployment.Steps
import SealedToken.Proofs.Metrics.Journal

namespace SealedToken.Deployment

variable {d : Deployment}

def entriesOf (registry : Nat) : Delivery → List Entry
  | .counted i kind => if i = registry then [.notice kind.label] else []
  | _ => []

def book (d : Deployment) (entries : Nat → List Entry) : Deployment :=
  { d with registries := d.registries.mapIdx fun i m => m.enterAll (entries i) }

theorem registry_book (d : Deployment) (entries : Nat → List Entry) (i : Nat) :
    (d.book entries).registries[i]? = d.registries[i]?.map (·.enterAll (entries i)) :=
  List.getElem?_mapIdx

theorem eq_book {d' : Deployment} {entries : Nat → List Entry}
    (same : d' = { d with registries := d'.registries })
    (registries : ∀ i : Nat,
      d'.registries[i]? = d.registries[i]?.map fun m : Metrics => m.enterAll (entries i)) :
    d' = d.book entries := by
  have equal : d'.registries = (d.book entries).registries := by
    apply List.ext_getElem?
    intro i
    rw [registries, registry_book]
  rw [same, equal]
  rfl

theorem book_nil (d : Deployment) : d.book (fun _ => []) = d := by
  refine (eq_book rfl fun i => ?_).symm
  cases d.registries[i]? <;> rfl

theorem book_book (d : Deployment) (entries entries' : Nat → List Entry) :
    (d.book entries).book entries' = d.book fun i => entries i ++ entries' i := by
  refine eq_book rfl fun i => ?_
  rw [registry_book, registry_book, Option.map_map]
  cases d.registries[i]? with
  | none => rfl
  | some m => exact congrArg some (Metrics.enterAll_append m _ _).symm

theorem modifyRegistry_enter (d : Deployment) (registry : Nat) (e : Entry) :
    d.modifyRegistry registry (·.enter e) =
      d.book fun i => if registry = i then [e] else [] := by
  refine eq_book rfl fun i => ?_
  rw [modifyRegistry, List.getElem?_modify]
  by_cases here : registry = i
  · simp only [here, ↓reduceIte]
    rfl
  · simp only [here, ↓reduceIte]
    rfl

theorem receive_eq_book (d : Deployment) (delivery : Delivery) :
    d.receive delivery = d.book fun i => entriesOf i delivery := by
  cases delivery with
  | counted registry kind => exact d.modifyRegistry_enter registry (.notice kind.label)
  | _ => exact d.book_nil.symm

theorem foldl_receive_eq_book (ds : List Delivery) (d : Deployment) :
    ds.foldl receive d = d.book fun i => ds.flatMap (entriesOf i) := by
  induction ds generalizing d with
  | nil => exact d.book_nil.symm
  | cons delivery ds ih =>
    rw [List.foldl_cons, ih, receive_eq_book, book_book]
    rfl

/-- A sink makes as many entries in a registry as it has layers that count in it. -/
theorem flatMap_entriesOf_deliver (sink : Sink) (n : Notice) (i : Nat) :
    (sink.deliver n).flatMap (entriesOf i) =
      List.replicate (sink.layers i) (.notice n.kind.label) := by
  induction sink with
  | counting registry inner ih =>
    rw [Sink.deliver, List.flatMap_cons, ih, Sink.layers]
    by_cases here : registry = i
    · simp only [entriesOf, here, ↓reduceIte, Nat.add_comm 1, List.replicate_succ]
      rfl
    · simp only [entriesOf, here, ↓reduceIte, Nat.zero_add, List.nil_append]
  | _ => rfl

def noticed (sink : Sink) (notice : Option Notice) (i : Nat) : List Entry :=
  match notice with
  | none => []
  | some n => List.replicate (sink.layers i) (.notice n.kind.label)

theorem isNotice_of_noticed {sink : Sink} {notice : Option Notice} {i : Nat} {e : Entry}
    (member : e ∈ noticed sink notice i) : e.isNotice = true := by
  cases notice with
  | none => cases member
  | some n =>
    rw [List.eq_of_mem_replicate member]
    rfl

def entriesBy (m : Manager) (notice : Option Notice) (outcome : Option Entry) (i : Nat) :
    List Entry :=
  noticed m.sink notice i ++ if m.metrics = some i then outcome.toList else []

theorem deliver_after (d : Deployment) (sink : Sink) (notice : Option Notice) :
    (d.deliver sink notice).2 = d.book (noticed sink notice) := by
  cases notice with
  | none => exact d.book_nil.symm
  | some n =>
    simp only [deliver, foldl_receive_eq_book, flatMap_entriesOf_deliver]
    rfl

theorem notify_cases (d : Deployment) (name : Text) (n : Notice) :
    ((d.sinks.get? name).join = none ∧ ∃ refusal,
      d.notify name n = ({ result := .error refusal }, d)) ∨
    ∃ sink, (d.sinks.get? name).join = some sink ∧ d.notify name n =
      ({ result := .ok .done, deliveries := sink.deliver n }, d.book (noticed sink (some n))) := by
  unfold notify
  cases d.sinks.get? name with
  | none => exact .inl ⟨rfl, _, rfl⟩
  | some named =>
    cases named with
    | none => exact .inl ⟨rfl, _, rfl⟩
    | some sink =>
      have after := d.deliver_after sink (some n)
      exact .inr ⟨sink, rfl, congrArg (_, ·) after⟩

theorem record_enter (d : Deployment) (m : Manager) (e : Entry) :
    d.record m (·.enter e) = d.book fun i => if m.metrics = some i then [e] else [] := by
  unfold record
  cases m.metrics with
  | none => exact d.book_nil.symm
  | some registry =>
    simp only [modifyRegistry_enter, Option.some.injEq]

theorem deliver_record (d : Deployment) (m : Manager) (notice : Option Notice) (e : Entry) :
    (d.deliver m.sink notice).2.record m (·.enter e) =
      d.book (entriesBy m notice (some e)) := by
  rw [deliver_after, record_enter, book_book]
  rfl

theorem deliver_only (d : Deployment) (m : Manager) (notice : Option Notice) :
    (d.deliver m.sink notice).2 = d.book (entriesBy m notice none) := by
  rw [deliver_after]
  congr 1
  funext i
  simp [entriesBy]

def checkOutcome? (call : Call Bool) : Option Entry :=
  match call.result with
  | .ok valid => some (.check valid)
  | .error _ => none

def issueOutcome? (call : Call (Option Text)) : Option Entry :=
  match call.result with
  | .ok (some _) => some .issue
  | _ => none

theorem check_after (d : Deployment) (m : Manager) (token : Value) (session : Option Text) :
    (d.check m token session).2 = d.book (entriesBy m
      (checkToken token session m.allowedExpiry d.clock).notice
      (checkOutcome? (checkToken token session m.allowedExpiry d.clock))) := by
  unfold check
  generalize checkToken token session m.allowedExpiry d.clock = call
  obtain ⟨result, notice, draws, reads, debug⟩ := call
  cases result with
  | error fault => exact d.deliver_only m notice
  | ok valid => exact d.deliver_record m notice (.check valid)

def withSource (d : Deployment) (m : Manager) (source : RandomSource) : Deployment :=
  if m.givenSource then { d with source } else { d with systemSource := source }

theorem withSource_sourceOf (d : Deployment) (m : Manager) :
    d.withSource m (d.sourceOf m) = d := by
  unfold withSource sourceOf
  split <;> rfl

theorem withSource_registries (d : Deployment) (m : Manager) (source : RandomSource) :
    (d.withSource m source).registries = d.registries := by
  unfold withSource
  split <;> rfl

theorem issue_of_made {m : Manager} {session : Option Text} {call : Call (Option Text)}
    {source : RandomSource} (made : issueToken session d.clock (d.sourceOf m) = (call, source)) :
    (d.issue m session).2 =
      (d.withSource m source).book (entriesBy m call.notice (issueOutcome? call)) := by
  rw [sourceOf] at made
  simp only [issue, made]
  obtain ⟨result, notice, draws, reads, debug⟩ := call
  cases result with
  | error fault => exact (d.withSource m source).deliver_only m notice
  | ok answer =>
    cases answer with
    | none => exact (d.withSource m source).deliver_only m notice
    | some token => exact (d.withSource m source).deliver_record m notice .issue

theorem issue_after (d : Deployment) (m : Manager) (session : Option Text) :
    (d.issue m session).2 =
      (d.withSource m (issueToken session d.clock (d.sourceOf m)).2).book (entriesBy m
        (issueToken session d.clock (d.sourceOf m)).1.notice
        (issueOutcome? (issueToken session d.clock (d.sourceOf m)).1)) :=
  issue_of_made rfl

end SealedToken.Deployment
