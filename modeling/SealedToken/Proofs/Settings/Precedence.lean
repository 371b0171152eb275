import SealedToken.Proofs.Settings.Meaning

namespace SealedToken

/-- The five settings, in the order in which their errors are reported. -/
inductive Setting
  | logJson
  | tokenName
  | allowedExpiry
  | diagnostics
  | metricsEnabled
  deriving DecidableEq, Repr

namespace Setting

def all : List Setting :=
  [logJson, tokenName, allowedExpiry, diagnostics, metricsEnabled]

theorem mem_all (f : Setting) : f ∈ all := by
  cases f <;> decide

def name : Setting → Text
  | logJson => "LOG_JSON"
  | tokenName => "CSRF_TOKEN_NAME"
  | allowedExpiry => "CSRF_ALLOWED_EXPIRY_MS"
  | diagnostics => "CSRF_DIAGNOSTICS"
  | metricsEnabled => "CSRF_METRICS_ENABLED"

def Kind : Setting → Type
  | logJson | metricsEnabled => Bool
  | tokenName => Text
  | allowedExpiry => Nat
  | diagnostics => SinkChoice

def read : (f : Setting) → Value → Except FieldProblem f.Kind
  | logJson | metricsEnabled => Value.readBool
  | tokenName => Value.readText
  | allowedExpiry => Value.readExpiry
  | diagnostics => Value.readSinkChoice

def of (x : Settings) : (f : Setting) → f.Kind
  | logJson => x.logJson
  | tokenName => x.tokenName
  | allowedExpiry => x.allowedExpiry
  | diagnostics => x.diagnostics
  | metricsEnabled => x.metricsEnabled

def default : (f : Setting) → f.Kind
  | logJson => true
  | tokenName => ("csrf_token" : Text)
  | allowedExpiry => (3600000 : Nat)
  | diagnostics => SinkChoice.stderr
  | metricsEnabled => false

def Means : (f : Setting) → Value → f.Kind → Prop
  | logJson | metricsEnabled => Value.IsTruth
  | tokenName => Value.IsText
  | allowedExpiry => fun v (n : Nat) => v.IsInteger n
  | diagnostics => Value.IsChoice

theorem read_eq_ok_iff {f : Setting} {v : Value} {x : f.Kind} :
    f.read v = .ok x ↔ f.Means v x := by
  cases f with
  | logJson | metricsEnabled => exact Value.readBool_eq_ok_iff
  | tokenName => exact Value.readText_eq_ok_iff
  | allowedExpiry => exact Value.readExpiry_eq_ok_iff
  | diagnostics => exact Value.readSinkChoice_eq_ok_iff

end Setting

inductive Origin
  | arguments
  | environment
  | file
  deriving DecidableEq, Repr

def Origin.before : Origin → Origin → Bool
  | arguments, environment | arguments, file | environment, file => true
  | _, _ => false

namespace Named

variable {α : Type} {name : Text} {entries : Named α} {v : α}

/-- Whether at most one entry has a name, in whatever spelling. -/
def SpelledOnce (name : Text) (entries : Named α) : Prop :=
  entries.countP (fun e => e.1.Spells name) ≤ 1

instance : Decidable (SpelledOnce name entries) :=
  inferInstanceAs (Decidable (_ ≤ _))

theorem firstNamed_eq_some_iff (once : SpelledOnce name entries) :
    firstNamed name entries = some v ↔ ∃ n, (n, v) ∈ entries ∧ n.Spells name := by
  rw [SpelledOnce, List.countP_eq_length_filter] at once
  have kept (n : Text) : (n, v) ∈ entries ∧ n.Spells name ↔
      (n, v) ∈ entries.filter fun e => e.1.Spells name := by
    rw [List.mem_filter, decide_eq_true_iff]
  simp only [firstNamed, Text.sameName_eq_decide, ← List.head?_filter, kept]
  cases left : entries.filter fun e => e.1.Spells name with
  | nil => simp
  | cons e rest =>
    obtain ⟨n, w⟩ := e
    have alone : rest = [] := by
      rw [left, List.length_cons] at once
      exact List.eq_nil_of_length_eq_zero (by omega)
    simp [alone, eq_comm]

theorem lastNamed_eq_some_iff (once : SpelledOnce name entries) :
    lastNamed name entries = some v ↔ ∃ n, (n, v) ∈ entries ∧ n.Spells name := by
  have once' : SpelledOnce name entries.reverse := by
    rw [SpelledOnce, List.countP_reverse]
    exact once
  rw [lastNamed, firstNamed_eq_some_iff once']
  simp only [List.mem_reverse]

end Named

namespace Sources

def SpelledOnce (s : Sources) : Prop :=
  ∀ f ∈ Setting.all, Named.SpelledOnce f.name s.arguments ∧
    Named.SpelledOnce f.name s.environment ∧ Named.SpelledOnce f.name s.file

instance (s : Sources) : Decidable s.SpelledOnce :=
  inferInstanceAs (Decidable (∀ f ∈ Setting.all, _))

/-- The entries of a source. A name without a value in the file makes none. -/
def entries (s : Sources) : Origin → Fields
  | .arguments => s.arguments
  | .environment => s.environment.map fun (n, t) => (n, .text t)
  | .file => s.file.filterMap fun (n, t) => t.map fun t => (n, .text t)

def Supplies (s : Sources) (o : Origin) (f : Setting) (v : Value) : Prop :=
  ∃ n, (n, v) ∈ s.entries o ∧ n.Spells f.name

def Masks (s : Sources) (o : Origin) (f : Setting) : Prop :=
  ∃ o' v, o'.before o = true ∧ s.Supplies o' f v

/-- What a setting takes: what the value that nothing masks stands for, if anything, or its
default. -/
inductive Takes (s : Sources) (f : Setting) : Except FieldProblem f.Kind → Prop
  | supplied {o : Origin} {v : Value} {x : f.Kind} (supplies : s.Supplies o f v)
      (first : ¬ s.Masks o f) (means : f.Means v x) : Takes s f (.ok x)
  | refused {o : Origin} {v : Value} {p : FieldProblem} (supplies : s.Supplies o f v)
      (first : ¬ s.Masks o f) (meaningless : ∀ x, ¬ f.Means v x) (problem : f.read v = .error p) :
      Takes s f (.error p)
  | missing (nowhere : ∀ o v, ¬ s.Supplies o f v) : Takes s f (.ok f.default)

def found (s : Sources) (f : Setting) : Origin → Option Value
  | .arguments => firstNamed f.name s.arguments
  | .environment => (lastNamed f.name s.environment).map .text
  | .file => (lastNamed f.name s.file).join.map .text

def taken (s : Sources) (f : Setting) : Except FieldProblem f.Kind :=
  s.read f.name f.read f.default

variable {s s' : Sources} {f : Setting} {o : Origin} {v : Value}
  {r : Except FieldProblem f.Kind}

theorem takes_read (supplies : s.Supplies o f v) (first : ¬ s.Masks o f) :
    s.Takes f (f.read v) := by
  cases read : f.read v with
  | ok x => exact .supplied supplies first (Setting.read_eq_ok_iff.mp read)
  | error p =>
    refine .refused supplies first (fun x means => ?_) read
    cases read.symm.trans (Setting.read_eq_ok_iff.mpr means)

theorem Takes.cases_read (takes : s.Takes f r) :
    (∃ o v, s.Supplies o f v ∧ ¬ s.Masks o f ∧ r = f.read v) ∨
      (∀ o v, ¬ s.Supplies o f v) ∧ r = .ok f.default := by
  cases takes with
  | supplied supplies first means =>
    exact .inl ⟨_, _, supplies, first, (Setting.read_eq_ok_iff.mpr means).symm⟩
  | refused supplies first _ problem => exact .inl ⟨_, _, supplies, first, problem.symm⟩
  | missing nowhere => exact .inr ⟨nowhere, rfl⟩

theorem supplies_iff (once : s.SpelledOnce) : s.Supplies o f v ↔ s.found f o = some v := by
  obtain ⟨arguments, environment, file⟩ := once f f.mem_all
  cases o with
  | arguments => exact (Named.firstNamed_eq_some_iff arguments).symm
  | environment =>
    simp only [Supplies, entries, found, List.mem_map, Option.map_eq_some_iff,
      Named.lastNamed_eq_some_iff environment]
    constructor
    · rintro ⟨_, ⟨⟨n, t⟩, member, same⟩, named⟩
      cases same
      exact ⟨t, ⟨n, member, named⟩, rfl⟩
    · rintro ⟨t, ⟨n, member, named⟩, rfl⟩
      exact ⟨n, ⟨(n, t), member, rfl⟩, named⟩
  | file =>
    simp only [Supplies, entries, found, List.mem_filterMap, Option.map_eq_some_iff,
      Option.join_eq_some_iff, Named.lastNamed_eq_some_iff file]
    constructor
    · rintro ⟨_, ⟨⟨n, t?⟩, member, t, same, made⟩, named⟩
      cases same
      cases made
      exact ⟨t, ⟨n, member, named⟩, rfl⟩
    · rintro ⟨t, ⟨n, member, named⟩, rfl⟩
      exact ⟨n, ⟨(n, some t), member, t, rfl, rfl⟩, named⟩

theorem nowhere_iff (once : s.SpelledOnce) :
    (∀ v, ¬ s.Supplies o f v) ↔ s.found f o = none := by
  simp only [supplies_iff once, Option.eq_none_iff_forall_ne_some, ne_eq]

theorem not_masks_iff (once : s.SpelledOnce) :
    ¬ s.Masks o f ↔ ∀ o' : Origin, o'.before o = true → s.found f o' = none := by
  simp only [Masks, not_exists, not_and, ← nowhere_iff once]
  exact ⟨fun first o' before v => first o' v before, fun first o' v before => first o' before v⟩

theorem value?_eq (s : Sources) (f : Setting) : s.value? f.name =
    (s.found f .arguments).or ((s.found f .environment).or (s.found f .file)) := rfl

theorem taken_of_found (supplied : s.found f o = some v)
    (first : ∀ o' : Origin, o'.before o = true → s.found f o' = none) : s.taken f = f.read v := by
  have value : s.value? f.name = some v := by
    cases o with
    | arguments => rw [value?_eq, supplied, Option.some_or]
    | environment => rw [value?_eq, first .arguments rfl, supplied, Option.none_or, Option.some_or]
    | file =>
      rw [value?_eq, first .arguments rfl, first .environment rfl, supplied, Option.none_or,
        Option.none_or]
  rw [taken, Sources.read, value]

theorem taken_of_nowhere (nowhere : ∀ o, s.found f o = none) : s.taken f = .ok f.default := by
  have value : s.value? f.name = none := by
    rw [value?_eq, nowhere, nowhere, nowhere, Option.none_or, Option.none_or]
  rw [taken, Sources.read, value]

theorem takes_of_found (once : s.SpelledOnce) (supplied : s.found f o = some v)
    (first : ∀ o' : Origin, o'.before o = true → s.found f o' = none) : s.Takes f (s.taken f) := by
  rw [taken_of_found supplied first]
  exact takes_read ((supplies_iff once).mpr supplied) ((not_masks_iff once).mpr first)

theorem takes_taken (once : s.SpelledOnce) (f : Setting) : s.Takes f (s.taken f) := by
  cases given : s.found f .arguments with
  | some v => exact takes_of_found once given nofun
  | none =>
    cases assigned : s.found f .environment with
    | some v =>
      refine takes_of_found once assigned fun o before => ?_
      cases o with
      | arguments => exact given
      | _ => cases before
    | none =>
      cases filed : s.found f .file with
      | some v =>
        refine takes_of_found once filed fun o before => ?_
        cases o with
        | arguments => exact given
        | environment => exact assigned
        | file => cases before
      | none =>
        have nowhere (o : Origin) : s.found f o = none := by
          cases o with
          | arguments => exact given
          | environment => exact assigned
          | file => exact filed
        rw [taken_of_nowhere nowhere]
        exact .missing fun o => (nowhere_iff once).mpr (nowhere o)

theorem takes_iff (once : s.SpelledOnce) : s.Takes f r ↔ r = s.taken f := by
  constructor
  · intro takes
    rcases takes.cases_read with ⟨o, v, supplies, first, rfl⟩ | ⟨nowhere, rfl⟩
    · exact (taken_of_found ((supplies_iff once).mp supplies) ((not_masks_iff once).mp first)).symm
    · exact (taken_of_nowhere fun o => (nowhere_iff once).mp (nowhere o)).symm
  · rintro rfl
    exact takes_taken once f

/-- Whether two lists of sources supply the same, wherever the first does not mask it. -/
def SameUnmasked (s s' : Sources) : Prop :=
  ∀ f o, s.Masks o f ∨ ∀ v, s'.Supplies o f v ↔ s.Supplies o f v

theorem masks_of_before {o' : Origin} (masked : s.Masks o' f) (before : o'.before o = true) :
    s.Masks o f := by
  obtain ⟨o'', v, before', supplies⟩ := masked
  have first : o''.before o = true := by
    revert before before'
    cases o'' <;> cases o' <;> cases o <;> decide
  exact ⟨o'', v, first, supplies⟩

theorem takes_of_sameUnmasked (same : s.SameUnmasked s') (takes : s.Takes f r) :
    s'.Takes f r := by
  rcases takes.cases_read with ⟨o, v, supplies, first, rfl⟩ | ⟨nowhere, rfl⟩
  · refine takes_read (((same f o).resolve_left first v).mpr supplies) ?_
    rintro ⟨o', v', before, supplies'⟩
    -- What masks a source masks those after it, so a source before an unmasked one is unmasked.
    have unmasked : ¬ s.Masks o' f := fun masked => first (masks_of_before masked before)
    exact first ⟨o', v', before, ((same f o').resolve_left unmasked v').mp supplies'⟩
  · refine .missing fun o v supplies' => ?_
    have unmasked : ¬ s.Masks o f := fun ⟨o', v', _, supplies⟩ => nowhere o' v' supplies
    exact nowhere o v (((same f o).resolve_left unmasked v).mp supplies')

theorem taken_of_sameUnmasked (once : s.SpelledOnce) (once' : s'.SpelledOnce)
    (same : s.SameUnmasked s') : s'.taken = s.taken := by
  funext f
  exact ((takes_iff once').mp (takes_of_sameUnmasked same (takes_taken once f))).symm

end Sources

namespace Settings

variable {s s' : Sources} {x : Settings} {es : List FieldError}

def errors (taken : (f : Setting) → Except FieldProblem f.Kind) : List FieldError :=
  Setting.all.flatMap fun f =>
    match taken f with
    | .ok _ => []
    | .error p => [⟨f.name, p⟩]

theorem resolve_eq (s : Sources) :
    resolve s =
      match s.taken .logJson, s.taken .tokenName, s.taken .allowedExpiry, s.taken .diagnostics,
        s.taken .metricsEnabled with
      | .ok j, .ok n, .ok e, .ok d, .ok m => .ok ⟨j, n, e, d, m⟩
      | _, _, _, _, _ => .error (errors s.taken) := by
  have each (f : Setting) : (match s.taken f with
      | .ok _ => []
      | .error p => [⟨f.name, p⟩]) = fieldErrors f.name (s.taken f) := by
    cases s.taken f <;> rfl
  have listed : errors s.taken = fieldErrors logJsonName (s.taken .logJson) ++
      fieldErrors tokenNameName (s.taken .tokenName) ++
      fieldErrors allowedExpiryName (s.taken .allowedExpiry) ++
      fieldErrors diagnosticsName (s.taken .diagnostics) ++
      fieldErrors metricsEnabledName (s.taken .metricsEnabled) := by
    simp only [errors, each, Setting.all, List.flatMap_cons, List.flatMap_nil, List.append_nil,
      List.append_assoc]
    rfl
  rw [listed]
  rfl

theorem resolve_of_valid (valid : ∀ f, s.taken f = .ok (f.of x)) : resolve s = .ok x := by
  simp only [resolve_eq, valid]
  rfl

theorem resolve_of_invalid {f : Setting} {p : FieldProblem} (invalid : s.taken f = .error p) :
    resolve s = .error (errors s.taken) := by
  rw [resolve_eq]
  split
  · next logJson tokenName allowedExpiry diagnostics metricsEnabled =>
    cases f with
    | logJson => cases invalid.symm.trans logJson
    | tokenName => cases invalid.symm.trans tokenName
    | allowedExpiry => cases invalid.symm.trans allowedExpiry
    | diagnostics => cases invalid.symm.trans diagnostics
    | metricsEnabled => cases invalid.symm.trans metricsEnabled
  · rfl

theorem valid_or_invalid (s : Sources) :
    (∃ x : Settings, ∀ f, s.taken f = .ok (f.of x)) ∨ ∃ f p, s.taken f = .error p := by
  by_cases invalid : ∃ f p, s.taken f = .error p
  · exact .inr invalid
  · have value (f : Setting) : ∃ v, s.taken f = .ok v := by
      cases read : s.taken f with
      | ok v => exact ⟨v, rfl⟩
      | error p => exact absurd ⟨f, p, read⟩ invalid
    obtain ⟨v, read⟩ := Classical.skolem.mp value
    refine .inl ⟨⟨v .logJson, v .tokenName, v .allowedExpiry, v .diagnostics, v .metricsEnabled⟩,
      fun f => ?_⟩
    cases f <;> exact read _

theorem resolve_eq_ok_iff : resolve s = .ok x ↔ ∀ f, s.taken f = .ok (f.of x) := by
  refine ⟨fun resolved => ?_, resolve_of_valid⟩
  rcases valid_or_invalid s with ⟨x', valid⟩ | ⟨f, p, invalid⟩
  · rw [resolve_of_valid valid] at resolved
    cases resolved
    exact valid
  · rw [resolve_of_invalid invalid] at resolved
    cases resolved

theorem resolve_eq_error_iff :
    resolve s = .error es ↔ (∃ f p, s.taken f = .error p) ∧ es = errors s.taken := by
  constructor
  · intro refused
    rcases valid_or_invalid s with ⟨x, valid⟩ | ⟨f, p, invalid⟩
    · rw [resolve_of_valid valid] at refused
      cases refused
    · rw [resolve_of_invalid invalid] at refused
      cases refused
      exact ⟨⟨f, p, invalid⟩, rfl⟩
  · rintro ⟨⟨f, p, invalid⟩, rfl⟩
    exact resolve_of_invalid invalid

theorem resolve_of_taken (same : s'.taken = s.taken) : resolve s' = resolve s := by
  rw [resolve_eq, resolve_eq, same]

end Settings

end SealedToken
