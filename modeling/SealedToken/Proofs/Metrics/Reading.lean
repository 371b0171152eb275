import SealedToken.Metrics
import SealedToken.Proofs.Named

namespace SealedToken

namespace Counter

theorem count_increment (c : Counter) (label other : Text) :
    count (increment c label) other = count c other + if label = other then 1 else 0 := by
  by_cases same : label = other
  · subst same
    rw [count, increment, Named.get?_put_self, Option.getD_some, if_pos rfl]
  · rw [count, increment, Named.get?_put_of_ne _ _ (Ne.symm same), if_neg same]
    rfl

end Counter

namespace Metrics

variable {m : Metrics} {name other : Text}

theorem sameLabels_one (label value value' : Text) :
    sameLabels [(label, .text value)] [(label, value')] = (value == value') := by
  simp [sameLabels, Named.get?, Value.text?]

theorem find?_samples (name label value : Text) (c : Counter) :
    (samples name label c).find?
        (fun s => s.name == name && sameLabels [(label, .text value)] s.labels) =
      (c.get? value).map fun n => ⟨name, [(label, value)], n⟩ := by
  have found := (Named.find?_mergeSort c value).trans (Named.find?_name c value)
  simp only [samples, List.find?_map, Function.comp_def, BEq.rfl, Bool.true_and, sameLabels_one,
    found, Option.map_map]

def Lack (ss : List Sample) (name : Text) : Prop :=
  ∀ s ∈ ss, s.name ≠ name

theorem lack_samples (different : name ≠ other) (label : Text) (c : Counter) :
    Lack (samples name label c) other := by
  intro s member
  obtain ⟨e, _, rfl⟩ := List.mem_map.mp member
  exact different

theorem lack_one (different : name ≠ other) (labels : Named Text) (n : Nat) :
    Lack [⟨name, labels, n⟩] other := by
  intro s member
  rw [List.mem_singleton.mp member]
  exact different

theorem Lack.append {ss ss' : List Sample} (lack : Lack ss name) (lack' : Lack ss' name) :
    Lack (ss ++ ss') name := by
  intro s member
  rcases List.mem_append.mp member with member | member
  · exact lack s member
  · exact lack' s member

theorem Lack.find?_eq_none {ss : List Sample} (lack : Lack ss name) (labels : Fields) :
    ss.find? (fun s => s.name == name && sameLabels labels s.labels) = none := by
  rw [List.find?_eq_none]
  intro s member
  simp [lack s member]

theorem value_of_find? {before ss after : List Sample} {labels : Fields} {found : Option Sample}
    (parts : m.families.flatMap (·.samples) = before ++ (ss ++ after))
    (lack : Lack before name) (lack' : Lack after name)
    (looked : ss.find? (fun s => s.name == name && sameLabels labels s.labels) = found) :
    m.value name labels = (found.map (·.value)).getD 0 := by
  rw [value, parts, List.find?_append, List.find?_append, lack.find?_eq_none,
    lack'.find?_eq_none, looked, Option.none_or, Option.or_none]
  cases found <;> rfl

def quiet (m : Metrics) : Metrics :=
  { m with notices := [] }

theorem value_quiet (m : Metrics) (different : name ≠ "csrf_diagnostics_total") (labels : Fields) :
    m.quiet.value name labels = m.value name labels := by
  have lack := lack_samples different.symm "kind"
  have parts : ∀ m : Metrics, m.families.flatMap (·.samples) =
      samples "csrf_diagnostics_total" "kind" m.notices ++
        (m.families.tail.flatMap (·.samples) ++ []) := by
    intro m
    rw [List.append_nil]
    rfl
  rw [value_of_find? (parts m) (lack m.notices) nofun rfl,
    value_of_find? (parts m.quiet) (lack m.quiet.notices) nofun rfl]
  rfl

theorem value_issued (m : Metrics) : m.value "csrf_tokens_generated_total" [] = m.issued := by
  have notices : ("csrf_diagnostics_total" : Text) ≠ "csrf_tokens_generated_total" := by decide
  have checks : ("csrf_tokens_validated_total" : Text) ≠ "csrf_tokens_generated_total" := by decide
  have names : ("csrfguard_info" : Text) ≠ "csrf_tokens_generated_total" := by decide
  have after := (lack_samples checks "result" m.checked).append
    (lack_one names [("service", m.service), ("version", m.version)] 1)
  have parts : m.families.flatMap (·.samples) =
    _ ++ ([⟨"csrf_tokens_generated_total", [], m.issued⟩] ++ _) := rfl
  rw [value_of_find? parts (lack_samples notices "kind" m.notices) after rfl]
  rfl

theorem value_checked (m : Metrics) (label : Text) :
    m.value "csrf_tokens_validated_total" [("result", .text label)] =
      Counter.count m.checked label := by
  have notices : ("csrf_diagnostics_total" : Text) ≠ "csrf_tokens_validated_total" := by decide
  have issues : ("csrf_tokens_generated_total" : Text) ≠ "csrf_tokens_validated_total" := by decide
  have names : ("csrfguard_info" : Text) ≠ "csrf_tokens_validated_total" := by decide
  have before := (lack_samples notices "kind" m.notices).append (lack_one issues [] m.issued)
  have after := lack_one names [("service", m.service), ("version", m.version)] 1
  have parts : m.families.flatMap (·.samples) = _ ++ (_ ++ _) := (List.append_assoc _ _ _).symm
  rw [value_of_find? parts before after (find?_samples _ "result" label _),
    Option.map_map, Counter.count]
  cases m.checked.get? label <;> rfl

theorem value_notices (m : Metrics) (label : Text) :
    m.value "csrf_diagnostics_total" [("kind", .text label)] = Counter.count m.notices label := by
  have issues : ("csrf_tokens_generated_total" : Text) ≠ "csrf_diagnostics_total" := by decide
  have checks : ("csrf_tokens_validated_total" : Text) ≠ "csrf_diagnostics_total" := by decide
  have names : ("csrfguard_info" : Text) ≠ "csrf_diagnostics_total" := by decide
  have after := (lack_one issues [] m.issued).append
    ((lack_samples checks "result" m.checked).append
      (lack_one names [("service", m.service), ("version", m.version)] 1))
  have parts : m.families.flatMap (·.samples) = [] ++ (_ ++ _) := rfl
  rw [value_of_find? parts nofun after (find?_samples _ "kind" label _),
    Option.map_map, Counter.count]
  cases m.notices.get? label <;> rfl

end Metrics

end SealedToken
