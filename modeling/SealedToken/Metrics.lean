import SealedToken.Named
import SealedToken.Notice.Basic
import SealedToken.Value

namespace SealedToken

abbrev Counter := Named Nat

namespace Counter

def count (c : Counter) (label : Text) : Nat :=
  (c.get? label).getD 0

def increment (c : Counter) (label : Text) : Counter :=
  Named.put label (Counter.count c label + 1) c

end Counter

structure Sample where
  name : Text
  labels : Named Text
  value : Nat
  deriving DecidableEq, Repr

structure Family where
  name : Text
  type : Text
  help : Text
  samples : List Sample
  deriving DecidableEq, Repr

structure Metrics where
  service : Text := "csrfguard"
  version : Text := "0.1.0"
  issued : Nat := 0
  checked : Counter := []
  notices : Counter := []

namespace Metrics

def recordIssue (m : Metrics) : Metrics :=
  { m with issued := m.issued + 1 }

def resultLabel (valid : Bool) : Text :=
  if valid then "valid" else "invalid"

def recordCheck (m : Metrics) (valid : Bool) : Metrics :=
  { m with checked := Counter.increment m.checked (resultLabel valid) }

def recordNotice (m : Metrics) (label : Text) : Metrics :=
  { m with notices := Counter.increment m.notices label }

def samples (name label : Text) (c : Counter) : List Sample :=
  (c.mergeSort fun a b => !decide (b.1 < a.1)).map fun (value, n) => ⟨name, [(label, value)], n⟩

def families (m : Metrics) : List Family :=
  [⟨"csrf_diagnostics", "counter", "Diagnostics notices emitted by the token codec",
      samples "csrf_diagnostics_total" "kind" m.notices⟩,
    ⟨"csrf_tokens_generated", "counter", "Total CSRF tokens generated",
      [⟨"csrf_tokens_generated_total", [], m.issued⟩]⟩,
    ⟨"csrf_tokens_validated", "counter", "Total CSRF token validations",
      samples "csrf_tokens_validated_total" "result" m.checked⟩,
    ⟨"csrfguard", "info", "csrfguard library information",
      [⟨"csrfguard_info", [("service", m.service), ("version", m.version)], 1⟩]⟩]

/-- Whether the labels asked for, without repeated names, are those of a sample. -/
def sameLabels (asked : Fields) (labels : Named Text) : Bool :=
  asked.length == labels.length &&
    labels.all fun l => (asked.get? l.1).bind Value.text? == some l.2

def value (m : Metrics) (name : Text) (labels : Fields) : Nat :=
  match (m.families.flatMap (·.samples)).find? fun s => s.name == name && sameLabels labels s.labels with
  | some s => s.value
  | none => 0

end Metrics

end SealedToken
