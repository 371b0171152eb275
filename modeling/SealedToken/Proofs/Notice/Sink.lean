import SealedToken.Notice.Sink

namespace SealedToken

def Delivery.printed? : Delivery → Option Notice
  | .printed n => some n
  | _ => none

def Delivery.isCounted : Delivery → Bool
  | .counted _ _ => true
  | _ => false

namespace Sink

/-- A sink with layers put around it, the outermost one first. -/
def layered (registries : List Nat) (base : Sink) : Sink :=
  registries.foldr counting base

theorem deliver_layered (n : Notice) (registries : List Nat) (base : Sink) :
    (layered registries base).deliver n =
      (registries.map fun registry => Delivery.counted registry n.kind) ++ base.deliver n := by
  induction registries with
  | nil => rfl
  | cons registry registries ih => exact congrArg (List.cons _) ih

theorem layers_layered (registry : Nat) (registries : List Nat) (base : Sink) :
    (layered registries base).layers registry = registries.count registry + base.layers registry := by
  induction registries with
  | nil => exact (Nat.zero_add _).symm
  | cons first registries ih =>
    have inner : (layered (first :: registries) base).layers registry =
        (if first = registry then 1 else 0) + (layered registries base).layers registry := rfl
    rw [inner, ih, List.count_cons]
    simp only [beq_iff_eq]
    omega

theorem base_layered (registries : List Nat) (base : Sink) :
    (layered registries base).base = base.base := by
  induction registries with
  | nil => rfl
  | cons registry registries ih => exact ih

theorem uncounted_deliver (n : Notice) (sink : Sink) :
    (sink.deliver n).filter (!·.isCounted) = sink.base.deliver n := by
  induction sink with
  | counting registry inner ih => exact ih
  | _ => rfl

theorem printed_deliver (n : Notice) (sink : Sink) :
    (sink.deliver n).filterMap Delivery.printed? = if sink.base = .stderr then [n] else [] := by
  induction sink with
  | counting registry inner ih => exact ih
  | _ => rfl

end Sink

end SealedToken
