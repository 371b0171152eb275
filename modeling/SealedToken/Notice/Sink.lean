import SealedToken.Log.Event

namespace SealedToken

inductive Sink
  | record
  | silent
  | stderr
  | log
  | counting (registry : Nat) (inner : Sink)
  deriving DecidableEq, Repr

inductive Delivery
  | recorded (notice : Notice)
  | printed (notice : Notice)
  | logged (event : Event)
  | counted (registry : Nat) (kind : NoticeKind)

namespace Sink

def deliver (n : Notice) : Sink → List Delivery
  | record => [.recorded n]
  | silent => []
  | stderr => [.printed n]
  | log => [.logged n.event]
  | counting registry inner => .counted registry n.kind :: inner.deliver n

def base : Sink → Sink
  | counting _ inner => inner.base
  | sink => sink

def layers (registry : Nat) : Sink → Nat
  | counting r inner => (if r = registry then 1 else 0) + inner.layers registry
  | _ => 0

end Sink

end SealedToken
