import SealedToken.Notice.Basic
import SealedToken.Value

namespace SealedToken

inductive Level
  | debug
  | info
  | warning
  | error
  | critical
  deriving DecidableEq, Repr

namespace Level

def number : Level → Nat
  | debug => 10
  | info => 20
  | warning => 30
  | error => 40
  | critical => 50

def label : Level → Text
  | debug => "debug"
  | info => "info"
  | warning => "warning"
  | error => "error"
  | critical => "critical"

end Level

/-- An event. One whose name is null takes its name from the fields around it, if they have one. -/
structure Event where
  level : Level
  name : Value
  fields : Fields
  cause : Option Cause := none

namespace Notice

def eventName : Notice → Text
  | misuse _ => "csrf.misuse"
  | validation _ => "csrf.validation_failed"
  | internal _ _ => "csrf.internal_failure"

def level : Notice → Level
  | internal _ _ => .error
  | _ => .warning

def event (n : Notice) : Event where
  level := n.level
  name := .text n.eventName
  fields := ("detail", .text n.message) ::
    match n.cause? with
    | some c => [("error", .text c.message), ("error_type", .text c.name)]
    | none => []
  cause := n.cause?

end Notice

end SealedToken
