import SealedToken.Manager.Basic
import SealedToken.Settings.Store

namespace SealedToken

/-- A deployment. The first registry is the shared one; others belong to managers that were given
none. -/
structure Deployment where
  clock : Reading
  source : RandomSource
  systemSource : RandomSource
  registries : List Metrics
  managers : Named Manager := []
  sinks : Named (Option Sink) := []
  settings : SettingsStore := {}

inductive Command
  | construct (manager : Text) (arguments : ManagerArguments)
  | configure (manager : Text) (arguments : Option Fields) (metrics : Bool)
  | inspect (manager : Text)
  | issue (manager : Text) (session : Option Text)
  | check (manager : Text) (token : Value) (session : Option Text)
  | setTokenName (manager : Text) (name : Option Text)
  | setAllowedExpiry (manager : Text) (expiry : Option Int)
  | setSink (manager : Text) (sink : Option Sink)
  | setClock (reading : Reading)
  | advanceClock (amount : Reading)
  | readClock
  | nameSink (name : Text) (sink : Option Sink)
  | isSink (name : Text)
  | notify (name : Text) (notice : Notice)
  | recordIssue
  | recordCheck (valid : Value)
  | recordNotice (label : Text)
  | sample (name : Text) (labels : Fields)
  | families
  | information
  | setEnvironment (changes : Fields) (file : Option Text)
  | readSettings
  | clearSettings

inductive Answer
  | done
  | manager (m : Manager)
  | token (t : Option Text)
  | name (t : Text)
  | expiry (n : Nat)
  | sink (s : Option Sink)
  | reading (r : Reading)
  | truth (b : Bool)
  | count (n : Nat)
  | families (fs : List Family)
  | information (service version : Text)
  | settings (s : Settings) (kept : Bool)

inductive Refusal
  | fault (f : Fault)
  | fields (es : List FieldError)
  | environment (f : EnvironmentFault)
  | unanswered (request : Text)
  deriving DecidableEq, Repr

def Refusal.faultClass : Refusal → FaultClass
  | .fault f => f.faultClass
  | .fields _ => .validation
  | .environment f => f.faultClass
  | .unanswered _ => .missingAttribute

def unanswered (request : Text) : Text :=
  "'" ++ Value.null.typeName ++ "' object has no attribute '" ++ request ++ "'"

structure Reply where
  result : Except Refusal Answer
  deliveries : List Delivery := []
  draws : List Nat := []
  reads : Nat := 0
  debug : List Text := []

end SealedToken
