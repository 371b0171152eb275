import SealedToken.Metrics
import SealedToken.Notice.Sink
import SealedToken.Settings.Basic
import SealedToken.Token.Check

namespace SealedToken

/-- The configuration of a manager. The metrics are named by their registry; the random source is
the one given to it or that of the system. -/
structure Manager where
  tokenName : Text
  allowedExpiry : Nat
  sink : Sink
  metrics : Option Nat
  givenSource : Bool
  deriving DecidableEq, Repr

def defaultExpiry : Nat := 3600000

def defaultTokenName : Text := "csrf_token"

/-- What a manager is constructed from. Randomness comes from a source or from a whole cryptographic
service, not from both. -/
structure ManagerArguments where
  tokenName : Option Text := some defaultTokenName
  allowedExpiry : Option Int := some defaultExpiry
  sink : Option Sink := none
  metrics : Option Nat := none
  source : Bool := true
  service : Bool := false

namespace Manager

def readTokenName : Option Text → Except Fault Text
  | none => .error .noTokenName
  | some n => .ok n

def readAllowedExpiry : Option Int → Except Fault Nat
  | none => .error .noExpiry
  | some n => if n < 0 then .error .negativeExpiry else .ok n.toNat

def readSink : Option Sink → Except Fault Sink
  | none => .error .noSink
  | some s => .ok s

def new (a : ManagerArguments) : Except Fault Manager :=
  if a.service && a.source then .error .twoSources
  else do
    let tokenName ← readTokenName a.tokenName
    let allowedExpiry ← readAllowedExpiry a.allowedExpiry
    return ⟨tokenName, allowedExpiry, a.sink.getD .stderr, a.metrics, a.source || a.service⟩

end Manager

def SinkChoice.sink : SinkChoice → Sink
  | stderr => .stderr
  | log => .log
  | silent => .silent

/-- The arguments that settings stand for. With metrics enabled the sink counts in the registry, too;
otherwise the registry is left alone. -/
def Settings.managerArguments (s : Settings) (registry : Nat) : ManagerArguments where
  tokenName := some s.tokenName
  allowedExpiry := some s.allowedExpiry
  sink := some (if s.metricsEnabled then .counting registry s.diagnostics.sink
    else s.diagnostics.sink)
  metrics := if s.metricsEnabled then some registry else none

/-- What is passed on to a manager that is made from settings: the shared registry, a source of
randomness, a cryptographic service. -/
structure Passed where
  metrics : Bool := false
  source : Bool := true
  service : Bool := false

end SealedToken
