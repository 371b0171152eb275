import SealedToken.Log.Pipeline
import SealedToken.Settings.Store
import SealedToken.Token.Call

namespace SealedToken

structure Logger where
  bound : Fields := []
  pipeline : Option Pipeline := none

/-- The logging system. Loggers are known by their index, so that names and sinks can share one. -/
structure LogSystem where
  pipeline : Option Pipeline := none
  rootLevel : Option Nat := none
  loggers : List Logger := []
  names : Named Nat := []
  sinks : Named Nat := []
  context : Fields := []
  settings : SettingsStore := {}

inductive LogCommand
  | setUp (json : Bool) (service : Value) (level : Int)
  | setUpFromSettings (arguments : Option Fields) (service : Value)
  | setEnvironment (changes : Fields) (file : Option Text)
  | nameLogger (name : Text)
  | bind (name source : Text) (fields : Fields)
  | log (logger : Text) (event : Event)
  | bindContext (fields : Fields)
  | clearContext
  | nameSink (name : Text) (logger : Option Text)
  | notify (sink : Text) (notice : Notice)

inductive LogRefusal
  | unknownLevel (level : Int)
  | unknownName (name : Text)
  | fields (es : List FieldError)
  | environment (f : EnvironmentFault)
  | fault (f : LogFault)
  deriving DecidableEq, Repr

def LogRefusal.faultClass : LogRefusal → FaultClass
  | .unknownLevel _ | .unknownName _ => .key
  | .fields _ => .validation
  | .environment f => f.faultClass
  | .fault f => f.faultClass

structure LogReply where
  result : Except LogRefusal Unit
  records : List Record := []

namespace LogSystem

def defaultService : Text := "csrfguard"

def initialRootLevel : Nat := Level.warning.number

def defaultLevel : Nat := Level.info.number

def levels : List Nat :=
  0 :: [Level.debug, .info, .warning, .error, .critical].map Level.number

/-- Puts a pipeline in force. The level of the root logger is set by the first one only. -/
def setUp (s : LogSystem) (json : Bool) (service : Value) (level : Nat) : LogSystem :=
  { s with
    pipeline := some (.configured (if json then .json else .console) service level)
    rootLevel := s.rootLevel.or (some level) }

/-- The pipeline of a logger from now on, which it keeps unless none has been set up. -/
def use (s : LogSystem) (i : Nat) : Pipeline × LogSystem :=
  match (s.loggers.getD i {}).pipeline, s.pipeline with
  | some p, _ => (p, s)
  | none, some p =>
    (p, { s with loggers := s.loggers.modify i fun l => { l with pipeline := some p } })
  | none, none => (.initial, s)

def add (s : LogSystem) (l : Logger) : LogSystem :=
  { s with loggers := s.loggers ++ [l] }

def done (s : LogSystem) : LogReply × LogSystem :=
  ({ result := .ok () }, s)

def refuse (s : LogSystem) (r : LogRefusal) : LogReply × LogSystem :=
  ({ result := .error r }, s)

def logTo (s : LogSystem) (format : Cause → Text) (i : Nat) (e : Event) : LogReply × LogSystem :=
  let bound := (s.loggers.getD i {}).bound
  let (pipeline, s) := s.use i
  match pipeline.record? format s.context bound e with
  | .ok record => ({ result := .ok (), records := record.toList }, s)
  | .error f => s.refuse (.fault f)

def withIndex (s : LogSystem) (table : Named Nat) (name : Text)
    (f : Nat → LogReply × LogSystem) : LogReply × LogSystem :=
  match table.get? name with
  | some i => f i
  | none => s.refuse (.unknownName name)

def bind (s : LogSystem) (name : Text) (i : Nat) (fields : Fields) : LogReply × LogSystem :=
  let logger := s.loggers.getD i {}
  let taker := if logger.pipeline.isSome then Taker.binding else .firstBinding
  match taker.check fields with
  | .error f => s.refuse (.fault f)
  | .ok () =>
    let (pipeline, s) := s.use i
    { s.add ⟨Named.merge logger.bound fields, some pipeline⟩ with
      names := s.names.put name s.loggers.length }.done

def step (s : LogSystem) (format : Cause → Text) : LogCommand → LogReply × LogSystem
  | .setUp json service level =>
    if 0 ≤ level ∧ level.toNat ∈ levels then (s.setUp json service level.toNat).done
    else s.refuse (.unknownLevel level)
  | .setUpFromSettings arguments service =>
    let (result, settings) := s.settings.select arguments
    let s := { s with settings }
    match result with
    | .ok chosen => (s.setUp chosen.logJson service defaultLevel).done
    | .error es => s.refuse (.fields es)
  | .setEnvironment changes file =>
    let (result, settings) := s.settings.update changes file
    match result with
    | .ok () => { s with settings }.done
    | .error f => { s with settings }.refuse (.environment f)
  | .nameLogger name => { s.add {} with names := s.names.put name s.loggers.length }.done
  | .bind name source fields => s.withIndex s.names source fun i => s.bind name i fields
  | .log logger e => s.withIndex s.names logger fun i => s.logTo format i e
  | .bindContext fields => { s with context := Named.merge s.context fields }.done
  | .clearContext => { s with context := [] }.done
  | .nameSink name none => { s.add {} with sinks := s.sinks.put name s.loggers.length }.done
  | .nameSink name (some logger) => s.withIndex s.names logger fun i =>
    { s with sinks := s.sinks.put name i }.done
  | .notify sink n => s.withIndex s.sinks sink fun i => s.logTo format i n.event

def run (s : LogSystem) (format : Cause → Text) : List LogCommand → List LogReply × LogSystem
  | [] => ([], s)
  | c :: cs =>
    let (reply, s) := s.step format c
    let (replies, s) := s.run format cs
    (reply :: replies, s)

end LogSystem

end SealedToken
