import SealedToken.Deployment.Basic

namespace SealedToken.Deployment

def shared : Nat := 0

def modifyRegistry (d : Deployment) (i : Nat) (f : Metrics → Metrics) : Deployment :=
  { d with registries := d.registries.modify i f }

def receive (d : Deployment) : Delivery → Deployment
  | .counted i kind => d.modifyRegistry i (·.recordNotice kind.label)
  | _ => d

def deliver (d : Deployment) (sink : Sink) (notice : Option Notice) : List Delivery × Deployment :=
  match notice with
  | none => ([], d)
  | some n => (sink.deliver n, (sink.deliver n).foldl receive d)

def record (d : Deployment) (m : Manager) (f : Metrics → Metrics) : Deployment :=
  match m.metrics with
  | none => d
  | some i => d.modifyRegistry i f

def issue (d : Deployment) (m : Manager) (session : Option Text) : Reply × Deployment :=
  let (call, source) := issueToken session d.clock (if m.givenSource then d.source else d.systemSource)
  let d := if m.givenSource then { d with source } else { d with systemSource := source }
  let (deliveries, d) := d.deliver m.sink call.notice
  let d := match call.result with
    | .ok (some _) => d.record m Metrics.recordIssue
    | _ => d
  ({ result := (call.result.map .token).mapError .fault, deliveries,
     draws := if m.givenSource then call.draws else [], reads := call.reads,
     debug := call.debug }, d)

def check (d : Deployment) (m : Manager) (token : Value) (session : Option Text) :
    Reply × Deployment :=
  let call := checkToken token session m.allowedExpiry d.clock
  let (deliveries, d) := d.deliver m.sink call.notice
  let d := match call.result with
    | .ok valid => d.record m (·.recordCheck valid)
    | .error _ => d
  ({ result := (call.result.map .truth).mapError .fault, deliveries, reads := call.reads,
     debug := call.debug }, d)

def refuse (d : Deployment) (f : Fault) : Reply × Deployment :=
  ({ result := .error (.fault f) }, d)

def answer (d : Deployment) (a : Answer) : Reply × Deployment :=
  ({ result := .ok a }, d)

/-- Asks something of a manager. A name that no manager was made under stands for nothing. -/
def withManager (d : Deployment) (name request : Text) (f : Manager → Reply × Deployment) :
    Reply × Deployment :=
  match d.managers.get? name with
  | some m => f m
  | none => ({ result := .error (.unanswered request) }, d)

def keep (d : Deployment) (name : Text) (m : Except Fault Manager) (a : Manager → Answer) :
    Reply × Deployment :=
  match m with
  | .ok m => { d with managers := d.managers.put name m }.answer (a m)
  | .error f => d.refuse f

/-- Makes a manager from given settings. With metrics enabled and none passed it gets a registry of
its own. -/
def appoint (d : Deployment) (name : Text) (s : Settings) (passed : Passed) : Reply × Deployment :=
  let registry := if passed.metrics then shared else d.registries.length
  match Manager.new
      { s.managerArguments registry with source := passed.source, service := passed.service } with
  | .error f => d.refuse f
  | .ok m =>
    let added : List Metrics := if !passed.metrics && s.metricsEnabled then [{}] else []
    { d with
      registries := d.registries ++ added
      managers := d.managers.put name m }.answer (.manager m)

def configureWith (d : Deployment) (name : Text) (arguments : Option Fields) (passed : Passed) :
    Reply × Deployment :=
  let (result, settings) := d.settings.select arguments
  let d := { d with settings }
  match result with
  | .error es => ({ result := .error (.fields es) }, d)
  | .ok s => d.appoint name s passed

def configure (d : Deployment) (name : Text) (arguments : Option Fields) (metrics : Bool) :
    Reply × Deployment :=
  d.configureWith name arguments { metrics }

def advanceClock (d : Deployment) (r : Reading) : Reply × Deployment :=
  match d.clock.add r with
  | .ok clock => { d with clock }.answer (.reading clock)
  | .error f => d.refuse (.clock f)

def notify (d : Deployment) (name : Text) (n : Notice) : Reply × Deployment :=
  match d.sinks.get? name with
  | some (some sink) =>
    let (deliveries, d) := d.deliver sink (some n)
    ({ result := .ok .done, deliveries }, d)
  | some none => ({ result := .error (.unanswered n.kind.request) }, d)
  | none => d.refuse (.unknownName name)

def setEnvironment (d : Deployment) (changes : Fields) (file : Option Text) :
    Reply × Deployment :=
  let (result, settings) := d.settings.update changes file
  ({ result := (result.map fun () => .done).mapError .environment }, { d with settings })

def readSettings (d : Deployment) : Reply × Deployment :=
  let (result, settings) := d.settings.get
  let d := { d with settings }
  match result with
  | .ok (s, kept) => d.answer (.settings s kept)
  | .error es => ({ result := .error (.fields es) }, d)

def sharedMetrics (d : Deployment) : Metrics :=
  d.registries.headD {}

def step (d : Deployment) : Command → Reply × Deployment
  | .construct name a => d.keep name (Manager.new a) fun _ => .done
  | .configure name a metrics => d.configure name a metrics
  | .inspect name => d.withManager name "token_name" fun m => d.answer (.manager m)
  | .issue name session => d.withManager name "generate_token" fun m => d.issue m session
  | .check name token session =>
    d.withManager name "validate_token" fun m => d.check m token session
  | .setTokenName name v => d.withManager name "token_name" fun m =>
    d.keep name ((Manager.readTokenName v).map fun tokenName => { m with tokenName })
      (.name ·.tokenName)
  | .setAllowedExpiry name v => d.withManager name "allowed_expiry" fun m =>
    d.keep name ((Manager.readAllowedExpiry v).map fun allowedExpiry => { m with allowedExpiry })
      (.expiry ·.allowedExpiry)
  | .setSink name v => d.withManager name "diagnostics" fun m =>
    d.keep name ((Manager.readSink v).map fun sink => { m with sink }) fun m => .sink (some m.sink)
  | .setClock clock => { d with clock }.answer .done
  | .advanceClock r => d.advanceClock r
  | .readClock => d.answer (.reading d.clock)
  | .nameSink name sink => { d with sinks := d.sinks.put name sink }.answer (.sink sink)
  | .isSink name =>
    match d.sinks.get? name with
    | some sink => d.answer (.truth sink.isSome)
    | none => d.refuse (.unknownName name)
  | .notify name n => d.notify name n
  | .recordIssue => (d.modifyRegistry shared Metrics.recordIssue).answer .done
  | .recordCheck v => (d.modifyRegistry shared (·.recordCheck v.isTrue)).answer .done
  | .recordNotice label => (d.modifyRegistry shared (·.recordNotice label)).answer .done
  | .sample name labels => d.answer (.count (d.sharedMetrics.value name labels))
  | .families => d.answer (.families d.sharedMetrics.families)
  | .information => d.answer (.information d.sharedMetrics.service d.sharedMetrics.version)
  | .setEnvironment changes file => d.setEnvironment changes file
  | .readSettings => d.readSettings
  | .clearSettings => { d with settings := d.settings.clear }.answer .done

def run (d : Deployment) : List Command → List Reply × Deployment
  | [] => ([], d)
  | c :: cs =>
    let (reply, d) := d.step c
    let (replies, d) := d.run cs
    (reply :: replies, d)

end SealedToken.Deployment
