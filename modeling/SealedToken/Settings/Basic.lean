import SealedToken.Field.Reading

namespace SealedToken

inductive SinkChoice
  | stderr
  | log
  | silent
  deriving DecidableEq, Repr

def SinkChoice.label : SinkChoice → Text
  | stderr => "stderr"
  | log => "structlog"
  | silent => "null"

structure Settings where
  logJson : Bool := true
  tokenName : Text := "csrf_token"
  allowedExpiry : Nat := 3600000
  diagnostics : SinkChoice := .stderr
  metricsEnabled : Bool := false
  deriving DecidableEq, Repr

/-- Where settings come from, first to last. The file may hold names without a value. -/
structure Sources where
  arguments : Fields := []
  environment : Named Text := []
  file : Named (Option Text) := []

def firstNamed (name : Text) (entries : Named α) : Option α :=
  (entries.find? fun e => Text.sameName name e.1).map (·.2)

def lastNamed (name : Text) (entries : Named α) : Option α :=
  firstNamed name entries.reverse

/-- The value that prevails for a name. Of several spellings of the name the first prevails among
the arguments, and the last among variables and in the file. -/
def Sources.value? (s : Sources) (name : Text) : Option Value :=
  (firstNamed name s.arguments).or
    ((lastNamed name s.environment).map .text |>.or ((lastNamed name s.file).join.map .text))

def Sources.read (s : Sources) (name : Text) (read : Value → Except FieldProblem α) (default : α) :
    Except FieldProblem α :=
  match s.value? name with
  | some v => read v
  | none => .ok default

namespace Value

def readExpiry (v : Value) : Except FieldProblem Nat := do
  let n ← v.readInt
  if n < 0 then .error .belowZero else .ok n.toNat

def readSinkChoice : Value → Except FieldProblem SinkChoice
  | text t =>
    if t = SinkChoice.stderr.label then .ok .stderr
    else if t = SinkChoice.log.label then .ok .log
    else if t = SinkChoice.silent.label then .ok .silent
    else if Utf8.encodable t then .error .noChoice
    else .error .textEncoding
  | _ => .error .noChoice

end Value

namespace Settings

def logJsonName : Text := "LOG_JSON"

def tokenNameName : Text := "CSRF_TOKEN_NAME"

def allowedExpiryName : Text := "CSRF_ALLOWED_EXPIRY_MS"

def diagnosticsName : Text := "CSRF_DIAGNOSTICS"

def metricsEnabledName : Text := "CSRF_METRICS_ENABLED"

def resolve (s : Sources) : Except (List FieldError) Settings :=
  let defaults : Settings := {}
  let logJson := s.read logJsonName Value.readBool defaults.logJson
  let tokenName := s.read tokenNameName Value.readText defaults.tokenName
  let allowedExpiry := s.read allowedExpiryName Value.readExpiry defaults.allowedExpiry
  let diagnostics := s.read diagnosticsName Value.readSinkChoice defaults.diagnostics
  let metricsEnabled := s.read metricsEnabledName Value.readBool defaults.metricsEnabled
  match logJson, tokenName, allowedExpiry, diagnostics, metricsEnabled with
  | .ok j, .ok n, .ok e, .ok d, .ok m => .ok ⟨j, n, e, d, m⟩
  | _, _, _, _, _ =>
    .error (fieldErrors logJsonName logJson ++ fieldErrors tokenNameName tokenName ++
      fieldErrors allowedExpiryName allowedExpiry ++ fieldErrors diagnosticsName diagnostics ++
      fieldErrors metricsEnabledName metricsEnabled)

end Settings

end SealedToken
