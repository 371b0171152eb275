import SealedToken.Log.Event
import SealedToken.Log.Fault
import SealedToken.Log.Printed

namespace SealedToken

inductive Format
  | console
  | json
  deriving DecidableEq, Repr

/-- The pipeline before any is set up, which prints every event on the console, or one that drops
events below its threshold and tells the name of a service. -/
inductive Pipeline
  | initial
  | configured (format : Format) (service : Value) (threshold : Nat)

/-- A printed record. The layout of the console is no part of what is modelled. -/
inductive Record
  | console
  | json (fields : Fields)

namespace Pipeline

def threshold : Pipeline → Nat
  | initial => 0
  | configured _ _ threshold => threshold

def format : Pipeline → Format
  | initial => .console
  | configured format _ _ => format

/-- The fields that tell the time and the place of a call, which are no part of what is modelled. -/
def masked : Pipeline → List Text
  | initial => ["timestamp"]
  | configured _ _ _ => ["ts", "module", "func_name", "lineno"]

/-- The fields by which a caller asks for a trace, which are used up before anything is printed. -/
def usedUp : List Text :=
  ["exc_info", "stack_info"]

def addService (service : Value) (fs : Fields) : Fields :=
  Named.put "service" service fs

def gather (context bound : Fields) (e : Event) : Fields :=
  let own := Named.merge bound e.fields
  Named.merge context (match e.name with
    | .null => own
    | name => Named.put "event" name own)

def stamp (p : Pipeline) (level : Level) (fs : Fields) : Fields :=
  let fs := match p with
    | initial => fs
    | configured _ service _ => addService service fs
  (Named.put "level" (.text level.label) fs).filter fun f => !p.masked.contains f.1

def isAsked (fs : Fields) (name : Text) : Bool :=
  (fs.get? name).any Value.isTrue

def refuseGiven (fs : Fields) (name : Text) (fault : Text → LogFault) : Except LogFault Unit :=
  match fs.get? name with
  | none | some .null => .ok ()
  | some v => .error (fault v.typeName)

def checkPlace (p : Pipeline) (fs : Fields) : Except LogFault Unit :=
  match p with
  | initial => .ok ()
  | configured _ _ _ =>
    if isAsked fs "_from_structlog" then .ok () else refuseGiven fs "_record" .noAttributes

def checkJoined (fs : Fields) (name : Text) : Except LogFault Unit :=
  if ((fs.get? name).bind Value.text?).isSome then .ok () else refuseGiven fs name .notJoined

def printFields (fs : Fields) : Except LogFault Fields :=
  (Value.printedFields (fs.filter fun f => !usedUp.contains f.1)).mapError .integer

def joined : List Text :=
  ["stack", "exception"]

/-- Prints on the console. A stack that is asked for takes the place of a given one, and a cause that
of a given exception; an exception that is only asked for takes no place. -/
def printConsole (fs : Fields) (cause : Option Cause) : Except LogFault Record := do
  let _ ← printFields (fs.filter fun f => !joined.contains f.1)
  if !isAsked fs "stack_info" then checkJoined fs "stack"
  if cause.isNone then checkJoined fs "exception"
  return .console

def printJson (format : Cause → Text) (fs : Fields) (cause : Option Cause) :
    Except LogFault Record := do
  let fs := match cause with
    | some c => Named.put "exception" (.text (format c)) fs
    | none => fs
  return .json (← printFields fs)

def print (p : Pipeline) (format : Cause → Text) (context bound : Fields) (e : Event) :
    Except LogFault Record := do
  let fs := p.stamp e.level (gather context bound e)
  p.checkPlace fs
  match p.format with
  | .console => printConsole fs e.cause
  | .json => printJson format fs e.cause

def record? (p : Pipeline) (format : Cause → Text) (context bound : Fields) (e : Event) :
    Except LogFault (Option Record) := do
  if e.level.number < p.threshold then
    Taker.dropping.check e.fields
    return none
  else
    Taker.logging.check e.fields
    Taker.passing.check e.fields
    return some (← p.print format context bound e)

end Pipeline

end SealedToken
