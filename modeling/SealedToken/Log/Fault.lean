import SealedToken.FaultClass
import SealedToken.Value

namespace SealedToken

/-- What takes fields by name: the methods that log, the one by which they pass on what is logged,
and those that bind, of a logger that has its pipeline and of one that has none yet. -/
inductive Taker
  | logging
  | dropping
  | passing
  | binding
  | firstBinding
  deriving DecidableEq, Repr

namespace Taker

def label : Taker → Text
  | logging => "_make_filtering_bound_logger.<locals>.make_method.<locals>.meth()"
  | dropping => "_nop()"
  | passing => "BoundLoggerBase._proxy_to_logger()"
  | binding => "BoundLoggerBase.bind()"
  | firstBinding => "BoundLoggerLazyProxy.bind()"

def parameters : Taker → List Text
  | logging => ["self", "event"]
  | dropping => ["self", "event"]
  | passing => ["method_name"]
  | binding => ["self"]
  | firstBinding => ["self"]

end Taker

inductive LogFault
  | repeated (taker : Taker) (parameter : Text)
  | noAttributes (type : Text)
  | notJoined (type : Text)
  | integer (fault : Decimal.TooLong)
  deriving DecidableEq, Repr

def LogFault.message : LogFault → Text
  | .repeated taker p => taker.label ++ " got multiple values for argument '" ++ p ++ "'"
  | .noAttributes type => "'" ++ type ++ "' object has no attribute '__dict__'"
  | .notJoined type => "can only concatenate str (not \"" ++ type ++ "\") to str"
  | .integer f => f.message

def LogFault.faultClass : LogFault → FaultClass
  | .repeated _ _ | .notJoined _ => .type
  | .noAttributes _ => .missingAttribute
  | .integer _ => .value

def Taker.check (taker : Taker) (fs : Fields) : Except LogFault Unit :=
  match fs.find? fun f => taker.parameters.contains f.1 with
  | some (name, _) => .error (.repeated taker name)
  | none => .ok ()

end SealedToken
