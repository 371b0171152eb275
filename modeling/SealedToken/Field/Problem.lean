import SealedToken.Text.Basic

namespace SealedToken

inductive FieldProblem
  | missing
  | notText
  | textEncoding
  | notInteger
  | integerSpelling
  | integerSize
  | fraction
  | notFinite
  | notBool
  | boolSpelling
  | belowZero
  | noChoice
  | frozen
  deriving DecidableEq, Repr

namespace FieldProblem

def code : FieldProblem → Text
  | missing => "missing"
  | notText => "string_type"
  | textEncoding => "string_unicode"
  | notInteger => "int_type"
  | integerSpelling => "int_parsing"
  | integerSize => "int_parsing_size"
  | fraction => "int_from_float"
  | notFinite => "finite_number"
  | notBool => "bool_type"
  | boolSpelling => "bool_parsing"
  | belowZero => "greater_than_equal"
  | noChoice => "literal_error"
  | frozen => "frozen_instance"

def message : FieldProblem → Text
  | missing => "Field required"
  | notText => "Input should be a valid string"
  | textEncoding => "Input should be a valid string, unable to parse raw data as a unicode string"
  | notInteger => "Input should be a valid integer"
  | integerSpelling => "Input should be a valid integer, unable to parse string as an integer"
  | integerSize => "Unable to parse input string as an integer, exceeded maximum size"
  | fraction => "Input should be a valid integer, got a number with a fractional part"
  | notFinite => "Input should be a finite number"
  | notBool => "Input should be a valid boolean"
  | boolSpelling => "Input should be a valid boolean, unable to interpret input"
  | belowZero => "Input should be greater than or equal to 0"
  | noChoice => "Input should be 'stderr', 'structlog' or 'null'"
  | frozen => "Instance is frozen"

end FieldProblem

structure FieldError where
  field : Text
  problem : FieldProblem
  deriving DecidableEq, Repr

def fieldErrors (name : Text) : Except FieldProblem α → List FieldError
  | .ok _ => []
  | .error p => [⟨name, p⟩]

end SealedToken
