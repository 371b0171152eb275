import SealedToken.Field.Reading
import SealedToken.Text.Utf8
import SealedToken.Token.Payload

namespace SealedToken

def Parts.ofFields (fs : Fields) : Except (List FieldError) Parts :=
  let tokenId := Fields.required fs "token_id" Value.readText
  let ciphertextHex := Fields.required fs "ciphertext_hex" Value.readText
  match tokenId, ciphertextHex with
  | .ok a, .ok b => .ok ⟨a, b⟩
  | _, _ => .error (fieldErrors "token_id" tokenId ++ fieldErrors "ciphertext_hex" ciphertextHex)

def Payload.ofFields (fs : Fields) : Except (List FieldError) Payload :=
  let session := Fields.required fs "session_id" Value.readText
  let issuedAt := Fields.required fs "issued_at" Value.readInt
  match session, issuedAt with
  | .ok s, .ok n => .ok ⟨s, n⟩
  | _, _ => .error (fieldErrors "session_id" session ++ fieldErrors "issued_at" issuedAt)

def Parts.typeName : Text := "TokenParts"

def Payload.typeName : Text := "TokenPayload"

inductive AssignmentFault
  | frozen (name : Text)
  | notClass (type : Text)
  | notDictionary (type : Text)
  | notWritable (owner name : Text)
  | noSetter (owner name : Text)
  deriving DecidableEq, Repr

namespace AssignmentFault

def message : AssignmentFault → Text
  | frozen _ => FieldProblem.frozen.message
  | notClass type => "__class__ must be set to a class, not '" ++ type ++ "' object"
  | notDictionary type => "__dict__ must be set to a dictionary, not a '" ++ type ++ "'"
  | notWritable owner name =>
    "attribute '" ++ name ++ "' of '" ++ owner ++ "' objects is not writable"
  | noSetter owner name => "property '" ++ name ++ "' of '" ++ owner ++ "' object has no setter"

def faultClass : AssignmentFault → FaultClass
  | frozen _ => .validation
  | notClass _ | notDictionary _ => .type
  | notWritable _ _ | noSetter _ _ => .missingAttribute

end AssignmentFault

/-- What comes of assigning an attribute of parts or of a payload, whose type is named. Their fields
are frozen, and so is every name but those that begin with an underscore. Of these, one takes only a
class, which no value is, one only named values, and three can only be read. -/
def assignAttribute (owner name : Text) (v : Value) : Except AssignmentFault Unit :=
  if name = "__class__" then .error (.notClass v.typeName)
  else if name = "__dict__" then
    match v with
    | .fields _ => .ok ()
    | v => .error (.notDictionary v.typeName)
  else if name = "__weakref__" then .error (.notWritable owner name)
  else if name = "__fields__" ∨ name = "__fields_set__" then .error (.noSetter owner name)
  else if name.head? = some Decimal.underscore then .ok ()
  else .error (.frozen (Utf8.replaced name))

end SealedToken
