import SealedToken.Settings.Basic
import SealedToken.Settings.Environment

namespace SealedToken

structure SettingsStore where
  environment : Environment := []
  file : Text := []
  kept : Option Settings := none

namespace SettingsStore

/-- Replaces the file. A text without an encoding leaves it empty. -/
def write (s : SettingsStore) (file : Text) : Except EnvironmentFault Unit × SettingsStore :=
  match Utf8.encode file with
  | .ok _ => (.ok (), { s with file })
  | .error f => (.error (.encoding f), { s with file := [] })

def update (s : SettingsStore) (changes : Fields) (file : Option Text) :
    Except EnvironmentFault Unit × SettingsStore :=
  let (fault, environment) := s.environment.assignAll changes
  let s := { s with environment }
  match fault, file with
  | some f, _ => (.error f, s)
  | none, some file => s.write file
  | none, none => (.ok (), s)

def fromArguments (s : SettingsStore) (arguments : Fields) : Except (List FieldError) Settings :=
  Settings.resolve { arguments, environment := s.environment }

def fresh (s : SettingsStore) : Except (List FieldError) Settings :=
  Settings.resolve { environment := s.environment, file := EnvironmentFile.parse s.file }

def get (s : SettingsStore) : Except (List FieldError) (Settings × Bool) × SettingsStore :=
  match s.kept with
  | some settings => (.ok (settings, true), s)
  | none =>
    match s.fresh with
    | .ok settings => (.ok (settings, false), { s with kept := some settings })
    | .error es => (.error es, s)

def select (s : SettingsStore) : Option Fields → Except (List FieldError) Settings × SettingsStore
  | some arguments => (s.fromArguments arguments, s)
  | none =>
    let (result, s) := s.get
    (result.map (·.1), s)

def clear (s : SettingsStore) : SettingsStore :=
  { s with kept := none }

end SettingsStore

end SealedToken
