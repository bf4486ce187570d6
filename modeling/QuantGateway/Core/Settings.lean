import QuantGateway.Core.Config
import QuantGateway.Foundation.PythonInt

/-!
Owns `Settings` of the Python ingest and `Settings.from_env`, with every exception
it raises.
-/

namespace QuantGateway.Core

open QuantGateway.Foundation

/-- What `Settings.from_env` raises. -/
inductive SettingsError where
  | keyError (name : Text)
  | valueError (literal : Text)
deriving DecidableEq, Repr

/-- `DEFAULT_DERIBIT_BASE_URL`. -/
def defaultDeribitBaseUrl : Text := "https://www.deribit.com/api/v2".toList

structure Settings where
  postgresHost : Text
  postgresPort : Int
  postgresDatabase : Text
  postgresUser : Text
  postgresPassword : Text
  deribitBaseUrl : Text := defaultDeribitBaseUrl
deriving DecidableEq, Repr

/-- `os.environ[name]`. -/
def environ (env : Environment) (name : Text) : Except SettingsError Text :=
  match env name with
  | none => .error (.keyError name)
  | some value => .ok value

/-- `int(port) if port else DEFAULT_POSTGRES_PORT`. -/
def settingsPort (python : Interpreter) (port : Text) : Except SettingsError Int :=
  if port = [] then .ok 5432
  else
    match Python.int python port with
    | none => .error (.valueError port)
    | some value => .ok value

def Settings.fromEnv (python : Interpreter) (env : Environment) :
    Except SettingsError Settings := do
  let hostSpec ← environ env "POSTGRES_HOST".toList
  let (host, _, port) := Python.partition hostSpec ':'
  let postgresPort ← settingsPort python port
  let postgresDatabase ← environ env "POSTGRES_DATABASE".toList
  let postgresUser ← environ env "POSTGRES_USER".toList
  let postgresPassword ← environ env "POSTGRES_PASSWORD".toList
  return {
    postgresHost := host
    postgresPort := postgresPort
    postgresDatabase := postgresDatabase
    postgresUser := postgresUser
    postgresPassword := postgresPassword
    deribitBaseUrl := (env "DERIBIT_BASE_URL".toList).getD defaultDeribitBaseUrl }

end QuantGateway.Core
