import QuantGateway.Foundation.CharConv

/-!
Owns `Config` of the gateway and `Config::from_env`, with the text of every error.

Does not own how the variables get into the environment.
-/

namespace QuantGateway.Core

open QuantGateway.Foundation
open QuantGateway.Foundation.CharConv

/-- `std::getenv`, or `os.environ` of a Python process. -/
abbrev Environment := Text → Option Text

/-- `Config` with its member initialisers. -/
structure Config where
  wsHost : Text := "www.deribit.com".toList
  wsPort : Text := "443".toList
  wsTarget : Text := "/ws/api/v2".toList
  clientId : Text := []
  clientSecret : Text := []
  tickerInterval : Text := "100ms".toList
  pgHost : Text := "localhost".toList
  pgPort : UInt16 := 5432
  pgDatabase : Text := []
  pgUser : Text := []
  pgPassword : Text := []
  logLevel : Text := "info".toList
deriving DecidableEq, Repr

/-- `kDefaultPostgresPort`. -/
def defaultPostgresPort : UInt16 := 5432

def readEnv (env : Environment) (name : Text) : Option Text :=
  match env name with
  | none => none
  | some [] => none
  | some value => some value

def readEnvOr (env : Environment) (name fallback : Text) : Text :=
  (readEnv env name).getD fallback

/-- `require`: the value, and the missing names with this one added if it is. -/
def require (env : Environment) (name : Text) (missing : List Text) : Text × List Text :=
  match readEnv env name with
  | none => ([], missing ++ [name])
  | some value => (value, missing)

theorem readEnv_of_some {env : Environment} {name value : Text} (set : env name = some value)
    (nonempty : value ≠ []) : readEnv env name = some value := by
  unfold readEnv
  rw [set]
  cases value with
  | nil => exact absurd rfl nonempty
  | cons letter rest => rfl

theorem require_of_some {env : Environment} {name value : Text} (set : env name = some value)
    (nonempty : value ≠ []) (missing : List Text) :
    require env name missing = (value, missing) := by
  unfold require
  rw [readEnv_of_some set nonempty]

/-- A value that was not missing is not empty. -/
theorem require_missing {env : Environment} {name : Text} {missing : List Text}
    (present : (require env name missing).2 = []) :
    missing = [] ∧ (require env name missing).1 ≠ [] := by
  unfold require at present ⊢
  unfold readEnv at present ⊢
  cases set : env name with
  | none => simp [set] at present
  | some value =>
      cases value with
      | nil => simp [set] at present
      | cons letter rest =>
          rw [set] at present
          exact ⟨present, List.cons_ne_nil _ _⟩

/-- The `what()` of the error for a port suffix. -/
def malformedPort (port : Text) : Text :=
  "POSTGRES_HOST has a malformed port suffix: ".toList ++ port

/-- The `what()` of the error for missing variables. -/
def missingVariables (missing : List Text) : Text :=
  "missing required environment variable(s): ".toList ++ ", ".toList.intercalate missing

/-- `pg_host` and `pg_port` from the value of `POSTGRES_HOST`. -/
def parseHostSpec (hostSpec : Text) : Except Text (Text × UInt16) :=
  match hostSpec.idxOf? ':' with
  | some colon =>
      let port := hostSpec.drop (colon + 1)
      match fromCharsUInt16 port with
      | some (parsed, []) =>
          if parsed = 0 then .error (malformedPort port)
          else .ok (hostSpec.take colon, parsed)
      | _ => .error (malformedPort port)
  | none => .ok (hostSpec, defaultPostgresPort)

def Config.fromEnv (env : Environment) : Except Text Config :=
  let (clientId, missing) := require env "CLIENT_ID".toList []
  let (clientSecret, missing) := require env "CLIENT_SECRET".toList missing
  let (hostSpec, missing) := require env "POSTGRES_HOST".toList missing
  match parseHostSpec hostSpec with
  | .error what => .error what
  | .ok (pgHost, pgPort) =>
      let (pgDatabase, missing) := require env "POSTGRES_DATABASE".toList missing
      let (pgUser, missing) := require env "POSTGRES_USER".toList missing
      let (pgPassword, missing) := require env "POSTGRES_PASSWORD".toList missing
      if missing ≠ [] then .error (missingVariables missing)
      else
        let config : Config := {}
        .ok
          { wsHost := readEnvOr env "DERIBIT_WS_HOST".toList config.wsHost
            wsPort := readEnvOr env "DERIBIT_WS_PORT".toList config.wsPort
            clientId := clientId
            clientSecret := clientSecret
            tickerInterval := readEnvOr env "DERIBIT_TICKER_INTERVAL".toList config.tickerInterval
            pgHost := pgHost
            pgPort := pgPort
            pgDatabase := pgDatabase
            pgUser := pgUser
            pgPassword := pgPassword
            logLevel := readEnvOr env "QUANT_LOG_LEVEL".toList config.logLevel }

end QuantGateway.Core
