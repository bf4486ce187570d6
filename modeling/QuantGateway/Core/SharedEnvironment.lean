import QuantGateway.Core.Conninfo
import QuantGateway.Core.MissingVariables

/-!
Owns which configurations `Config::from_env` can make, an environment for each of them,
and what the Python ingest makes of an environment the gateway has booted from.
-/

namespace QuantGateway.Core

open QuantGateway.Foundation
open QuantGateway.Foundation.CharConv

variable {env : Environment} {config : Config}

/-! ## The configurations there are -/

/-- A configuration some environment asks for: nothing is empty but perhaps the host, and
the target is not configurable. -/
structure Config.WellFormed (config : Config) : Prop where
  wsHost : config.wsHost ≠ []
  wsPort : config.wsPort ≠ []
  wsTarget : config.wsTarget = "/ws/api/v2".toList
  clientId : config.clientId ≠ []
  clientSecret : config.clientSecret ≠ []
  tickerInterval : config.tickerInterval ≠ []
  pgHost : ':' ∉ config.pgHost
  pgPort : config.pgPort ≠ 0
  pgDatabase : config.pgDatabase ≠ []
  pgUser : config.pgUser ≠ []
  pgPassword : config.pgPassword ≠ []
  logLevel : config.logLevel ≠ []

/-- The variables that ask for a configuration. -/
def Config.variables (config : Config) : List (Text × Text) :=
  [("CLIENT_ID".toList, config.clientId),
    ("CLIENT_SECRET".toList, config.clientSecret),
    ("POSTGRES_HOST".toList, config.pgHost ++ ':' :: Nat.toDigits 10 config.pgPort.toNat),
    ("POSTGRES_DATABASE".toList, config.pgDatabase),
    ("POSTGRES_USER".toList, config.pgUser),
    ("POSTGRES_PASSWORD".toList, config.pgPassword),
    ("DERIBIT_WS_HOST".toList, config.wsHost),
    ("DERIBIT_WS_PORT".toList, config.wsPort),
    ("DERIBIT_TICKER_INTERVAL".toList, config.tickerInterval),
    ("QUANT_LOG_LEVEL".toList, config.logLevel)]

def Config.environment (config : Config) : Environment := fun name =>
  config.variables.lookup name

/-- A port the gateway has read is one it can read again. -/
theorem plainPort_toDigits {port : UInt16} (nonzero : port ≠ 0) :
    PlainPort (Nat.toDigits 10 port.toNat) := by
  have small := port.toNat_lt
  have positive : port.toNat ≠ 0 := fun isZero => nonzero (UInt16.toNat_inj.mp isZero)
  refine ⟨Nat.toDigits_ne_nil, toDigits_isDigit _, ?_, ?_⟩
  · rw [digitsValue_toDigits]
    omega
  · rw [digitsValue_toDigits]
    omega

theorem parseHostSpec_toDigits {host : Text} {port : UInt16} (absent : ':' ∉ host)
    (nonzero : port ≠ 0) :
    parseHostSpec (host ++ ':' :: Nat.toDigits 10 port.toNat) = .ok (host, port) := by
  rcases @parseHostSpec_of_colon host (Nat.toDigits 10 port.toNat) absent with
    ⟨-, parsed, denotes, read⟩ | ⟨notPlain, -⟩
  · rw [digitsValue_toDigits] at denotes
    rw [read, UInt16.toNat_inj.mp denotes]
  · exact absurd (plainPort_toDigits nonzero) notPlain

/-- What the gateway takes from `POSTGRES_HOST`: a host without a colon, and the default
port or a plain one. -/
theorem parseHostSpec_ok {hostSpec host : Text} {port : UInt16}
    (read : parseHostSpec hostSpec = .ok (host, port)) :
    ':' ∉ host ∧ port ≠ 0 ∧
      ((hostSpec = host ∧ port = defaultPostgresPort) ∨
        ∃ suffix, hostSpec = host ++ ':' :: suffix ∧ PlainPort suffix ∧
          port.toNat = digitsValue suffix) := by
  by_cases colon : ':' ∈ hostSpec
  · obtain ⟨before, suffix, rfl, absent⟩ := List.eq_append_cons_of_mem colon
    rcases @parseHostSpec_of_colon before suffix absent with
      ⟨plain, parsed, denotes, accepted⟩ | ⟨-, rejected⟩
    · rw [accepted] at read
      cases read
      refine ⟨absent, ?_, .inr ⟨suffix, rfl, plain, denotes⟩⟩
      rintro rfl
      have positive := plain.2.2.1
      rw [← denotes] at positive
      exact absurd positive (by decide)
    · rw [rejected] at read
      cases read
  · rw [parseHostSpec_of_no_colon colon] at read
    cases read
    exact ⟨colon, by decide, .inl ⟨rfl, rfl⟩⟩

theorem readEnvOr_ne_nil {name fallback : Text} (nonempty : fallback ≠ []) :
    readEnvOr env name fallback ≠ [] := by
  unfold readEnvOr
  by_cases missing : Missing env name
  · rwa [readEnv_eq_none_iff.mpr missing]
  · obtain ⟨value, set, someValue⟩ := exists_of_not_missing missing
    rwa [readEnv_of_some set someValue]

theorem exists_of_required (present : missingNames env = []) {name : Text}
    (isRequired : name ∈ requiredVariables) : ∃ value, env name = some value ∧ value ≠ [] := by
  refine exists_of_not_missing fun missing => ?_
  have listed : name ∈ missingNames env := List.mem_filter.mpr ⟨isRequired, by simpa using missing⟩
  rw [present] at listed
  cases listed

/-- Everything a successful `from_env` has read. -/
theorem fromEnv_ok (ran : Config.fromEnv env = .ok config) :
    config.WellFormed ∧
      (∃ hostSpec, env "POSTGRES_HOST".toList = some hostSpec ∧
        parseHostSpec hostSpec = .ok (config.pgHost, config.pgPort)) ∧
      env "POSTGRES_DATABASE".toList = some config.pgDatabase ∧
      env "POSTGRES_USER".toList = some config.pgUser ∧
      env "POSTGRES_PASSWORD".toList = some config.pgPassword := by
  have present : missingNames env = [] := by
    rcases fromEnv_cases env with ⟨-, port, thrown⟩ | ⟨-, -, thrown⟩ | ⟨-, present, -⟩
    · rw [thrown] at ran
      cases ran
    · rw [thrown] at ran
      cases ran
    · exact present
  obtain ⟨clientId, clientIdSet, clientIdNonempty⟩ :=
    @exists_of_required env present "CLIENT_ID".toList (by simp [requiredVariables])
  obtain ⟨secret, secretSet, secretNonempty⟩ :=
    @exists_of_required env present "CLIENT_SECRET".toList (by simp [requiredVariables])
  obtain ⟨hostSpec, hostSet, hostNonempty⟩ :=
    @exists_of_required env present "POSTGRES_HOST".toList (by simp [requiredVariables])
  obtain ⟨database, databaseSet, databaseNonempty⟩ :=
    @exists_of_required env present "POSTGRES_DATABASE".toList (by simp [requiredVariables])
  obtain ⟨user, userSet, userNonempty⟩ :=
    @exists_of_required env present "POSTGRES_USER".toList (by simp [requiredVariables])
  obtain ⟨password, passwordSet, passwordNonempty⟩ :=
    @exists_of_required env present "POSTGRES_PASSWORD".toList (by simp [requiredVariables])
  unfold Config.fromEnv at ran
  simp only [require_of_some clientIdSet clientIdNonempty,
    require_of_some secretSet secretNonempty, require_of_some hostSet hostNonempty,
    require_of_some databaseSet databaseNonempty, require_of_some userSet userNonempty,
    require_of_some passwordSet passwordNonempty] at ran
  cases read : parseHostSpec hostSpec with
  | error what =>
      rw [read] at ran
      cases ran
  | ok reading =>
      obtain ⟨host, port⟩ := reading
      rw [read] at ran
      obtain ⟨noColon, nonzero, -⟩ := parseHostSpec_ok read
      cases ran
      refine ⟨?_, ⟨hostSpec, hostSet, read⟩, databaseSet, userSet, passwordSet⟩
      constructor
      case wsTarget => rfl
      case clientId => exact clientIdNonempty
      case clientSecret => exact secretNonempty
      case pgHost => exact noColon
      case pgPort => exact nonzero
      case pgDatabase => exact databaseNonempty
      case pgUser => exact userNonempty
      case pgPassword => exact passwordNonempty
      all_goals exact readEnvOr_ne_nil (by decide)

/-- Reading the variables that ask for a configuration. -/
theorem fromEnv_environment (wellFormed : config.WellFormed) :
    Config.fromEnv config.environment = .ok config := by
  have clientId : config.environment "CLIENT_ID".toList = some config.clientId := rfl
  have secret : config.environment "CLIENT_SECRET".toList = some config.clientSecret := rfl
  have hostSpec : config.environment "POSTGRES_HOST".toList =
      some (config.pgHost ++ ':' :: Nat.toDigits 10 config.pgPort.toNat) := rfl
  have database : config.environment "POSTGRES_DATABASE".toList = some config.pgDatabase := rfl
  have user : config.environment "POSTGRES_USER".toList = some config.pgUser := rfl
  have password : config.environment "POSTGRES_PASSWORD".toList = some config.pgPassword := rfl
  have wsHost : config.environment "DERIBIT_WS_HOST".toList = some config.wsHost := rfl
  have wsPort : config.environment "DERIBIT_WS_PORT".toList = some config.wsPort := rfl
  have interval : config.environment "DERIBIT_TICKER_INTERVAL".toList =
      some config.tickerInterval := rfl
  have logLevel : config.environment "QUANT_LOG_LEVEL".toList = some config.logLevel := rfl
  unfold Config.fromEnv readEnvOr
  simp only [require_of_some clientId wellFormed.clientId,
    require_of_some secret wellFormed.clientSecret, require_of_some hostSpec (by simp),
    require_of_some database wellFormed.pgDatabase, require_of_some user wellFormed.pgUser,
    require_of_some password wellFormed.pgPassword, readEnv_of_some wsHost wellFormed.wsHost,
    readEnv_of_some wsPort wellFormed.wsPort, readEnv_of_some interval wellFormed.tickerInterval,
    readEnv_of_some logLevel wellFormed.logLevel, Option.getD_some,
    parseHostSpec_toDigits wellFormed.pgHost wellFormed.pgPort]
  rw [if_neg (by simp), ← wellFormed.wsTarget]

/-- `from_env` makes the well-formed configurations and no others, and each of them from
the variables that spell it out. -/
theorem fromEnv_range (config : Config) :
    ((∃ env, Config.fromEnv env = .ok config) ↔ config.WellFormed) ∧
    (Config.fromEnv config.environment = .ok config ↔ config.WellFormed) := by
  constructor
  · constructor
    · rintro ⟨env, ran⟩
      exact (fromEnv_ok ran).1
    · exact fun wellFormed => ⟨_, fromEnv_environment wellFormed⟩
  · exact ⟨fun ran => (fromEnv_ok ran).1, fromEnv_environment⟩

/-! ## The ingest in the environment of the gateway -/

/-- What the ingest makes of the port of an environment the gateway has booted from. -/
theorem settingsPort_of_plainPort (python : Interpreter) {port : Text} (plain : PlainPort port) :
    settingsPort python port =
      if Python.withinLimit python port.length then .ok (digitsValue port : Int)
      else .error (.valueError port) := by
  unfold settingsPort
  rw [if_neg plain.1, Python.int_digits python plain.1 plain.2.1]
  cases Python.withinLimit python port.length <;> rfl

/-- Both components write the same port. -/
theorem intText_ofNat (value : Nat) : intText (value : Int) = Nat.toDigits 10 value := by
  unfold intText
  rw [if_neg (by omega), Int.natAbs_natCast]

/-- The settings with the members of a configuration. -/
def Config.settings (config : Config) (deribitBaseUrl : Text) : Settings where
  postgresHost := config.pgHost
  postgresPort := config.pgPort.toNat
  postgresDatabase := config.pgDatabase
  postgresUser := config.pgUser
  postgresPassword := config.pgPassword
  deribitBaseUrl := deribitBaseUrl

theorem Config.settings_postgresConninfo (config : Config) (deribitBaseUrl : Text) :
    (config.settings deribitBaseUrl).postgresConninfo = config.postgresConninfo := by
  unfold Settings.postgresConninfo Config.postgresConninfo Config.settings
  simp only [intText_ofNat]

/-- The port of `POSTGRES_HOST` has no more digits than Python's `int` takes. -/
def PortWithinLimit (python : Interpreter) (env : Environment) : Prop :=
  ∀ host port, env "POSTGRES_HOST".toList = some (host ++ ':' :: port) → ':' ∉ host →
    Python.withinLimit python port.length = true

/-- Everything the ingest can make of an environment the gateway has booted from. -/
theorem settings_of_booted (python : Interpreter) (booted : Config.fromEnv env = .ok config) :
    (PortWithinLimit python env ∧ Settings.fromEnv python env = .ok
      (config.settings ((env "DERIBIT_BASE_URL".toList).getD defaultDeribitBaseUrl))) ∨
    (¬ PortWithinLimit python env ∧
      ∃ port, Settings.fromEnv python env = .error (.valueError port)) := by
  obtain ⟨-, ⟨hostSpec, hostSet, read⟩, database, user, password⟩ := fromEnv_ok booted
  obtain ⟨absent, -, shape⟩ := parseHostSpec_ok read
  unfold Settings.fromEnv PortWithinLimit
  simp only [hostSet, environ_of_some hostSet, environ_of_some database, environ_of_some user,
    environ_of_some password, bind, Except.bind]
  rcases shape with ⟨rfl, defaultPort⟩ | ⟨suffix, rfl, plain, denotes⟩
  · left
    constructor
    · intro host port same
      exact absurd (by simp [Option.some.inj same]) absent
    · rw [partition_of_no_colon absent]
      simp only [settingsPort, ↓reduceIte, Config.settings, defaultPort]
      rfl
  · have onlyCut : (∀ host port,
        some (config.pgHost ++ ':' :: suffix) = some (host ++ ':' :: port) →
          ':' ∉ host → Python.withinLimit python port.length = true) ↔
        Python.withinLimit python suffix.length = true := by
      constructor
      · exact fun every => every _ _ rfl absent
      · intro within host port same otherAbsent
        rwa [← (append_cons_inj absent otherAbsent (Option.some.inj same)).2]
    rw [onlyCut, partition_of_colon absent]
    simp only [settingsPort_of_plainPort python plain, ← denotes]
    by_cases within : Python.withinLimit python suffix.length = true
    · left
      rw [if_pos within]
      exact ⟨within, rfl⟩
    · right
      rw [if_neg within]
      exact ⟨within, suffix, rfl⟩

/-- Where the gateway boots, the ingest starts too unless the port has more digits than
Python's `int` takes, and connects with the same connection string. -/
theorem ingest_follows_gateway (python : Interpreter) (booted : Config.fromEnv env = .ok config) :
    (∀ settings, Settings.fromEnv python env = .ok settings →
      settings.postgresConninfo = config.postgresConninfo) ∧
    ((∃ settings, Settings.fromEnv python env = .ok settings) ↔ PortWithinLimit python env) := by
  rcases settings_of_booted python booted with ⟨within, started⟩ | ⟨beyond, port, refused⟩
  · rw [started]
    refine ⟨?_, iff_of_true ⟨_, rfl⟩ within⟩
    rintro _ ⟨⟩
    exact config.settings_postgresConninfo _
  · rw [refused]
    exact ⟨nofun, iff_of_false nofun beyond⟩

/-- The configuration of a gateway beside a local database. -/
def localConfig : Config where
  clientId := "id".toList
  clientSecret := "secret".toList
  pgPort := 5433
  pgDatabase := "quant".toList
  pgUser := "quant".toList
  pgPassword := "password".toList

theorem ingest_follows_gateway_localConfig :
    ∃ settings, Settings.fromEnv asciiPython localConfig.environment = .ok settings ∧
      settings.postgresConninfo = localConfig.postgresConninfo := by
  have booted : Config.fromEnv localConfig.environment = .ok localConfig := by decide +kernel
  have started : Settings.fromEnv asciiPython localConfig.environment =
      .ok (localConfig.settings defaultDeribitBaseUrl) := by
    decide +kernel
  exact ⟨_, started, (ingest_follows_gateway asciiPython booted).1 _ started⟩

end QuantGateway.Core
