import QuantGateway.Core.Settings

/-!
Owns the comparison of the two readers of `POSTGRES_HOST`: on which values the
gateway and the Python ingest agree.
-/

namespace QuantGateway.Core

open QuantGateway.Foundation
open QuantGateway.Foundation.CharConv

/-- The variables are set and not empty. -/
def Complete (env : Environment) (names : List Text) : Prop :=
  ∀ name ∈ names, ∃ value, env name = some value ∧ value ≠ []

/-- What the gateway requires beside `POSTGRES_HOST`. -/
def gatewayVariables : List Text :=
  ["CLIENT_ID".toList, "CLIENT_SECRET".toList, "POSTGRES_DATABASE".toList,
    "POSTGRES_USER".toList, "POSTGRES_PASSWORD".toList]

/-- What the ingest requires beside `POSTGRES_HOST`. -/
def ingestVariables : List Text :=
  ["POSTGRES_DATABASE".toList, "POSTGRES_USER".toList, "POSTGRES_PASSWORD".toList]

/-- Two readers both reject, or both accept with the same host and port. -/
def SameReading {Failure Failure' : Type} (gateway : Except Failure (Text × UInt16))
    (ingest : Except Failure' (Text × Int)) : Prop :=
  match gateway, ingest with
  | .ok (host, port), .ok (host', port') => host = host' ∧ (port.toNat : Int) = port'
  | .error _, .error _ => True
  | .ok _, .error _ => False
  | .error _, .ok _ => False

/-- The components agree on the Postgres host and port. -/
def Agree (gateway : Except Text Config) (ingest : Except SettingsError Settings) : Prop :=
  SameReading (gateway.map fun config => (config.pgHost, config.pgPort))
    (ingest.map fun settings => (settings.postgresHost, settings.postgresPort))

/-- A port number in ASCII digits. -/
def PlainPort (port : Text) : Prop :=
  port ≠ [] ∧ (∀ letter ∈ port, letter.isDigit = true) ∧
    1 ≤ digitsValue port ∧ digitsValue port ≤ 65535

/-! ## The gateway -/

/-- With every other variable set, the value of `POSTGRES_HOST` decides. -/
theorem fromEnv_of_complete {env : Environment} {value : Text}
    (complete : Complete env gatewayVariables) (set : env "POSTGRES_HOST".toList = some value)
    (nonempty : value ≠ []) :
    (Config.fromEnv env).map (fun config => (config.pgHost, config.pgPort)) =
      parseHostSpec value := by
  obtain ⟨clientId, clientIdSet, clientIdNonempty⟩ :=
    complete "CLIENT_ID".toList (by simp [gatewayVariables])
  obtain ⟨secret, secretSet, secretNonempty⟩ :=
    complete "CLIENT_SECRET".toList (by simp [gatewayVariables])
  obtain ⟨database, databaseSet, databaseNonempty⟩ :=
    complete "POSTGRES_DATABASE".toList (by simp [gatewayVariables])
  obtain ⟨user, userSet, userNonempty⟩ :=
    complete "POSTGRES_USER".toList (by simp [gatewayVariables])
  obtain ⟨password, passwordSet, passwordNonempty⟩ :=
    complete "POSTGRES_PASSWORD".toList (by simp [gatewayVariables])
  unfold Config.fromEnv
  simp only [require_of_some clientIdSet clientIdNonempty,
    require_of_some secretSet secretNonempty, require_of_some set nonempty,
    require_of_some databaseSet databaseNonempty, require_of_some userSet userNonempty,
    require_of_some passwordSet passwordNonempty]
  cases parseHostSpec value with
  | error what => rfl
  | ok spec => rfl

theorem parseHostSpec_of_no_colon {value : Text} (absent : ':' ∉ value) :
    parseHostSpec value = .ok (value, defaultPostgresPort) := by
  unfold parseHostSpec
  rw [List.idxOf?_eq_none_iff.mpr absent]

/-- Behind the first colon the gateway takes a plain port and nothing else. -/
theorem parseHostSpec_of_colon {host port : Text} (absent : ':' ∉ host) :
    (PlainPort port ∧ ∃ parsed : UInt16, parsed.toNat = digitsValue port ∧
      parseHostSpec (host ++ ':' :: port) = .ok (host, parsed)) ∨
    (¬ PlainPort port ∧
      parseHostSpec (host ++ ':' :: port) = .error (malformedPort port)) := by
  have suffix : (host ++ ':' :: port).drop (host.length + 1) = port := by simp
  unfold parseHostSpec
  simp only [idxOf?_append_cons absent, suffix, List.take_left]
  split
  next parsed read =>
    obtain ⟨nonempty, allDigits, denotes⟩ := fromCharsUInt16_eq_some_nil.mp read
    have small := parsed.toNat_lt
    by_cases zero : parsed = 0
    · rw [if_pos zero]
      right
      refine ⟨?_, rfl⟩
      rintro ⟨-, -, positive, -⟩
      rw [denotes, zero] at positive
      exact absurd positive (by decide)
    · rw [if_neg zero]
      left
      have positive : parsed.toNat ≠ 0 := fun isZero => zero (UInt16.toNat_inj.mp isZero)
      exact ⟨⟨nonempty, allDigits, by omega, by omega⟩, parsed, denotes.symm, rfl⟩
  next unread =>
    right
    refine ⟨?_, rfl⟩
    rintro ⟨nonempty, allDigits, positive, small⟩
    have fits : digitsValue port < UInt16.size := Nat.lt_succ_of_le small
    refine unread (UInt16.ofNat (digitsValue port)) (fromCharsUInt16_eq_some_nil.mpr ?_)
    exact ⟨nonempty, allDigits, (UInt16.toNat_ofNat_of_lt' fits).symm⟩

/-! ## The ingest -/

theorem environ_of_some {env : Environment} {name value : Text} (set : env name = some value) :
    environ env name = .ok value := by
  unfold environ
  rw [set]

/-- With every other variable set, `int` decides. -/
theorem settings_of_complete (python : Interpreter) {env : Environment} {value : Text}
    (complete : Complete env ingestVariables) (set : env "POSTGRES_HOST".toList = some value) :
    (Settings.fromEnv python env).map
        (fun settings => (settings.postgresHost, settings.postgresPort)) =
      (settingsPort python (Python.partition value ':').2.2).map
        fun port => ((Python.partition value ':').1, port) := by
  obtain ⟨database, databaseSet, -⟩ :=
    complete "POSTGRES_DATABASE".toList (by simp [ingestVariables])
  obtain ⟨user, userSet, -⟩ := complete "POSTGRES_USER".toList (by simp [ingestVariables])
  obtain ⟨password, passwordSet, -⟩ :=
    complete "POSTGRES_PASSWORD".toList (by simp [ingestVariables])
  unfold Settings.fromEnv
  simp only [environ_of_some set, environ_of_some databaseSet, environ_of_some userSet,
    environ_of_some passwordSet, bind, Except.bind]
  obtain ⟨host, sep, port⟩ := Python.partition value ':'
  cases settingsPort python port with
  | error error => rfl
  | ok number => rfl

theorem partition_of_no_colon {value : Text} (absent : ':' ∉ value) :
    Python.partition value ':' = (value, [], []) := by
  unfold Python.partition
  rw [List.idxOf?_eq_none_iff.mpr absent]

theorem partition_of_colon {host port : Text} (absent : ':' ∉ host) :
    Python.partition (host ++ ':' :: port) ':' = (host, [':'], port) := by
  unfold Python.partition
  simp [idxOf?_append_cons absent]

/-! ## Agreement -/

/-- Whatever a plain port and an integer literal have in common they denote alike. -/
theorem int_of_plainPort {python : Interpreter} {port : Text} (plain : PlainPort port)
    (literal : Python.IntLiteral python port) :
    Python.int python port = some (digitsValue port : Int) := by
  obtain ⟨nonempty, allDigits, -⟩ := plain
  have read := (Python.int_isSome_iff python port).mpr literal
  rw [Python.int_digits python nonempty allDigits] at read ⊢
  by_cases within : Python.withinLimit python port.length = true
  · rw [if_pos within]
  · rw [if_neg within] at read
    cases read

theorem int_of_not_literal {python : Interpreter} {port : Text}
    (notLiteral : ¬ Python.IntLiteral python port) : Python.int python port = none := by
  rw [← Python.int_isSome_iff] at notLiteral
  simpa using notLiteral

/-- Behind a colon the readings agree on the ports both accept and on the texts both
reject. -/
theorem sameReading_of_colon (python : Interpreter) {host port : Text} (absent : ':' ∉ host) :
    SameReading (parseHostSpec (host ++ ':' :: port))
        ((settingsPort python port).map fun number => (host, number)) ↔
      port ≠ [] ∧ (PlainPort port ↔ Python.IntLiteral python port) := by
  unfold settingsPort
  by_cases empty : port = []
  · -- The gateway rejects an empty port, the ingest takes the default.
    rw [if_pos empty]
    rcases @parseHostSpec_of_colon host port absent with
      ⟨plain, -⟩ | ⟨-, rejected⟩
    · exact absurd empty plain.1
    · rw [rejected]
      exact iff_of_false id fun both => both.1 empty
  rw [if_neg empty]
  rcases @parseHostSpec_of_colon host port absent with
    ⟨plain, parsed, denotes, accepted⟩ | ⟨notPlain, rejected⟩
  · rw [accepted]
    by_cases literal : Python.IntLiteral python port
    · rw [int_of_plainPort plain literal]
      exact iff_of_true ⟨rfl, by exact_mod_cast denotes⟩ ⟨empty, iff_of_true plain literal⟩
    · rw [int_of_not_literal literal]
      exact iff_of_false id fun both => literal (both.2.mp plain)
  · rw [rejected]
    by_cases literal : Python.IntLiteral python port
    · obtain ⟨number, read⟩ := Option.isSome_iff_exists.mp
        ((Python.int_isSome_iff python port).mpr literal)
      rw [read]
      exact iff_of_false id fun both => notPlain (both.2.mpr literal)
    · rw [int_of_not_literal literal]
      exact iff_of_true trivial ⟨empty, iff_of_false notPlain literal⟩

/-- The components agree on `POSTGRES_HOST` just when it has no port suffix, or one
that is not empty and a plain port exactly if Python's `int` takes it for a number. -/
theorem agree_iff (python : Interpreter) {gateway ingest : Environment} {value : Text}
    (gatewaySet : gateway "POSTGRES_HOST".toList = some value)
    (ingestSet : ingest "POSTGRES_HOST".toList = some value) (nonempty : value ≠ [])
    (gatewayComplete : Complete gateway gatewayVariables)
    (ingestComplete : Complete ingest ingestVariables) :
    Agree (Config.fromEnv gateway) (Settings.fromEnv python ingest) ↔
      ∀ host port, ':' ∉ host → value = host ++ ':' :: port →
        port ≠ [] ∧ (PlainPort port ↔ Python.IntLiteral python port) := by
  unfold Agree
  rw [fromEnv_of_complete gatewayComplete gatewaySet nonempty,
    settings_of_complete python ingestComplete ingestSet]
  by_cases colon : ':' ∈ value
  · obtain ⟨host, port, rfl, absent⟩ := List.eq_append_cons_of_mem colon
    have onlyCut : (∀ host' port', ':' ∉ host' → host ++ ':' :: port = host' ++ ':' :: port' →
        port' ≠ [] ∧ (PlainPort port' ↔ Python.IntLiteral python port')) ↔
        port ≠ [] ∧ (PlainPort port ↔ Python.IntLiteral python port) := by
      constructor
      · exact fun every => every host port absent rfl
      · intro here host' port' absent' same
        obtain ⟨rfl, rfl⟩ := append_cons_inj absent absent' same
        exact here
    rw [onlyCut, partition_of_colon absent]
    exact sameReading_of_colon python absent
  · have noCut : ∀ host port, ':' ∉ host → value = host ++ ':' :: port →
        port ≠ [] ∧ (PlainPort port ↔ Python.IntLiteral python port) := by
      rintro host port - rfl
      exact absurd (by simp) colon
    rw [parseHostSpec_of_no_colon colon, partition_of_no_colon colon]
    exact iff_of_true ⟨rfl, rfl⟩ noCut

/-- An interpreter with the default limit that knows ASCII only. -/
def asciiPython : Interpreter := ⟨fun _ => false, fun _ => none, 4300⟩

/-- An environment with the given value of `POSTGRES_HOST`. -/
def hostEnvironment (hostSpec : Text) : Environment := fun name =>
  if name = "POSTGRES_HOST".toList then some hostSpec else some "deribit".toList

theorem hostEnvironment_complete (hostSpec : Text) :
    Complete (hostEnvironment hostSpec) gatewayVariables ∧
      Complete (hostEnvironment hostSpec) ingestVariables := by
  have other {name : Text} (isOther : name ≠ "POSTGRES_HOST".toList) :
      ∃ value, hostEnvironment hostSpec name = some value ∧ value ≠ [] :=
    ⟨"deribit".toList, if_neg isOther, by decide⟩
  constructor
  · intro name member
    apply other
    rintro rfl
    simp [gatewayVariables] at member
  · intro name member
    apply other
    rintro rfl
    simp [ingestVariables] at member

/-- The gateway rejects a colon with nothing behind it, the ingest takes 5432. -/
theorem empty_port_disagrees :
    Config.fromEnv (hostEnvironment "localhost:".toList) = .error (malformedPort []) ∧
      (Settings.fromEnv asciiPython (hostEnvironment "localhost:".toList)).map
          Settings.postgresPort = .ok 5432 ∧
      ¬ Agree (Config.fromEnv (hostEnvironment "localhost:".toList))
        (Settings.fromEnv asciiPython (hostEnvironment "localhost:".toList)) := by
  have rejected : Config.fromEnv (hostEnvironment "localhost:".toList) =
      .error (malformedPort []) := by
    decide +kernel
  have accepted : Settings.fromEnv asciiPython (hostEnvironment "localhost:".toList) =
      .ok ⟨"localhost".toList, 5432, "deribit".toList, "deribit".toList, "deribit".toList,
        "deribit".toList⟩ := by
    decide +kernel
  rw [rejected, accepted]
  exact ⟨rfl, rfl, id⟩

theorem plain_port_agrees :
    Agree (Config.fromEnv (hostEnvironment "localhost:5433".toList))
      (Settings.fromEnv asciiPython (hostEnvironment "localhost:5433".toList)) := by
  obtain ⟨gatewayComplete, ingestComplete⟩ := hostEnvironment_complete "localhost:5433".toList
  have set : hostEnvironment "localhost:5433".toList "POSTGRES_HOST".toList =
      some "localhost:5433".toList := rfl
  refine (agree_iff asciiPython set set (by decide) gatewayComplete ingestComplete).mpr ?_
  intro host port absent cut
  obtain ⟨rfl, rfl⟩ := @append_cons_inj "localhost".toList host "5433".toList port ':' (by decide)
    absent cut
  have plain : PlainPort "5433".toList :=
    ⟨by decide, List.all_eq_true.mp (by decide), by decide, by decide⟩
  refine ⟨by decide, iff_of_true plain ?_⟩
  exact (Python.int_isSome_iff _ _).mp (by decide +kernel)

end QuantGateway.Core
