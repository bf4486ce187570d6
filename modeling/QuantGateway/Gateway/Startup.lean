import QuantGateway.Gateway.Main
import QuantGateway.Ingest.ChainHistory
import QuantGateway.MarketData.Subscription

/-!
Owns what holds of every start of the gateway: a start that fails says why unless logging
was turned off, and the log accounts for every row of the database.

Does not own where the rows come from (`Gateway.Deployment`).
-/

namespace QuantGateway.Gateway

open QuantGateway.Foundation
open QuantGateway.Core
open QuantGateway.Ingest (Store deribitVenueCode explained_run fullChain fullChain_step
  referenceIngest)
open QuantGateway.MarketData
open QuantGateway.SecurityMaster

variable {database : Database} {env : Environment} {config : Config}
variable {outputs : List Output} {code : Nat}

/-! ## What `main` does -/

theorem main_of_error {what : Text} (refused : Config.fromEnv env = .error what) :
    main database env = ([.stderr (configurationError what)], .exited 1) := by
  unfold main
  rw [refused]

theorem main_of_ok (configured : Config.fromEnv env = .ok config) :
    main database env = boot config (database config.postgresConninfo) := by
  unfold main
  rw [configured]

/-- Everything the rest of `main` can come to. -/
theorem boot_cases (config : Config) (answer : Except Text (List InstrumentRow)) :
    (∃ what, answer = .error what ∧ boot config answer =
      ([.initLogging config.logLevel, startingLine config, .log .critical (loadFailure what),
        .shutdownLogging], .exited 1)) ∨
    (∃ rows, answer = .ok rows ∧ (buildRegistry rows).1.keys = [] ∧ boot config answer =
      (.initLogging config.logLevel :: startingLine config :: loadedLine rows ::
        ((loggedRegistry rows).2 ++ [.log .critical noInstruments, .shutdownLogging]),
        .exited 1)) ∨
    (∃ rows, answer = .ok rows ∧ (buildRegistry rows).1.keys ≠ [] ∧ boot config answer =
      (.initLogging config.logLevel :: startingLine config :: loadedLine rows ::
        (loggedRegistry rows).2, .started (buildRegistry rows).1 startedSink)) := by
  cases answer with
  | error what => exact .inl ⟨what, rfl, rfl⟩
  | ok rows =>
      have registry := loggedRegistry_fst rows
      by_cases empty : (buildRegistry rows).1.keys = []
      · refine .inr (.inl ⟨rows, rfl, empty, ?_⟩)
        rw [← registry] at empty
        exact if_pos (List.length_eq_zero_iff.mpr empty)
      · refine .inr (.inr ⟨rows, rfl, empty, ?_⟩)
        rw [← registry] at empty ⊢
        exact if_neg fun none => empty (List.length_eq_zero_iff.mp none)

/-! ## Failed starts -/

section Heard

variable (fromStr : Text → LogLevel)

/-- The lines of an output that get through to a reader. -/
def heard (logging : Logging) : List Output → List Text
  | [] => []
  | .stderr line :: rest => line :: heard logging rest
  | .initLogging level :: rest => heard (initLogging fromStr level logging) rest
  | .log level line :: rest =>
      if logging.shouldLog level then line :: heard logging rest else heard logging rest
  | .shutdownLogging :: rest => heard (shutdownLogging logging) rest

/-- A line that is only logged. -/
def Output.Logged (output : Output) : Prop :=
  ∃ level line, output = .log level line

variable {fromStr} {logging : Logging} {logs : List Output}

/-- A line behind other logged ones is heard unless the logger is off. -/
theorem mem_heard_critical (logged : ∀ output ∈ logs, output.Logged) (reason : Text)
    (rest : List Output) (awake : logging.level ≠ .off) :
    reason ∈ heard fromStr logging (logs ++ .log .critical reason :: rest) := by
  induction logs with
  | nil =>
      unfold heard
      simp [Logging.shouldLog_critical.mpr awake]
  | cons output logs inductionHypothesis =>
      obtain ⟨level, line, rfl⟩ := logged output (.head _)
      have later := inductionHypothesis fun other member => logged other (.tail _ member)
      rw [List.cons_append]
      unfold heard
      split
      · exact .tail _ later
      · exact later

theorem heard_of_off (logged : ∀ output ∈ logs, output.Logged) (isOff : logging.level = .off) :
    heard fromStr logging (logs ++ [.shutdownLogging]) = [] := by
  induction logs with
  | nil => rfl
  | cons output logs inductionHypothesis =>
      obtain ⟨level, line, rfl⟩ := logged output (.head _)
      rw [List.cons_append]
      unfold heard
      rw [Logging.shouldLog_of_off isOff]
      exact inductionHypothesis fun other member => logged other (.tail _ member)

end Heard

theorem foldl_loggedStep_logged (state : (InstrumentRegistry × Nat) × List Output)
    (logged : ∀ output ∈ state.2, output.Logged) (rows : List InstrumentRow) :
    ∀ output ∈ (rows.foldl loggedStep state).2, output.Logged := by
  induction rows generalizing state with
  | nil => exact logged
  | cons row rest inductionHypothesis =>
      refine inductionHypothesis (loggedStep state row) fun output member => ?_
      rcases List.mem_append.mp member with old | new
      · exact logged output old
      · unfold skipWarning at new
        split at new
        · rw [List.mem_singleton.mp new]
          exact ⟨_, _, rfl⟩
        · split at new
          · rw [List.mem_singleton.mp new]
            exact ⟨_, _, rfl⟩
          · cases new

theorem loggedRegistry_logged (rows : List InstrumentRow) :
    ∀ output ∈ (loggedRegistry rows).2, output.Logged := by
  intro output member
  rcases List.mem_append.mp member with warning | summary
  · exact foldl_loggedStep_logged _ (fun _ none => by cases none) rows output warning
  · rw [List.mem_singleton.mp summary]
    exact ⟨_, _, rfl⟩

/-- Why a start that has its configuration fails. -/
def FailsWith (answer : Except Text (List InstrumentRow)) (reason : Text) : Prop :=
  (∃ what, answer = .error what ∧
    reason = "failed to load instruments from security_master: ".toList ++ what) ∨
  ∃ rows, answer = .ok rows ∧ (buildRegistry rows).1.keys = [] ∧
    reason = "no instruments loaded; has reference_ingest been run?".toList

/-- A boot that exits has logged nothing but lines, the last of them its reason, between
the start of the logger and its end. -/
theorem boot_exited {answer : Except Text (List InstrumentRow)}
    (exited : boot config answer = (outputs, .exited code)) :
    code = 1 ∧ ∃ logs reason, (∀ output ∈ logs, output.Logged) ∧ FailsWith answer reason ∧
      outputs =
        .initLogging config.logLevel :: (logs ++ [.log .critical reason, .shutdownLogging]) := by
  rcases boot_cases config answer with
    ⟨what, failed, ran⟩ | ⟨rows, loaded, empty, ran⟩ | ⟨rows, -, -, ran⟩
  · rw [ran] at exited
    cases exited
    refine ⟨rfl, [startingLine config], loadFailure what, ?_, .inl ⟨what, failed, rfl⟩, rfl⟩
    intro output member
    rw [List.mem_singleton.mp member]
    exact ⟨_, _, rfl⟩
  · rw [ran] at exited
    cases exited
    refine ⟨rfl, startingLine config :: loadedLine rows :: (loggedRegistry rows).2,
      noInstruments, ?_, .inr ⟨rows, loaded, empty, rfl⟩, rfl⟩
    intro output member
    rcases List.mem_cons.mp member with rfl | rest
    · exact ⟨_, _, rfl⟩
    · rcases List.mem_cons.mp rest with rfl | built
      · exact ⟨_, _, rfl⟩
      · exact loggedRegistry_logged rows output built
  · rw [ran] at exited
    cases exited

/-- The reason of a boot that exits is heard unless logging is off. -/
theorem heard_boot {fromStr : Text → LogLevel} (named : fromStr "off".toList = .off)
    {logs : List Output} (logged : ∀ output ∈ logs, output.Logged) (level reason : Text) :
    reason ∈ heard fromStr .initial
        (.initLogging level :: (logs ++ [.log .critical reason, .shutdownLogging])) ↔
      level ≠ "off".toList := by
  unfold heard
  rw [initLogging_initial]
  by_cases silenced : level = "off".toList
  · refine iff_of_false ?_ fun awake => awake silenced
    have closing := @heard_of_off fromStr ⟨true, loggerLevel fromStr level⟩
      (logs ++ [.log .critical reason]) ?_ ((loggerLevel_eq_off_iff named).mpr silenced)
    · rw [List.append_assoc] at closing
      rw [show [Output.log .critical reason, .shutdownLogging] =
        [Output.log .critical reason] ++ [.shutdownLogging] from rfl, closing]
      exact List.not_mem_nil
    · intro output member
      rcases List.mem_append.mp member with old | new
      · exact logged output old
      · rw [List.mem_singleton.mp new]
        exact ⟨_, _, rfl⟩
  · refine iff_of_true (mem_heard_critical logged reason _ ?_) silenced
    exact fun isOff => silenced ((loggerLevel_eq_off_iff named).mp isOff)

/-- A start that fails exits with one. A bad configuration is told on stderr and nothing
else is; otherwise the last line logged says that Postgres failed and how, or that there
is no instrument, and it is heard unless the configuration turned logging off. -/
theorem failed_start_gives_its_reason {fromStr : Text → LogLevel}
    (named : fromStr "off".toList = .off) (failed : main database env = (outputs, .exited code)) :
    code = 1 ∧
    ((∃ what, Config.fromEnv env = .error what ∧
        outputs = [.stderr ("configuration error: ".toList ++ what ++ "\n".toList)]) ∨
      ∃ config reason before, Config.fromEnv env = .ok config ∧
        FailsWith (database config.postgresConninfo) reason ∧
        outputs = before ++ [.log .critical reason, .shutdownLogging] ∧
        (reason ∈ heard fromStr .initial outputs ↔ config.logLevel ≠ "off".toList)) := by
  cases configured : Config.fromEnv env with
  | error what =>
      rw [main_of_error configured] at failed
      cases failed
      exact ⟨rfl, .inl ⟨what, rfl, rfl⟩⟩
  | ok config =>
      rw [main_of_ok configured] at failed
      obtain ⟨isOne, logs, reason, logged, fails, rfl⟩ := boot_exited failed
      exact ⟨isOne, .inr ⟨config, reason, .initLogging config.logLevel :: logs, rfl, fails, rfl,
        heard_boot named logged config.logLevel reason⟩⟩

/-- Postgres is down. -/
def postgresDown : Database :=
  fun _ => .error "connection refused".toList

/-- A start without Postgres, with a log level spdlog does not know. -/
def outageStart : List Output × Outcome :=
  main postgresDown (hostEnvironment "localhost".toList)

theorem failed_start_gives_its_reason_outage :
    "failed to load instruments from security_master: ".toList ++ "connection refused".toList ∈
      heard (fun _ => .off) .initial outageStart.1 := by
  have configured : Config.fromEnv (hostEnvironment "localhost".toList) =
      .ok { passwordConfig "deribit".toList with pgHost := "localhost".toList } := by
    decide +kernel
  have failed : main postgresDown (hostEnvironment "localhost".toList) =
      (outageStart.1, .exited 1) := by
    unfold outageStart
    rw [main_of_ok configured]
    rfl
  obtain ⟨-, ⟨what, refused, -⟩ | ⟨config, reason, before, accepted, fails, -, isHeard⟩⟩ :=
    @failed_start_gives_its_reason _ _ _ _ (fun _ => .off) rfl failed
  · rw [configured] at refused
    cases refused
  rw [configured] at accepted
  cases accepted
  rcases fails with ⟨what, answered, rfl⟩ | ⟨rows, answered, -⟩
  · cases answered
    exact isHeard.mpr (by decide)
  · cases answered

/-! ## The rows of the database -/

/-- The row is skipped. -/
def Unmapped (row : InstrumentRow) : Prop :=
  toInstrumentKey row = none

instance (row : InstrumentRow) : Decidable (Unmapped row) :=
  inferInstanceAs (Decidable (_ = _))

/-- One warning for each unmapped row, and nothing else, where every key has an id. -/
theorem foldl_loggedStep_warnings {rows : List InstrumentRow}
    (identified : ∀ row ∈ rows, ∀ key, toInstrumentKey row = some key → key.id ≠ 0)
    (state : (InstrumentRegistry × Nat) × List Output) :
    (rows.foldl loggedStep state).2 = state.2 ++ (rows.filter Unmapped).map unmappableLine ∧
      (rows.foldl loggedStep state).1.2 = state.1.2 + (rows.filter Unmapped).length := by
  induction rows generalizing state with
  | nil => simp
  | cons row rest inductionHypothesis =>
      obtain ⟨warnings, skipped⟩ := inductionHypothesis
        (fun other member => identified other (.tail _ member)) (loggedStep state row)
      rw [List.foldl_cons, warnings, skipped, List.filter_cons]
      unfold loggedStep buildStep skipWarning
      cases mapped : toInstrumentKey row with
      | none =>
          have isUnmapped : Unmapped row := mapped
          simp [isUnmapped]
          omega
      | some key =>
          have isMapped : ¬ Unmapped row := by simp [Unmapped, mapped]
          obtain ⟨id, added⟩ := @InstrumentRegistry.add_value state.1.1 key
            (identified row (.head _) key mapped)
          cases addition : state.1.1.add key with
          | mk value registry =>
              rw [addition] at added
              obtain rfl : value = some id := added
              simp [isMapped, addition]

/-- Every entry of a registry built from rows is of a kind that is counted. -/
theorem kind_of_mem {rows : List InstrumentRow} {key : InstrumentKey}
    (member : key ∈ (buildRegistry rows).1.keys) :
    key.kind = .option ∨ key.kind = .future ∨ key.kind = .index := by
  obtain ⟨-, row, -, mapped⟩ := mem_buildRegistry member
  obtain ⟨parsed, -, -, -, kind, typed⟩ := toInstrumentKey_some mapped
  rw [kind]
  cases parsedKind : parsed.kind <;> simp [parsedKind, InstrumentKind.instrumentType] at typed ⊢

/-- The kinds divide the entries. -/
theorem idsOfKind_length {registry : InstrumentRegistry} (counted : ∀ key ∈ registry.keys,
    key.kind = .option ∨ key.kind = .future ∨ key.kind = .index) :
    (registry.idsOfKind .option).length + (registry.idsOfKind .future).length +
      (registry.idsOfKind .index).length = registry.keys.length := by
  unfold InstrumentRegistry.idsOfKind
  simp only [List.length_map, ← List.countP_eq_length_filter]
  generalize registry.keys = keys at counted
  induction keys with
  | nil => rfl
  | cons key rest inductionHypothesis =>
      have tail := inductionHypothesis fun other member => counted other (.tail _ member)
      rcases counted key (.head _) with kind | kind | kind <;> simp [kind] <;> omega

/-- The start over a valid database accounts for every row: each is registered, or
skipped with a warning of its own; the counts of the summary are those of the registry and
add up, and every entry has its channel. -/
theorem startup_accounts_for_every_row (outOfRange : Double → Nanos) (venue interval : Text)
    {tables : Tables} (valid : tables.Valid) :
    let rows := load outOfRange tables venue
    let registry := (buildRegistry rows).1
    let unmapped := rows.filter Unmapped
    (loggedRegistry rows).2 =
      unmapped.map unmappableLine ++ [registrySummary registry unmapped.length] ∧
    registry.keys.length + unmapped.length = rows.length ∧
    (registry.idsOfKind .option).length + (registry.idsOfKind .future).length +
      (registry.idsOfKind .index).length = registry.keys.length ∧
    (registry.subscriptionChannels interval).length = registry.keys.length ∧
    registry.keys = rows.filterMap toInstrumentKey ∧
    ∀ key ∈ registry.keys, channelFor key interval ∈ registry.subscriptionChannels interval := by
  intro rows registry unmapped
  have identified : ∀ row ∈ rows, ∀ key, toInstrumentKey row = some key → key.id ≠ 0 := by
    intro row member key mapped
    obtain ⟨-, -, -, id, -⟩ := toInstrumentKey_some mapped
    rw [id]
    exact load_identified outOfRange valid member
  have kinds : (registry.idsOfKind .option).length + (registry.idsOfKind .future).length +
      (registry.idsOfKind .index).length = registry.keys.length :=
    idsOfKind_length fun key member => kind_of_mem member
  obtain ⟨warnings, skipped⟩ := foldl_loggedStep_warnings identified ((.empty, 0), [])
  have mapped : registry.keys = rows.filterMap toInstrumentKey := registryOf_keys outOfRange valid
  refine ⟨?_, ?_, kinds, ?_, mapped, fun key member => ?_⟩
  · have registryEq : (rows.foldl loggedStep ((.empty, 0), [])).1.1 = registry :=
      congrArg Prod.fst (foldl_loggedStep _ rows)
    change (rows.foldl loggedStep ((.empty, 0), [])).2 ++ [registrySummary
      (rows.foldl loggedStep ((.empty, 0), [])).1.1
      (rows.foldl loggedStep ((.empty, 0), [])).1.2] = _
    rw [warnings, skipped, registryEq]
    simp [unmapped]
  · have counted := skipped_buildRegistry identified
    have skippedEq : (buildRegistry rows).2 = unmapped.length := by
      rw [foldl_loggedStep] at skipped
      simpa [buildRegistry] using skipped
    rw [mapped, ← skippedEq]
    exact counted
  · rw [InstrumentRegistry.subscriptionChannels_eq, List.length_append, List.length_append,
      InstrumentRegistry.channelsOfKind_length, InstrumentRegistry.channelsOfKind_length,
      InstrumentRegistry.channelsOfKind_length, ← kinds]
    omega
  · refine InstrumentRegistry.mem_subscriptionChannels.mpr ⟨key, member, ?_, rfl⟩
    rcases kind_of_mem member with kind | kind | kind <;> rw [kind] <;> rfl

/-- The rows of the database after a run over the full chain. -/
def fullChainRows : List InstrumentRow :=
  load (fun _ => 0) (referenceIngest fullChain Store.empty).2.tables deribitVenueCode

theorem startup_accounts_for_every_row_fullChain :
    (buildRegistry fullChainRows).1.keys = fullChainRows.filterMap toInstrumentKey ∧
      (buildRegistry fullChainRows).1.keys.length + (fullChainRows.filter Unmapped).length =
        fullChainRows.length := by
  have valid := (explained_run (.single fullChain_step)).stores.valid
  obtain ⟨-, counted, -, -, mapped, -⟩ :=
    startup_accounts_for_every_row (fun _ => 0) deribitVenueCode "100ms".toList valid
  exact ⟨mapped, counted⟩

end QuantGateway.Gateway
