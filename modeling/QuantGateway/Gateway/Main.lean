import QuantGateway.Core.Log
import QuantGateway.Core.SharedEnvironment
import QuantGateway.MarketData.Repository
import QuantGateway.Sink.QueueSink

/-!
Owns `main` of the gateway from its first statement to the started sink, with every line
it prints or logs on the way, and the two ways it exits before that.

The session that runs between the start of the sink and its stop is not in the source,
and neither is what the last line logs of it. The answer of Postgres to a connection
string is a parameter.
-/

namespace QuantGateway.Gateway

open QuantGateway.Foundation
open QuantGateway.Core
open QuantGateway.MarketData
open QuantGateway.Sink

/-- One thing `main` does that is seen outside. -/
inductive Output where
  | stderr (line : Text)
  | initLogging (level : Text)
  | log (level : LogLevel) (line : Text)
  | shutdownLogging
deriving DecidableEq, Repr

/-- How far `main` got. -/
inductive Outcome where
  | exited (code : Nat)
  | started (registry : InstrumentRegistry) (sink : QueueSink Tick)

/-- What a connection string gets from Postgres: the rows of the startup query, or the
`what()` of the exception. -/
abbrev Database := Text → Except Text (List InstrumentRow)

/-! ## The registry -/

def unmappableLine (row : InstrumentRow) : Output :=
  .log .warn ("skipping unmappable instrument row: id=".toList ++ intText row.instrumentId ++
    " symbol='".toList ++ row.symbol ++ "' type='".toList ++ row.instrumentType ++ "'".toList)

def unidentifiedLine (row : InstrumentRow) : Output :=
  .log .warn ("instrument row has no id, cannot register: symbol='".toList ++ row.symbol ++
    "'".toList)

/-- What `build_registry` logs of one row. -/
def skipWarning (registry : InstrumentRegistry) (row : InstrumentRow) : List Output :=
  match toInstrumentKey row with
  | none => [unmappableLine row]
  | some key =>
      match registry.add key with
      | (none, _) => [unidentifiedLine row]
      | (some _, _) => []

/-- The last line of `build_registry`. -/
def registrySummary (registry : InstrumentRegistry) (skipped : Nat) : Output :=
  .log .info ("registry: ".toList ++ Nat.toDigits 10 registry.keys.length ++
    " instrument(s) (".toList ++ Nat.toDigits 10 (registry.idsOfKind .option).length ++
    " option, ".toList ++ Nat.toDigits 10 (registry.idsOfKind .future).length ++
    " future, ".toList ++ Nat.toDigits 10 (registry.idsOfKind .index).length ++
    " index), ".toList ++ Nat.toDigits 10 skipped ++ " skipped".toList)

/-- One row of `build_registry`, with what it logs. -/
def loggedStep (state : (InstrumentRegistry × Nat) × List Output) (row : InstrumentRow) :
    (InstrumentRegistry × Nat) × List Output :=
  (buildStep state.1 row, state.2 ++ skipWarning state.1.1 row)

/-- `build_registry` with its log. -/
def loggedRegistry (rows : List InstrumentRow) : InstrumentRegistry × List Output :=
  let ((registry, skipped), warnings) := rows.foldl loggedStep ((.empty, 0), [])
  (registry, warnings ++ [registrySummary registry skipped])

theorem foldl_loggedStep (state : (InstrumentRegistry × Nat) × List Output)
    (rows : List InstrumentRow) :
    (rows.foldl loggedStep state).1 = rows.foldl buildStep state.1 := by
  induction rows generalizing state with
  | nil => rfl
  | cons row rest inductionHypothesis =>
      rw [List.foldl_cons, List.foldl_cons, inductionHypothesis]
      rfl

/-- The log does not change the registry. -/
theorem loggedRegistry_fst (rows : List InstrumentRow) :
    (loggedRegistry rows).1 = (buildRegistry rows).1 := by
  have folded := foldl_loggedStep ((.empty, 0), []) rows
  unfold loggedRegistry buildRegistry
  rw [← folded]

/-! ## The boot -/

/-- `kQueueCapacity`. -/
def queueCapacity : Nat := 65536

/-- The sink `main` hands to its consumer thread. -/
def startedSink : QueueSink Tick :=
  { QueueSink.make queueCapacity with onTick := true, consumer := .popping, joinable := true }

/-- What `InstrumentRepository::load` logs. -/
def loadedLine (rows : List InstrumentRow) : Output :=
  .log .info ("loaded ".toList ++ Nat.toDigits 10 rows.length ++
    " instrument row(s) from security_master for venue DERIBIT".toList)

def startingLine (config : Config) : Output :=
  .log .info ("quant market data gateway starting (host=".toList ++ config.wsHost ++
    " interval=".toList ++ config.tickerInterval ++ ")".toList)

/-- The lines `main` gives for an exit. -/
def configurationError (what : Text) : Text :=
  "configuration error: ".toList ++ what ++ "\n".toList

def loadFailure (what : Text) : Text :=
  "failed to load instruments from security_master: ".toList ++ what

def noInstruments : Text :=
  "no instruments loaded; has reference_ingest been run?".toList

/-- `main` behind the configuration. -/
def boot (config : Config) (answer : Except Text (List InstrumentRow)) :
    List Output × Outcome :=
  let starting := [.initLogging config.logLevel, startingLine config]
  match answer with
  | .error what =>
      (starting ++ [.log .critical (loadFailure what), .shutdownLogging], .exited 1)
  | .ok rows =>
      let (registry, built) := loggedRegistry rows
      if registry.keys.length = 0 then
        (starting ++ [loadedLine rows] ++ built ++
          [.log .critical noInstruments, .shutdownLogging], .exited 1)
      else (starting ++ [loadedLine rows] ++ built, .started registry startedSink)

/-- `main` up to the started sink. -/
def main (database : Database) (env : Environment) : List Output × Outcome :=
  match Config.fromEnv env with
  | .error what => ([.stderr (configurationError what)], .exited 1)
  | .ok config => boot config (database config.postgresConninfo)

end QuantGateway.Gateway
