import QuantGateway.Gateway.Startup
import QuantGateway.Ingest.ChainRegistry

/-!
Owns the two components in one environment and before one database: `main` of
`reference_ingest` with its exit code, the runs of a scheduler, and what the gateway
starts with afterwards.

Does not own components that run at the same time, nor a database without the schema.
-/

namespace QuantGateway.Ingest

open QuantGateway.Foundation
open QuantGateway.Core
open QuantGateway.MarketData
open QuantGateway.SecurityMaster

/-- A Postgres server: the connection strings it accepts, and the database they reach. -/
structure Server where
  accepts : Text → Bool
  store : Store

/-- `reference_ingest.main` without options: its exit code, and the server it leaves. -/
def main (python : Interpreter) (env : Environment) (responses : Responses) (server : Server) :
    Nat × Server :=
  match Settings.fromEnv python env with
  | .error _ => (1, server)
  | .ok settings =>
      if server.accepts settings.postgresConninfo then
        match referenceIngest responses server.store with
        | (.ok _, next) => (0, { server with store := next })
        | (.error _, next) => (1, { server with store := next })
      else (1, server)

/-- One run a scheduler started. -/
structure ScheduledRun where
  responses : Responses
  code : Nat

/-- Runs one after the other in one environment. -/
def schedule (python : Interpreter) (env : Environment) :
    TransitionSystem Server ScheduledRun where
  Initial server := server.store = .empty
  Step server run next := main python env run.responses server = (run.code, next)

variable {python : Interpreter} {env : Environment} {settings : Settings}
variable {server next later : Server} {run : ScheduledRun} {runs : List ScheduledRun}

/-- What the scheduler sees of an invocation. -/
def Invocation.scheduled (invocation : Invocation) : ScheduledRun where
  responses := invocation.responses
  code := if invocation.succeeded then 0 else 1

/-- A run that connects is an invocation, and exits with zero when that succeeds. -/
theorem main_of_accepted (read : Settings.fromEnv python env = .ok settings)
    (accepted : server.accepts settings.postgresConninfo = true) (responses : Responses) :
    main python env responses server =
      ((Invocation.scheduled ⟨responses, (referenceIngest responses server.store).1⟩).code,
        { server with store := (referenceIngest responses server.store).2 }) := by
  unfold main
  rw [read]
  simp only [if_pos accepted]
  cases ending : referenceIngest responses server.store with
  | mk outcome left => cases outcome <;> rfl

theorem exists_invocation (read : Settings.fromEnv python env = .ok settings)
    (accepted : server.accepts settings.postgresConninfo = true)
    (step : (schedule python env).Step server run next) :
    next.accepts = server.accepts ∧ ∃ invocation : Invocation,
      ingests.Step server.store invocation next.store ∧ run = invocation.scheduled := by
  obtain ⟨responses, code⟩ := run
  obtain ⟨rfl, rfl⟩ := Prod.mk.inj ((main_of_accepted read accepted responses).symm.trans step)
  exact ⟨rfl, ⟨responses, (referenceIngest responses server.store).1⟩, rfl, rfl⟩

/-- The runs of a scheduler whose connection string is accepted are a history. -/
theorem exists_scheduled_history (read : Settings.fromEnv python env = .ok settings)
    (accepted : server.accepts settings.postgresConninfo = true)
    (scheduled : (schedule python env).Run server runs later) :
    later.accepts = server.accepts ∧ ∃ history,
      ingests.Run server.store history later.store ∧ runs = history.map Invocation.scheduled := by
  induction scheduled with
  | nil server => exact ⟨rfl, [], .nil _, rfl⟩
  | cons step _ inductionHypothesis =>
      obtain ⟨same, invocation, ingested, rfl⟩ := exists_invocation read accepted step
      rw [← same] at accepted
      obtain ⟨sameLater, history, rest, rfl⟩ := inductionHypothesis accepted
      exact ⟨sameLater.trans same, invocation :: history, .cons ingested rest, rfl⟩

/-- The runs that exited with zero. -/
def succeededRuns (runs : List ScheduledRun) : List ScheduledRun :=
  runs.filter fun run => run.code = 0

theorem succeededRuns_scheduled (history : List Invocation) :
    succeededRuns (history.map Invocation.scheduled) =
      (history.filter Invocation.succeeded).map Invocation.scheduled := by
  unfold succeededRuns
  rw [List.filter_map]
  congr 2
  funext invocation
  unfold Invocation.scheduled
  cases succeeded : invocation.succeeded <;> simp [succeeded]

/-- What the runs that exited with zero listed. -/
def scheduledListing (runs : List ScheduledRun) : Listing :=
  (succeededRuns runs).flatMap fun run => run.responses.listing

theorem scheduledListing_scheduled (history : List Invocation) :
    scheduledListing (history.map Invocation.scheduled) = listing history := by
  unfold scheduledListing listing
  rw [succeededRuns_scheduled]
  induction history with
  | nil => rfl
  | cons invocation rest inductionHypothesis =>
      obtain ⟨responses, outcome⟩ := invocation
      rw [List.flatMap_cons, ← inductionHypothesis]
      cases outcome <;> rfl

end QuantGateway.Ingest

namespace QuantGateway.Gateway

open QuantGateway.Foundation
open QuantGateway.Core
open QuantGateway.MarketData
open QuantGateway.SecurityMaster
open QuantGateway.Ingest

/-- What the gateway gets from a server; the text of a refusal is libpq's. -/
def serverDatabase (outOfRange : Double → Nanos) (refusal : Text → Text) (server : Server) :
    Database := fun conninfo =>
  if server.accepts conninfo then .ok (load outOfRange server.store.tables deribitVenueCode)
  else .error (refusal conninfo)

variable {python : Interpreter} {env : Environment} {config : Config}
variable {server later : Server} {runs : List ScheduledRun}
variable (outOfRange : Double → Nanos) (refusal : Text → Text)

/-- What the gateway comes to before a server that accepts its connection string. -/
theorem started_of_accepted (booted : Config.fromEnv env = .ok config)
    (accepted : server.accepts config.postgresConninfo = true) :
    let registry := registryOf outOfRange server.store.tables deribitVenueCode
    (registry.keys = [] → (main (serverDatabase outOfRange refusal server) env).2 = .exited 1) ∧
    (registry.keys ≠ [] →
      (main (serverDatabase outOfRange refusal server) env).2 = .started registry startedSink) := by
  intro registry
  have answer : serverDatabase outOfRange refusal server config.postgresConninfo =
      .ok (load outOfRange server.store.tables deribitVenueCode) := if_pos accepted
  rw [main_of_ok booted, answer]
  rcases boot_cases config (.ok (load outOfRange server.store.tables deribitVenueCode)) with
    ⟨what, failed, -⟩ | ⟨rows, same, empty, ran⟩ | ⟨rows, same, nonempty, ran⟩
  · cases failed
  · cases same
    rw [ran]
    exact ⟨fun _ => rfl, fun nonempty => absurd empty nonempty⟩
  · cases same
    rw [ran]
    exact ⟨fun empty => absurd empty nonempty, fun _ => rfl⟩

/-- The ingest runs in the environment the gateway boots in, against the server it
connects to, from the first run on. -/
structure Deployed (python : Interpreter) (env : Environment) (config : Config) (server : Server)
    (runs : List ScheduledRun) (later : Server) : Prop where
  booted : Config.fromEnv env = .ok config
  within : PortWithinLimit python env
  accepted : server.accepts config.postgresConninfo = true
  fresh : server.store = .empty
  scheduled : (schedule python env).Run server runs later

/-- Both components reach the same database, which a history of ingests has filled. -/
theorem Deployed.exists_history (deployed : Deployed python env config server runs later) :
    later.accepts config.postgresConninfo = true ∧ ∃ history,
      ingests.Run Store.empty history later.store ∧ runs = history.map Invocation.scheduled := by
  rcases settings_of_booted python deployed.booted with ⟨-, read⟩ | ⟨beyond, -⟩
  · have reached := deployed.accepted
    rw [← config.settings_postgresConninfo] at reached
    obtain ⟨same, history, ingested, isHistory⟩ :=
      exists_scheduled_history read reached deployed.scheduled
    rw [deployed.fresh] at ingested
    exact ⟨same ▸ deployed.accepted, history, ingested, isHistory⟩
  · exact absurd deployed.within beyond

/-- After any runs of the ingest in the environment of the gateway, each of which exits
with zero exactly if its responses are accepted, the gateway starts with the entries of the
chain that the successful ones make, in order, or exits if there are none. -/
theorem gateway_starts_on_what_was_ingested
    (deployed : Deployed python env config server runs later) :
    let chain := Chain.after ((succeededRuns runs).map ScheduledRun.responses)
    let outcome := (main (serverDatabase outOfRange refusal later) env).2
    (∀ run ∈ runs, run.code = if run.responses.accepted then 0 else 1) ∧
    (chain.keys outOfRange = [] → outcome = .exited 1) ∧
    (chain.keys outOfRange ≠ [] → ∃ registry, outcome = .started registry startedSink ∧
      registry.keys.map InstrumentKey.withoutId = chain.keys outOfRange) := by
  intro chain outcome
  obtain ⟨reached, history, ingested, rfl⟩ := deployed.exists_history
  have explained := explained_run ingested
  have codes : ∀ run ∈ history.map Invocation.scheduled,
      run.code = if run.responses.accepted then 0 else 1 := by
    intro run member
    obtain ⟨invocation, inHistory, rfl⟩ := List.mem_map.mp member
    unfold Invocation.scheduled
    rw [explained.succeeded_eq inHistory]
  have isChain : chain = Chain.after (history.map Invocation.responses) := by
    rw [← Chain.after_accepted, explained.accepted_eq]
    unfold chain
    rw [succeededRuns_scheduled, List.map_map]
    rfl
  have keys := explained.stores.registryOf_keys outOfRange
  rw [← isChain] at keys
  obtain ⟨exits, starts⟩ := started_of_accepted outOfRange refusal deployed.booted reached
  refine ⟨codes, fun empty => exits ?_, fun nonempty => ⟨_, starts ?_, keys⟩⟩
  · rw [empty] at keys
    exact List.map_eq_nil_iff.mp keys
  · intro empty
    rw [empty] at keys
    exact nonempty keys.symm

/-- Where `btc_usd` was listed as nothing but the index, the gateway starts exactly if
some run of the ingest has exited with zero. -/
theorem gateway_starts_iff_ingested
    (deployed : Deployed python env config server runs later)
    (indexed : ∀ kind, (btcUsdSymbol, kind) ∈ scheduledListing runs → kind = .index) :
    (∃ registry sink,
      (main (serverDatabase outOfRange refusal later) env).2 = .started registry sink) ↔
      ∃ run ∈ runs, run.code = 0 := by
  obtain ⟨reached, history, ingested, rfl⟩ := deployed.exists_history
  have catalogued := catalogued_run ingested
  unfold CataloguedBy at catalogued
  rw [← scheduledListing_scheduled] at catalogued
  obtain ⟨exits, starts⟩ := started_of_accepted outOfRange refusal deployed.booted reached
  constructor
  · rintro ⟨registry, sink, isStarted⟩
    by_contra noRun
    have nothing : succeededRuns (history.map Invocation.scheduled) = [] := by
      refine List.filter_eq_nil_iff.mpr fun run member isZero => noRun ⟨run, member, ?_⟩
      simpa using isZero
    unfold scheduledListing at catalogued
    rw [nothing] at catalogued
    have empty : (registryOf outOfRange later.store.tables deribitVenueCode).keys = [] := by
      refine List.eq_nil_iff_forall_not_mem.mpr fun key member => ?_
      obtain ⟨-, first, -⟩ :=
        (catalogued.mem_registryOf outOfRange).mp ⟨key, member, rfl, rfl, rfl⟩
      cases first
    rw [exits empty] at isStarted
    cases isStarted
  · rintro ⟨run, member, isZero⟩
    have succeeded : run ∈ succeededRuns (history.map Invocation.scheduled) :=
      List.mem_filter.mpr ⟨member, by simpa using isZero⟩
    have listed : (btcUsdSymbol, .index) ∈
        scheduledListing (history.map Invocation.scheduled) :=
      List.mem_flatMap.mpr ⟨run, succeeded, by simp [Responses.listing]⟩
    obtain ⟨id, held⟩ := catalogued.complete _ listed
    obtain ⟨key, inKeys, -⟩ := (catalogued.mem_registryOf outOfRange).mpr
      ⟨held, firstKind_of_unique listed indexed, parsedKind_btcUsd⟩
    exact ⟨_, _, starts (List.ne_nil_of_mem inKeys)⟩

/-! ## A local deployment -/

/-- A server that takes every connection string, before the first run. -/
def localServer : Server := ⟨fun _ => true, .empty⟩

theorem localConfig_booted : Config.fromEnv localConfig.environment = .ok localConfig := by
  decide +kernel

theorem localConfig_portWithinLimit : PortWithinLimit asciiPython localConfig.environment := by
  rcases settings_of_booted asciiPython localConfig_booted with ⟨within, -⟩ | ⟨-, port, refused⟩
  · exact within
  · have read : Settings.fromEnv asciiPython localConfig.environment =
        .ok (localConfig.settings defaultDeribitBaseUrl) := by
      decide +kernel
    rw [read] at refused
    cases refused

/-- A run during an outage and one over the full chain. -/
def localRuns : List ScheduledRun := [⟨outage, 1⟩, ⟨fullChain, 0⟩]

theorem exists_localRuns :
    ∃ later, (schedule asciiPython localConfig.environment).Run localServer localRuns later := by
  have read : Settings.fromEnv asciiPython localConfig.environment =
      .ok (localConfig.settings defaultDeribitBaseUrl) := by
    decide +kernel
  let afterOutage := (referenceIngest outage Store.empty).2
  have outageCode : (Invocation.scheduled
      ⟨outage, (referenceIngest outage Store.empty).1⟩).code = 1 := by decide +kernel
  have fullCode : (Invocation.scheduled
      ⟨fullChain, (referenceIngest fullChain afterOutage).1⟩).code = 0 := by decide +kernel
  exact ⟨_, .cons
    ((@main_of_accepted _ _ _ localServer read rfl outage).trans
      (congrArg (·, (⟨fun _ => true, afterOutage⟩ : Server)) outageCode))
    (.single ((@main_of_accepted _ _ _ ⟨fun _ => true, afterOutage⟩ read rfl fullChain).trans
      (congrArg (·, (⟨fun _ => true, (referenceIngest fullChain afterOutage).2⟩ : Server))
        fullCode)))⟩

theorem exists_localDeployment :
    ∃ later, Deployed asciiPython localConfig.environment localConfig localServer localRuns
      later := by
  obtain ⟨later, scheduled⟩ := exists_localRuns
  exact ⟨later, localConfig_booted, localConfig_portWithinLimit, rfl, rfl, scheduled⟩

theorem gateway_starts_on_what_was_ingested_localRuns :
    ∃ later registry, (schedule asciiPython localConfig.environment).Run localServer localRuns
        later ∧
      (main (serverDatabase (fun _ => 0) id later) localConfig.environment).2 =
        .started registry startedSink ∧
      registry.keys.map InstrumentKey.withoutId = (Chain.after [fullChain]).keys fun _ => 0 := by
  obtain ⟨later, deployed⟩ := exists_localDeployment
  have nonempty : ((Chain.after [fullChain]).keys fun _ => 0) ≠ [] := by
    decide +kernel
  obtain ⟨registry, started, keys⟩ :=
    (gateway_starts_on_what_was_ingested (fun _ => 0) id deployed).2.2 nonempty
  exact ⟨later, registry, deployed.scheduled, started, keys⟩

theorem gateway_starts_iff_ingested_localRuns :
    ∃ later, (schedule asciiPython localConfig.environment).Run localServer localRuns later ∧
      ∃ registry sink, (main (serverDatabase (fun _ => 0) id later)
        localConfig.environment).2 = .started registry sink := by
  obtain ⟨later, deployed⟩ := exists_localDeployment
  have indexed : ∀ entry ∈ scheduledListing localRuns, entry.1 = btcUsdSymbol →
      entry.2 = .index := by
    decide +kernel
  exact ⟨later, deployed.scheduled, (gateway_starts_iff_ingested (fun _ => 0) id deployed
    fun kind member => indexed _ member rfl).mpr ⟨⟨fullChain, 0⟩, by simp [localRuns], rfl⟩⟩

end QuantGateway.Gateway
