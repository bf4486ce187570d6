import QuantGateway.Ingest.ChainHistory
import QuantGateway.MarketData.Subscription

/-!
Owns what the gateway makes of a stored chain: but for the ids, the entries of the
registry are those of the chain in its order, and so are the channels.

From this follows that failed runs leave no trace in what the gateway subscribes to.
-/

namespace QuantGateway.MarketData

/-- A key without the id the database gave it. -/
def InstrumentKey.withoutId (key : InstrumentKey) : InstrumentKey :=
  { key with id := 0 }

/-- The id of a row is only copied. -/
theorem toInstrumentKey_withoutId (row : InstrumentRow) :
    (toInstrumentKey row).map InstrumentKey.withoutId =
      toInstrumentKey { row with instrumentId := 0 } := by
  unfold toInstrumentKey
  simp only
  split
  · rfl
  · cases parseSymbol row.symbol with
    | none => rfl
    | some parsed =>
        simp only
        split
        · unfold optionKey rightOf
          simp only
          split
          · rfl
          · rw [Option.map_map]
            rfl
        · split
          · unfold futureKey
            simp only
            split <;> rfl
          · split
            · unfold currencyKey
              simp only
              split <;> rfl
            · rfl

namespace InstrumentRegistry

open QuantGateway.Foundation

/-- The channels of a kind depend on the entries but for their ids. -/
theorem channelsOfKind_eq (registry : InstrumentRegistry) (interval : Text)
    (kind : InstrumentKind) :
    registry.channelsOfKind interval kind =
      ((registry.keys.map InstrumentKey.withoutId).filter fun key => key.kind = kind).map
        fun key => channelFor key interval := by
  unfold channelsOfKind
  rw [List.filter_map, List.map_map]
  rfl

variable {first second : InstrumentRegistry}

theorem subscriptionChannels_congr
    (same : first.keys.map InstrumentKey.withoutId = second.keys.map InstrumentKey.withoutId)
    (interval : Text) :
    first.subscriptionChannels interval = second.subscriptionChannels interval := by
  rw [subscriptionChannels_eq, subscriptionChannels_eq]
  simp only [channelsOfKind_eq, same]

theorem subscriptionChannels_perm
    (permutation : (first.keys.map InstrumentKey.withoutId).Perm
      (second.keys.map InstrumentKey.withoutId)) (interval : Text) :
    (first.subscriptionChannels interval).Perm (second.subscriptionChannels interval) := by
  have ofKind (kind : InstrumentKind) :
      (first.channelsOfKind interval kind).Perm (second.channelsOfKind interval kind) := by
    rw [channelsOfKind_eq, channelsOfKind_eq]
    exact (permutation.filter _).map _
  rw [subscriptionChannels_eq, subscriptionChannels_eq]
  exact (ofKind .index).append ((ofKind .future).append (ofKind .option))

end InstrumentRegistry

end QuantGateway.MarketData

namespace QuantGateway.Ingest

open QuantGateway.Foundation
open QuantGateway.MarketData
open QuantGateway.SecurityMaster

/-! ## The registry of a chain -/

/-- The row the gateway loads for an instrument of the chain. -/
def ChainEntry.row (outOfRange : Double → Nanos) (entry : ChainEntry) : InstrumentRow where
  instrumentId := 0
  symbol := entry.symbol
  instrumentType := entry.instrumentType
  optionType := entry.option.map OptionTerms.optionType
  strike := entry.option.map fun terms => terms.strike.toDouble
  expiration :=
    ((entry.option.bind OptionTerms.expirationTimestamp).or
      (entry.future.bind FutureTerms.expirationTimestamp)).map fun timestamp =>
        nanosOfSeconds outOfRange timestamp.epoch.toDouble

/-- The entries of the registry of a chain. -/
def Chain.keys (outOfRange : Double → Nanos) (chain : Chain) : List InstrumentKey :=
  chain.filterMap fun entry => toInstrumentKey (entry.row outOfRange)

variable {tables : Tables} {lastVenueId lastInstrumentId : Int} {chain : Chain}
  (outOfRange : Double → Nanos)

/-- The loaded row of an instrument is that of its entry. -/
theorem loadRow_entryOf (row : Instrument) :
    { loadRow outOfRange (tables.recordOf row) with instrumentId := 0 } =
      (entryOf tables row).row outOfRange := by
  unfold loadRow Tables.recordOf queryRecord coalescedExpiration ChainEntry.row entryOf
  cases tables.option.find? fun option => option.instrumentId = row.instrumentId <;>
    cases tables.future.find? fun future => future.instrumentId = row.instrumentId <;>
      simp [optionTermsOf, futureTermsOf, Function.comp_def]

/-- Only the rows the query selects are mapped. -/
theorem Stores.queried_of_mapped (stores : Stores tables lastVenueId lastInstrumentId chain)
    {row : Instrument} (inRows : row ∈ tables.instrument) {key : InstrumentKey}
    (mapped : toInstrumentKey ((entryOf tables row).row outOfRange) = some key) :
    tables.queried deribitVenueCode row = true := by
  obtain ⟨parsed, -, -, -, -, typed⟩ := toInstrumentKey_some mapped
  obtain ⟨venue, inVenues, sameId⟩ := List.mem_map.mp (stores.valid.instrumentVenue row inRows)
  exact queried_iff.mpr
    ⟨⟨venue, inVenues, sameId, stores.deribit venue inVenues⟩, (mem_queriedTypes typed).1⟩

/-- Ordering by id is the order of the chain. -/
theorem Stores.load_eq (stores : Stores tables lastVenueId lastInstrumentId chain) :
    load outOfRange tables deribitVenueCode =
      (tables.instrument.filter (tables.queried deribitVenueCode)).map fun row =>
        loadRow outOfRange (tables.recordOf row) := by
  have ordered : (tables.instrument.filter (tables.queried deribitVenueCode)).Pairwise
      fun first second => first.instrumentId ≤ second.instrumentId :=
    ((List.pairwise_map.mp stores.issued.increasing).imp le_of_lt).filter _
  unfold load
  rw [instrumentQuery_eq stores.valid, List.map_map]
  unfold orderBy
  rw [ordered.insertionSort_eq]
  rfl

/-- But for the ids the registry holds the entries of the chain, in order. -/
theorem Stores.registryOf_keys (stores : Stores tables lastVenueId lastInstrumentId chain) :
    (registryOf outOfRange tables deribitVenueCode).keys.map InstrumentKey.withoutId =
      chain.keys outOfRange := by
  rw [SecurityMaster.registryOf_keys outOfRange stores.valid, stores.load_eq outOfRange,
    List.filterMap_map, List.map_filterMap, ← stores.chain]
  unfold Chain.keys chainOf
  rw [List.filterMap_map, List.filterMap_filter]
  apply List.filterMap_congr
  intro row inRows
  simp only [Function.comp_apply, toInstrumentKey_withoutId, loadRow_entryOf]
  split
  next => rfl
  next unqueried =>
    cases mapped : toInstrumentKey ((entryOf tables row).row outOfRange) with
    | none => rfl
    | some key => exact absurd (stores.queried_of_mapped outOfRange inRows mapped) unqueried

/-! ## Failed runs -/

variable {history : List Invocation} {store : Store}

def Invocation.succeeded (invocation : Invocation) : Bool :=
  match invocation.outcome with
  | .ok _ => true
  | .error _ => false

/-- A run with these responses succeeds. -/
def Responses.accepted (responses : Responses) : Bool :=
  match responses.updates with
  | .ok _ => true
  | .error _ => false

theorem Chain.ingest_rejected {responses : Responses} (rejected : ¬ responses.accepted = true)
    (chain : Chain) : (chain.ingest responses).2 = chain := by
  unfold Responses.accepted at rejected
  unfold Chain.ingest
  cases updates : responses.updates with
  | ok log => simp [updates] at rejected
  | error failure => rfl

/-- Runs that fail leave the chain as it is. -/
theorem Chain.after_accepted (received : List Responses) :
    Chain.after (received.filter Responses.accepted) = Chain.after received := by
  unfold Chain.after
  generalize ([] : Chain) = chain
  induction received generalizing chain with
  | nil => rfl
  | cons responses rest inductionHypothesis =>
      rw [List.filter_cons, List.foldl_cons, ← inductionHypothesis]
      split
      next => rfl
      next rejected => rw [Chain.ingest_rejected rejected]

theorem Explained.succeeded_eq (explained : Explained history store) {invocation : Invocation}
    (member : invocation ∈ history) :
    invocation.succeeded = invocation.responses.accepted := by
  have ending := explained.endings invocation member
  obtain ⟨responses, outcome⟩ := invocation
  unfold Invocation.ending at ending
  unfold Invocation.succeeded Responses.accepted
  cases outcome <;> cases updates : responses.updates <;> rw [updates] at ending <;>
    first | rfl | cases ending

/-- The responses of the successful runs. -/
theorem Explained.accepted_eq (explained : Explained history store) :
    (history.map Invocation.responses).filter Responses.accepted =
      (history.filter Invocation.succeeded).map Invocation.responses := by
  rw [List.filter_map]
  congr 1
  apply List.filter_congr
  intro invocation member
  exact (explained.succeeded_eq member).symm

/-- There is a history with any responses. -/
theorem exists_history (received : List Responses) (store : Store) :
    ∃ history last, ingests.Run store history last ∧
      history.map Invocation.responses = received := by
  induction received generalizing store with
  | nil => exact ⟨[], store, .nil store, rfl⟩
  | cons responses rest inductionHypothesis =>
      obtain ⟨history, last, run, isRest⟩ :=
        inductionHypothesis (referenceIngest responses store).2
      refine ⟨⟨responses, (referenceIngest responses store).1⟩ :: history, last,
        .cons rfl run, ?_⟩
      rw [List.map_cons, isRest]

/-- Failed runs leave no trace: without them all the others still succeed, and the
gateway builds the same registry but for the ids, with the same channels. -/
theorem failed_runs_leave_no_trace (outOfRange : Double → Nanos)
    (run : ingests.Run Store.empty history store) :
    ∃ clean last, ingests.Run Store.empty clean last ∧
      clean.map Invocation.responses =
        (history.filter Invocation.succeeded).map Invocation.responses ∧
      (∀ invocation ∈ clean, invocation.succeeded = true) ∧
      chainOf last.tables = chainOf store.tables ∧
      (registryOf outOfRange last.tables deribitVenueCode).keys.map InstrumentKey.withoutId =
        (registryOf outOfRange store.tables deribitVenueCode).keys.map InstrumentKey.withoutId ∧
      ∀ interval,
        (registryOf outOfRange last.tables deribitVenueCode).subscriptionChannels interval =
          (registryOf outOfRange store.tables deribitVenueCode).subscriptionChannels interval := by
  have explained := explained_run run
  obtain ⟨clean, last, cleanRun, received⟩ :=
    exists_history ((history.filter Invocation.succeeded).map Invocation.responses) Store.empty
  have cleanExplained := explained_run cleanRun
  have stores := explained.stores
  have cleanStores := cleanExplained.stores
  rw [received, ← explained.accepted_eq, Chain.after_accepted] at cleanStores
  have keys := (cleanStores.registryOf_keys outOfRange).trans
    (stores.registryOf_keys outOfRange).symm
  refine ⟨clean, last, cleanRun, received, ?_, cleanStores.chain.trans stores.chain.symm, keys,
    InstrumentRegistry.subscriptionChannels_congr keys⟩
  intro invocation member
  rw [cleanExplained.succeeded_eq member]
  have inAccepted : invocation.responses ∈ clean.map Invocation.responses :=
    List.mem_map_of_mem member
  rw [received, ← explained.accepted_eq] at inAccepted
  exact (List.mem_filter.mp inAccepted).2

def outage : Responses where
  options := .httpError
  futures := .httpError

/-- A run during an outage, before the first run over the full chain. -/
theorem failed_runs_leave_no_trace_outage :
    let afterOutage := (referenceIngest outage Store.empty).2
    ∃ clean last, ingests.Run Store.empty clean last ∧
      clean.map Invocation.responses = [fullChain] ∧
      chainOf last.tables = chainOf (referenceIngest fullChain afterOutage).2.tables := by
  intro afterOutage
  have failed : ingests.Step Store.empty ⟨outage, .error .httpStatus⟩ afterOutage :=
    Prod.ext (by decide +kernel) rfl
  have succeeded : ingests.Step afterOutage ⟨fullChain, .ok ⟨[1], [2], 3⟩⟩
      (referenceIngest fullChain afterOutage).2 := succeeded_step (by decide +kernel)
  obtain ⟨clean, last, run, received, -, chain, -⟩ :=
    failed_runs_leave_no_trace (fun _ => 0) (.cons failed (.single succeeded))
  exact ⟨clean, last, run, received, chain⟩

end QuantGateway.Ingest
