import QuantGateway.Foundation.PointUpdates
import QuantGateway.Ingest.RunUpdates

/-!
Owns what the order of the payloads within a response decides: nothing but the order in
which new instruments are stored. From the same database, permuted responses end alike and
leave the same instruments with the same terms, and the gateway the same channels.

Does not own a name that a response lists twice; there the last payload wins.
-/

namespace QuantGateway.Ingest

open QuantGateway.Foundation
open QuantGateway.MarketData
open QuantGateway.SecurityMaster

/-! ## The chain as a log of point updates -/

namespace Chain

/-- What an update makes of the entry of its symbol. -/
def updated (found : Option ChainEntry) (update : Update) : ChainEntry :=
  ChainEntry.attach
    (match found with
    | some entry => { entry with tickSize := update.tickSize }
    | none =>
        ⟨update.symbol, update.terms.table.instrumentType, update.tickSize, none, none, false⟩)
    update.terms

theorem entry_apply (chain : Chain) (update : Update) (name : Text) :
    (chain.apply update).entry name =
      if update.symbol = name then some (updated (chain.entry name) update)
      else chain.entry name := by
  split
  next same =>
    subst same
    unfold apply place
    rw [entry_attach]
    split
    next present =>
      have edited := entry_map
        (fun entry => if entry.symbol = update.symbol then
          { entry with tickSize := update.tickSize } else entry)
        (fun entry => by split <;> rfl) chain update.symbol
      obtain ⟨entry, member, same⟩ := present
      obtain ⟨found, isFound⟩ : ∃ found, chain.entry update.symbol = some found :=
        exists_find?_of_mem member (decide_eq_true same)
      have symbol := (mem_of_entry isFound).2
      rw [edited, isFound, Option.map_some, Option.map_some, if_pos symbol, if_pos symbol]
      rfl
    next absent =>
      have fresh : chain.entry update.symbol = none := by
        refine List.find?_eq_none.mpr fun entry member same => absent ?_
        exact ⟨entry, member, by simpa using same⟩
      rw [fresh]
      unfold Chain.entry at fresh ⊢
      rw [List.find?_append, fresh]
      simp [updated]
  next apart => exact entry_apply_of_ne apart

/-- Updates of a chain change the entries of their symbols. -/
def pointUpdates : PointUpdates Chain Update Text ChainEntry where
  find := Chain.entry
  target := Update.symbol
  apply := Chain.apply
  change := updated
  find_apply := entry_apply

end Chain

/-- Chains with distinct symbols and the same entries have them in some order. -/
theorem perm_of_entries {first second : Chain}
    (firstDistinct : (first.map ChainEntry.symbol).Nodup)
    (secondDistinct : (second.map ChainEntry.symbol).Nodup)
    (same : ∀ name, first.entry name = second.entry name) : first.Perm second := by
  have member {chain : Chain} (distinct : (chain.map ChainEntry.symbol).Nodup)
      (entry : ChainEntry) : entry ∈ chain ↔ chain.entry entry.symbol = some entry :=
    ⟨find?_key_of_mem distinct, fun found => (Chain.mem_of_entry found).1⟩
  refine (List.perm_ext_iff_of_nodup firstDistinct.of_map secondDistinct.of_map).mpr fun entry => ?_
  rw [member firstDistinct, member secondDistinct, same]

/-- A stored chain has each symbol once. -/
theorem Stores.symbols_nodup {tables : Tables} {lastVenueId lastInstrumentId : Int}
    {chain : Chain} (stores : Stores tables lastVenueId lastInstrumentId chain) :
    (chain.map ChainEntry.symbol).Nodup := by
  rw [← stores.chain]
  unfold chainOf
  rw [List.map_map]
  have distinct := stores.valid.instrumentKey.of_map
  change (tables.instrument.map Instrument.symbol).Nodup
  rw [List.nodup_map_iff_inj_on distinct]
  intro first firstIn second secondIn same
  obtain ⟨venue, venueIn, venueId⟩ := List.mem_map.mp (stores.valid.instrumentVenue first firstIn)
  obtain ⟨other, otherIn, otherId⟩ := List.mem_map.mp (stores.valid.instrumentVenue second secondIn)
  have sameVenue := eq_of_key_eq stores.valid.venueCode venueIn otherIn
    ((stores.deribit venue venueIn).trans (stores.deribit other otherIn).symm)
  have sameName : (first.venueId, first.symbol) = (second.venueId, second.symbol) := by
    rw [← venueId, ← otherId, sameVenue, same]
  exact eq_of_key_eq stores.valid.instrumentName firstIn secondIn sameName

/-! ## Permuted responses -/

/-- The symbols of the updates of contracts. -/
theorem symbols_of_mapM {Contract : Type} {update : Contract → Except Failure Update}
    {symbolOf : Contract → Option Text} {contracts : List Contract} {log : List Update}
    (named : ∀ {contract written}, update contract = .ok written →
      symbolOf contract = some written.symbol)
    (ran : contracts.mapM update = .ok log) :
    log.map Update.symbol = contracts.filterMap symbolOf := by
  rw [filterMap_eq_of_forall₂ (except_mapM_ok ran) fun _ written => @named _ written]
  exact (congrFun List.filterMap_eq_map log).symm

variable {options otherOptions : List OptionPayload} {futures otherFutures : List FuturePayload}
  {log : List Update}

/-- Permuted payloads make permuted updates. -/
theorem Responses.updates_perm (sameOptions : options.Perm otherOptions)
    (sameFutures : futures.Perm otherFutures)
    (ran : (Responses.mk (.result options) (.result futures)).updates = .ok log) :
    ∃ optionLog futureLog otherOptionLog otherFutureLog,
      log = optionLog ++ futureLog ++ [currencyUpdate] ∧
      (Responses.mk (.result otherOptions) (.result otherFutures)).updates =
        .ok (otherOptionLog ++ otherFutureLog ++ [currencyUpdate]) ∧
      optionLog.Perm otherOptionLog ∧ futureLog.Perm otherFutureLog ∧
      optionLog.map Update.symbol =
        (Responses.mk (.result options) (.result futures)).optionNames ∧
      futureLog.map Update.symbol =
        (Responses.mk (.result options) (.result futures)).datedFutureNames := by
  unfold Responses.updates at ran
  obtain ⟨_, received, ran⟩ := except_bind_ok ran
  obtain ⟨contracts, parsed, ran⟩ := except_bind_ok ran
  obtain ⟨optionLog, updated, ran⟩ := except_bind_ok ran
  obtain ⟨_, receivedFutures, ran⟩ := except_bind_ok ran
  obtain ⟨allFutures, parsedFutures, ran⟩ := except_bind_ok ran
  obtain ⟨futureLog, updatedFutures, ran⟩ := except_bind_ok ran
  cases ran
  cases received
  cases receivedFutures
  obtain ⟨otherContracts, otherParsed, contractsPerm⟩ := except_mapM_perm sameOptions parsed
  obtain ⟨otherOptionLog, otherUpdated, optionsPerm⟩ := except_mapM_perm contractsPerm updated
  obtain ⟨otherAllFutures, otherParsedFutures, allPerm⟩ :=
    except_mapM_perm sameFutures parsedFutures
  obtain ⟨otherFutureLog, otherUpdatedFutures, futuresPerm⟩ :=
    except_mapM_perm (allPerm.filter _) updatedFutures
  refine ⟨optionLog, futureLog, otherOptionLog, otherFutureLog, rfl, ?_, optionsPerm,
    futuresPerm, ?_, ?_⟩
  · unfold Responses.updates
    simp only [Response.get, bind, Except.bind, otherParsed, otherUpdated, otherParsedFutures,
      otherUpdatedFutures]
    rfl
  · rw [@Responses.optionNames_eq ⟨.result options, .result futures⟩ _ parsed]
    exact symbols_of_mapM (fun ran => (OptionContract.update_ok ran).1) updated
  · rw [@Responses.datedFutureNames_eq ⟨.result options, .result futures⟩ _ parsedFutures]
    exact symbols_of_mapM (fun ran => (FutureContract.update_ok ran).1) updatedFutures

/-- Permuted updates of distinct names leave the same entries. -/
theorem entries_of_perm {optionLog futureLog otherOptionLog otherFutureLog : List Update}
    (optionsPerm : optionLog.Perm otherOptionLog) (futuresPerm : futureLog.Perm otherFutureLog)
    (distinctOptions : (optionLog.map Update.symbol).Nodup)
    (distinctFutures : (futureLog.map Update.symbol).Nodup) (chain : Chain) (name : Text) :
    Chain.entry ((optionLog ++ futureLog ++ [currencyUpdate]).foldl Chain.apply chain) name =
      Chain.entry ((otherOptionLog ++ otherFutureLog ++ [currencyUpdate]).foldl Chain.apply chain)
        name := by
  refine Chain.pointUpdates.find_foldl_congr ?_ chain
  simp only [PointUpdates.atKey_append]
  rw [Chain.pointUpdates.atKey_of_perm optionsPerm distinctOptions,
    Chain.pointUpdates.atKey_of_perm futuresPerm distinctFutures]

variable {history : List Invocation} {before store other : Store} {ingested : Ingested}
  {outcome : Except Failure Ingested}

/-- Where no name is listed twice in a response, the order of the payloads decides nothing
but the order of the instruments: the permuted run succeeds too, leaves the same
instruments with the same terms, and the gateway subscribes to the same channels. -/
theorem listing_order_is_immaterial (outOfRange : Double → Nanos)
    (past : ingests.Run Store.empty history before)
    (run : ingests.Step before ⟨⟨.result options, .result futures⟩, .ok ingested⟩ store)
    (permuted : ingests.Step before ⟨⟨.result otherOptions, .result otherFutures⟩, outcome⟩ other)
    (sameOptions : options.Perm otherOptions) (sameFutures : futures.Perm otherFutures)
    (distinctOptions : (Responses.mk (.result options) (.result futures)).optionNames.Nodup)
    (distinctFutures :
      (Responses.mk (.result options) (.result futures)).datedFutureNames.Nodup) :
    (∃ ids, outcome = .ok ids) ∧
    (∀ name, (chainOf store.tables).entry name = (chainOf other.tables).entry name) ∧
    ((registryOf outOfRange store.tables deribitVenueCode).keys.map
      InstrumentKey.withoutId).Perm
        ((registryOf outOfRange other.tables deribitVenueCode).keys.map InstrumentKey.withoutId) ∧
    ∀ interval,
      ((registryOf outOfRange store.tables deribitVenueCode).subscriptionChannels interval).Perm
        ((registryOf outOfRange other.tables deribitVenueCode).subscriptionChannels interval) := by
  obtain ⟨ending, stores⟩ := (explained_run past).stores.ingest run
  obtain ⟨otherEnding, otherStores⟩ := (explained_run past).stores.ingest permuted
  generalize Chain.after (history.map Invocation.responses) = chain at *
  unfold Chain.ingest at ending stores otherEnding otherStores
  cases updates : (Responses.mk (.result options) (.result futures)).updates with
  | error failure =>
      simp only [updates] at ending
      cases ending
  | ok log =>
      obtain ⟨optionLog, futureLog, otherOptionLog, otherFutureLog, rfl, otherUpdates,
        optionsPerm, futuresPerm, optionNames, futureNames⟩ :=
          Responses.updates_perm sameOptions sameFutures updates
      simp only [updates] at stores
      simp only [otherUpdates] at otherEnding otherStores
      rw [← optionNames] at distinctOptions
      rw [← futureNames] at distinctFutures
      have entries := entries_of_perm optionsPerm futuresPerm distinctOptions distinctFutures chain
      have chains := perm_of_entries stores.symbols_nodup otherStores.symbols_nodup entries
      have keys : ((registryOf outOfRange store.tables deribitVenueCode).keys.map
          InstrumentKey.withoutId).Perm
            ((registryOf outOfRange other.tables deribitVenueCode).keys.map
              InstrumentKey.withoutId) := by
        rw [stores.registryOf_keys outOfRange, otherStores.registryOf_keys outOfRange]
        exact chains.filterMap _
      refine ⟨?_, ?_, keys, InstrumentRegistry.subscriptionChannels_perm keys⟩
      · cases outcome with
        | ok ids => exact ⟨ids, rfl⟩
        | error failure => cases otherEnding
      · intro name
        rw [stores.chain, otherStores.chain]
        exact entries name

/-- A second listed option. -/
def otherOption : OptionPayload :=
  { listedOption with instrumentName := .value "BTC-19AUG26-60000-C".toList }

/-- Two options in one order and in the other. -/
def listedInOrder : Responses :=
  ⟨.result [listedOption, otherOption], .result [listedFuture]⟩

def listedSwapped : Responses :=
  ⟨.result [otherOption, listedOption], .result [listedFuture]⟩

theorem listing_order_is_immaterial_swapped :
    ((registryOf (fun _ => 0) (referenceIngest listedInOrder Store.empty).2.tables
        deribitVenueCode).subscriptionChannels "100ms".toList).Perm
      ((registryOf (fun _ => 0) (referenceIngest listedSwapped Store.empty).2.tables
        deribitVenueCode).subscriptionChannels "100ms".toList) := by
  have run : ingests.Step Store.empty ⟨listedInOrder, .ok ⟨[1, 2], [3], 4⟩⟩
      (referenceIngest listedInOrder Store.empty).2 := succeeded_step (by decide +kernel)
  have permuted : ingests.Step Store.empty ⟨listedSwapped, .ok ⟨[1, 2], [3], 4⟩⟩
      (referenceIngest listedSwapped Store.empty).2 := succeeded_step (by decide +kernel)
  obtain ⟨-, -, -, channels⟩ := listing_order_is_immaterial (fun _ => 0) (.nil _) run permuted
    (.swap otherOption listedOption []) (.refl _) (by decide) (by decide)
  exact channels "100ms".toList

end QuantGateway.Ingest
