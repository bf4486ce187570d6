import QuantGateway.Ingest.ChainRegistry

/-!
Owns what a restart of the gateway can rely on: the instruments of a database only
grow at the end, so a registry built later starts with the entries of the earlier
one, under the same ids, and no channel is unsubscribed.

Does not own the terms of an entry, which later runs may change.
-/

namespace QuantGateway.Ingest

open QuantGateway.Foundation
open QuantGateway.Foundation.Program
open QuantGateway.MarketData
open QuantGateway.MarketData.InstrumentRegistry
open QuantGateway.SecurityMaster

/-! ## Instruments are appended -/

/-- From valid tables the instruments only grow at the end. -/
def Extends (before after : Session) : Prop :=
  before.working.Valid → 0 ≤ before.lastInstrumentId →
    after.working.Valid ∧ 0 ≤ after.lastInstrumentId ∧
      identities before.working <+: identities after.working

theorem Extends.trans (first second third : Session) (here : Extends first second)
    (there : Extends second third) : Extends first third := by
  intro valid positive
  obtain ⟨validMiddle, positiveMiddle, grown⟩ := here valid positive
  obtain ⟨validLast, positiveLast, more⟩ := there validMiddle positiveMiddle
  exact ⟨validLast, positiveLast, grown.trans more⟩

theorem execute_error_state {A : Type} {statement : Tables → Except Failure (A × Tables)}
    {session last : Session} {failure : Failure}
    (failed : execute statement session = .error failure last) : last = session := by
  unfold execute at failed
  split at failed
  next => cases failed
  next =>
    cases failed
    rfl

theorem Upserted.appends {venueId id : Int} {type name : Text} {before after : Session}
    (upserted : Upserted venueId type name id before after) :
    identities before.working <+: identities after.working := by
  rcases upserted.identity with ⟨storedType, -, same⟩ | ⟨-, appended⟩
  · exact same ▸ List.prefix_refl _
  · exact appended ▸ List.prefix_append _ _

theorem executeInstrument_extends (venueId : Int) (symbol : Option Text) (tickSize : Numeric)
    (type : Text) : Keeps Extends (executeInstrument venueId symbol tickSize type) := by
  intro session valid positive
  cases ran : executeInstrument venueId symbol tickSize type session with
  | ok id last =>
      obtain ⟨name, -, upserted, -⟩ := executeInstrument_ok valid positive ran
      refine ⟨upserted.valid, ?_, upserted.appends⟩
      have issued := upserted.issued
      simp only [finalState]
      omega
  | error failure last =>
      rcases bind_error ran with next | ⟨newId, middle, next, failed⟩
      · cases next
      · cases next
        obtain rfl := execute_error_state failed
        exact ⟨valid, by simp only [finalState]; omega, List.prefix_refl _⟩

theorem extends_frame : Frame Extends where
  refl session valid positive := ⟨valid, positive, List.prefix_refl _⟩
  trans := Extends.trans
  instrument := executeInstrument_extends
  subtype := by
    intro table id statement writes session valid positive
    cases ran : execute statement session with
    | ok done last =>
        obtain ⟨working, written, rfl⟩ := execute_ok ran
        have row := writes valid written
        have same : identities working = identities session.working :=
          congrArg (List.map Identity.of) row.instrument
        exact ⟨row.valid, positive, by simp only [finalState, same, List.prefix_refl]⟩
    | error failure last =>
        obtain rfl := execute_error_state ran
        exact ⟨valid, positive, List.prefix_refl _⟩

variable {store next : Store} {chain : Chain}

/-- An invocation appends instruments or leaves them. -/
theorem Store.Stores.extends (stores : store.Stores chain) {invocation : Invocation}
    (step : ingests.Step store invocation next) :
    identities store.tables <+: identities next.tables := by
  have seeding {seeded : Session} (schema : ensureSchema store.connect = .ok () seeded) :
      identities seeded.working = identities store.tables ∧ seeded.working.Valid ∧
        seeded.committed = seeded.working ∧ 0 ≤ seeded.lastInstrumentId := by
    obtain ⟨committed, valid, sequence, instruments, -⟩ := ensureSchema_ok stores.valid schema
    exact ⟨congrArg (List.map Identity.of) instruments, valid, committed,
      sequence ▸ stores.positive⟩
  obtain ⟨responses, outcome⟩ := invocation
  cases outcome with
  | ok ingested =>
      obtain ⟨seeded, venueId, last, schema, -, upserts, tables, -⟩ := referenceIngest_ok step
      obtain ⟨same, valid, -, positive⟩ := seeding schema
      have extended := (upsertAll_closed extends_frame.closed
        (extends_frame.upsertOptionContract venueId) (extends_frame.upsertFutureContract venueId)
        (extends_frame.ensureCurrencyInstrument venueId)).of_ok upserts valid positive
      rw [tables, ← same]
      exact extended.2.2
  | error failure =>
      rcases referenceIngest_error step with ⟨tables, -⟩ | ⟨seeded, schema, tables, -⟩
      · exact tables ▸ List.prefix_refl _
      · obtain ⟨same, -, committed, -⟩ := seeding schema
        have unchanged : identities next.tables = identities store.tables := by
          rw [tables, committed, same]
        exact unchanged ▸ List.prefix_refl _

/-- Over any number of invocations instruments are only appended. -/
theorem Store.Stores.extends_run (stores : store.Stores chain) {more : List Invocation}
    (run : ingests.Run store more next) :
    (∃ later, next.Stores later) ∧ identities store.tables <+: identities next.tables := by
  have step : ∀ {middle : Store} {invocation : Invocation} {after : Store},
      ingests.Step middle invocation after →
      (∃ later, middle.Stores later) ∧ identities store.tables <+: identities middle.tables →
      (∃ later, after.Stores later) ∧ identities store.tables <+: identities after.tables := by
    rintro middle invocation after taken ⟨⟨later, storesMiddle⟩, grown⟩
    exact ⟨⟨_, (storesMiddle.ingest taken).2⟩, grown.trans (storesMiddle.extends taken)⟩
  exact run.preserves step ⟨⟨chain, stores⟩, List.prefix_refl _⟩

/-! ## The registry by identities -/

/-- The entry of an instrument: its id, its symbol, and its kind when its symbol parses
to the kind of its type. -/
def Identity.entry (identity : Identity) : Option (InstrumentId × Text × InstrumentKind) :=
  (parsedKind identity.symbol).bind fun kind =>
    if kind.instrumentType = some identity.instrumentType then
      some (identity.instrumentId, identity.symbol, kind)
    else none

def entryOfKey (key : InstrumentKey) : InstrumentId × Text × InstrumentKind :=
  (key.id, key.symbol, key.kind)

variable (outOfRange : Double → Nanos)

/-- The option type of a loaded row passed the check of its column. -/
theorem loaded_rights {tables : Tables} (valid : tables.Valid) (row : Instrument) :
    ∀ name, (loadRow outOfRange (tables.recordOf row)).optionType = some name →
      name = "call".toList ∨ name = "put".toList := by
  intro name named
  obtain ⟨option, found, rfl⟩ := Option.map_eq_some_iff.mp named
  have checked := valid.optionType option (List.mem_of_find?_eq_some found)
  simpa [optionTypes] using checked

/-- A queried instrument becomes the entry its identity tells. -/
theorem Stores.entry_eq {tables : Tables} {lastVenueId lastInstrumentId : Int}
    (stores : Stores tables lastVenueId lastInstrumentId chain) {row : Instrument}
    (inRows : row ∈ tables.instrument) :
    (if tables.queried deribitVenueCode row then
        (toInstrumentKey (loadRow outOfRange (tables.recordOf row))).map entryOfKey else none) =
      (Identity.of row).entry := by
  unfold Identity.entry Identity.of parsedKind
  cases mapped : toInstrumentKey (loadRow outOfRange (tables.recordOf row)) with
  | some key =>
      obtain ⟨parsed, parse, symbol, id, kind, typed⟩ := toInstrumentKey_some mapped
      have isParsed : parseSymbol row.symbol = some parsed := parse
      have isType : parsed.kind.instrumentType = some row.instrumentType := typed
      have isEntry : toInstrumentKey ((entryOf tables row).row outOfRange) =
          some key.withoutId := by
        rw [← loadRow_entryOf, ← toInstrumentKey_withoutId, mapped]
        rfl
      rw [if_pos (stores.queried_of_mapped outOfRange inRows isEntry), isParsed]
      simp only [Option.map_some, Option.bind_some, if_pos isType, entryOfKey, symbol, id, kind]
      rfl
  | none =>
      rw [Option.map_none, ite_self]
      refine (Option.bind_eq_none_iff.mpr ?_).symm
      intro kind isKind
      obtain ⟨parsed, parse, rfl⟩ := Option.map_eq_some_iff.mp isKind
      refine if_neg fun typed => ?_
      obtain ⟨key, isKey⟩ := toInstrumentKey_isSome parse typed fun _ =>
        loaded_rights outOfRange stores.valid row
      rw [mapped] at isKey
      cases isKey

theorem Stores.entries_eq {tables : Tables} {lastVenueId lastInstrumentId : Int}
    (stores : Stores tables lastVenueId lastInstrumentId chain) :
    (registryOf outOfRange tables deribitVenueCode).keys.map entryOfKey =
      (identities tables).filterMap Identity.entry := by
  rw [SecurityMaster.registryOf_keys outOfRange stores.valid, stores.load_eq outOfRange,
    List.filterMap_map, List.map_filterMap, List.filterMap_filter]
  unfold identities
  rw [List.filterMap_map]
  apply List.filterMap_congr
  intro row inRows
  exact stores.entry_eq outOfRange inRows

/-! ## Restarts -/

/-- The channels of one kind by the entries of the registry. -/
theorem channelsOfKind_entries (registry : InstrumentRegistry) (interval : Text)
    (kind : InstrumentKind) :
    registry.channelsOfKind interval kind =
      ((registry.keys.map entryOfKey).filter fun entry => entry.2.2 = kind).map fun entry =>
        channelFor { symbol := entry.2.1, baseCcy := [], kind := entry.2.2 } interval := by
  unfold channelsOfKind
  rw [List.filter_map, List.map_map]
  rfl

theorem subscriptionChannels_sublist {before after : InstrumentRegistry}
    (grown : before.keys.map entryOfKey <+: after.keys.map entryOfKey) (interval : Text) :
    (before.subscriptionChannels interval).Sublist (after.subscriptionChannels interval) := by
  have block (kind : InstrumentKind) : (before.channelsOfKind interval kind).Sublist
      (after.channelsOfKind interval kind) := by
    rw [channelsOfKind_entries, channelsOfKind_entries]
    exact ((grown.filter _).map _).sublist
  rw [subscriptionChannels_eq, subscriptionChannels_eq]
  exact (block .index).append ((block .future).append (block .option))

/-- Whatever runs come between two starts of the gateway, the later registry begins
with the entries of the earlier one: every symbol it resolved it still resolves to the
same id, and it still subscribes to every channel, in the same order. -/
theorem restart_keeps_subscriptions (interval : Text) {history more : List Invocation}
    (run : ingests.Run Store.empty history store) (later : ingests.Run store more next) :
    let before := registryOf outOfRange store.tables deribitVenueCode
    let after := registryOf outOfRange next.tables deribitVenueCode
    before.keys.map entryOfKey <+: after.keys.map entryOfKey ∧
      (∀ symbol id, before.bySymbol symbol = some id → after.bySymbol symbol = some id) ∧
      (before.subscriptionChannels interval).Sublist (after.subscriptionChannels interval) := by
  intro before after
  have stores := (explained_run run).stores
  obtain ⟨⟨chain, storesNext⟩, grown⟩ := stores.extends_run later
  have entries : before.keys.map entryOfKey <+: after.keys.map entryOfKey := by
    rw [show before.keys.map entryOfKey = _ from stores.entries_eq outOfRange,
      show after.keys.map entryOfKey = _ from storesNext.entries_eq outOfRange]
    exact grown.filterMap _
  refine ⟨entries, ?_, subscriptionChannels_sublist entries interval⟩
  intro symbol id resolved
  have coherent : Coherent before := registryOf_coherent outOfRange stores.valid
  have coherentAfter : Coherent after := registryOf_coherent outOfRange storesNext.valid
  obtain ⟨key, member, rfl, rfl⟩ := coherent.ofSymbol symbol id resolved
  obtain ⟨other, inAfter, same⟩ :=
    List.mem_map.mp (entries.subset (List.mem_map_of_mem (f := entryOfKey) member))
  obtain ⟨sameId, sameRest⟩ := Prod.mk.inj same
  obtain ⟨sameSymbol, -⟩ := Prod.mk.inj sameRest
  rw [← sameId, ← sameSymbol]
  exact coherentAfter.resolved other inAfter

/-- The gateway is restarted after the option has expired. -/
theorem restart_keeps_subscriptions_rolledChain :
    let first := (referenceIngest fullChain Store.empty).2
    let second := (referenceIngest rolledChain first).2
    ((registryOf (fun _ => 0) first.tables deribitVenueCode).subscriptionChannels
        "100ms".toList).Sublist
      ((registryOf (fun _ => 0) second.tables deribitVenueCode).subscriptionChannels
        "100ms".toList) := by
  intro first second
  have rolled : ingests.Step first ⟨rolledChain, .ok ⟨[], [2], 3⟩⟩ second :=
    succeeded_step (by decide +kernel)
  exact (restart_keeps_subscriptions (fun _ => 0) "100ms".toList (.single fullChain_step)
    (.single rolled)).2.2

end QuantGateway.Ingest
