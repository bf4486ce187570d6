import QuantGateway.Ingest.History

/-!
Owns what the gateway subscribes to after a history of reference ingests: the
registry built from the tables holds a listed name exactly when the kind it was
first listed under is the kind `parse_symbol` gives.

From this follow that nothing a run lists goes missing, and when a subscription
is stale: the ingest only upserts, so a name stays once it was listed.
-/

namespace QuantGateway.Ingest

open QuantGateway.Foundation
open QuantGateway.MarketData
open QuantGateway.MarketData.InstrumentRegistry
open QuantGateway.SecurityMaster

/-! ## Types and kinds -/

/-- A kind is stored under a type of its own, which the startup query selects. -/
theorem instrumentType_injective {first second : InstrumentKind} {type : Text}
    (firstType : first.instrumentType = some type)
    (secondType : second.instrumentType = some type) :
    first = second := by
  rw [← secondType] at firstType
  revert firstType secondType
  cases first <;> cases second <;> simp [InstrumentKind.instrumentType]

theorem mem_queriedTypes {kind : InstrumentKind} {type : Text}
    (typed : kind.instrumentType = some type) :
    type ∈ queriedTypes ∧ kind.streamed = true := by
  unfold InstrumentKind.instrumentType at typed
  split at typed
  · exact ⟨Option.some.inj typed ▸ by decide, rfl⟩
  · exact ⟨Option.some.inj typed ▸ by decide, rfl⟩
  · exact ⟨Option.some.inj typed ▸ by decide, rfl⟩
  · cases typed
  · cases typed

section Registry

variable {listed : Listing} {tables : Tables} {last : Int} {name : Text} {id : InstrumentId}
  {kind : InstrumentKind} (outOfRange : Double → Nanos)

/-- Every stored instrument of a kind is queried. -/
theorem Catalogued.queried (catalogued : Catalogued listed tables last) {row : Instrument}
    (inRows : row ∈ tables.instrument) (typed : kind.instrumentType = some row.instrumentType) :
    tables.queried deribitVenueCode row = true := by
  obtain ⟨venue, inVenues, sameId⟩ :=
    List.mem_map.mp (catalogued.valid.instrumentVenue row inRows)
  exact queried_iff.mpr
    ⟨⟨venue, inVenues, sameId, catalogued.deribit venue inVenues⟩, (mem_queriedTypes typed).1⟩

/-- The registry holds a stored name exactly when the first kind it was listed under
is the one its symbol parses to. -/
theorem Catalogued.mem_registryOf (catalogued : Catalogued listed tables last) :
    (∃ key ∈ (registryOf outOfRange tables deribitVenueCode).keys,
        key.id = id ∧ key.symbol = name ∧ key.kind = kind) ↔
      Held tables name id ∧ firstKind listed name = some kind ∧ parsedKind name = some kind := by
  rw [SecurityMaster.mem_registryOf outOfRange catalogued.valid]
  unfold parsedKind
  rw [Option.map_eq_some_iff]
  constructor
  · rintro ⟨row, inRows, -, rfl, rfl, typed, parsed⟩
    have member : Identity.of row ∈ identities tables := List.mem_map_of_mem inRows
    obtain ⟨stored, first, storedType⟩ := catalogued.types _ member
    rw [instrumentType_injective storedType typed] at first
    exact ⟨⟨_, member, rfl, rfl⟩, first, parsed⟩
  · rintro ⟨⟨identity, member, rfl, rfl⟩, first, parsed⟩
    obtain ⟨stored, storedFirst, typed⟩ := catalogued.types identity member
    obtain rfl := Option.some.inj (storedFirst.symm.trans first)
    obtain ⟨row, inRows, rfl⟩ := List.mem_map.mp member
    exact ⟨row, inRows, catalogued.queried inRows typed, rfl, rfl, typed, parsed⟩

/-- The registry resolves a name to an id and a kind, and streams it. -/
structure Subscribed (registry : InstrumentRegistry) (interval name : Text)
    (kind : InstrumentKind) (id : InstrumentId) : Prop where
  resolved : registry.bySymbol name = some id
  found : ∃ key, registry.find id = some key ∧ key.symbol = name ∧ key.kind = kind ∧
    channelFor key interval ∈ registry.subscriptionChannels interval

theorem Catalogued.subscribed (catalogued : Catalogued listed tables last) (interval : Text)
    (held : Held tables name id) (first : firstKind listed name = some kind)
    (parsed : parsedKind name = some kind) :
    Subscribed (registryOf outOfRange tables deribitVenueCode) interval name kind id := by
  obtain ⟨key, member, rfl, rfl, rfl⟩ :=
    (catalogued.mem_registryOf outOfRange).mpr ⟨held, first, parsed⟩
  have coherent : Coherent (registryOf outOfRange tables deribitVenueCode) :=
    registryOf_coherent outOfRange catalogued.valid
  obtain ⟨identity, inIdentities, symbol, -⟩ := held
  obtain ⟨stored, storedFirst, typed⟩ := catalogued.types identity inIdentities
  rw [symbol, first] at storedFirst
  rw [← Option.some.inj storedFirst] at typed
  exact ⟨coherent.resolved key member, key, coherent.found key member, rfl, rfl,
    mem_subscriptionChannels.mpr ⟨key, member, (mem_queriedTypes typed).2, rfl⟩⟩

end Registry

/-! ## A listed option and a listed future -/

theorem succeeded_step {responses : Responses} {ingested : Ingested} {store : Store}
    (succeeded : (referenceIngest responses store).1 = .ok ingested) :
    ingests.Step store ⟨responses, .ok ingested⟩ (referenceIngest responses store).2 :=
  Prod.ext succeeded rfl

def listedOption : OptionPayload where
  instrumentName := .value "BTC-19AUG26-56000-C".toList
  instrumentId := .value 674989
  baseCurrency := .value "BTC".toList
  quoteCurrency := .value "BTC".toList
  counterCurrency := .value "USD".toList
  settlementCurrency := .value "BTC".toList
  priceIndex := .value "btc_usd".toList
  tickSize := .value (.float (.finite (1 / 10000)))
  contractSize := .value (.float (.finite 1))
  minTradeAmount := .value (.float (.finite (1 / 10)))
  expirationTimestamp := .value (.integer 1787126400000)
  creationTimestamp := .value (.integer 1786780817000)
  isActive := .value true
  optionType := .value "call".toList
  strike := .value (.float (.finite 56000))

def listedFuture : FuturePayload where
  instrumentName := .value "BTC-26JUN26".toList
  instrumentId := .value 342036
  baseCurrency := .value "BTC".toList
  quoteCurrency := .value "USD".toList
  counterCurrency := .value "USD".toList
  settlementCurrency := .value "BTC".toList
  priceIndex := .value "btc_usd".toList
  tickSize := .value (.float (.finite (5 / 2)))
  contractSize := .value (.integer 10)
  minTradeAmount := .value (.integer 10)
  settlementPeriod := .value "month".toList
  expirationTimestamp := .value (.integer 1782633600000)
  creationTimestamp := .value (.integer 1751011200000)
  isActive := .value true

def listedPerpetual : FuturePayload where
  instrumentName := .value "BTC-PERPETUAL".toList
  instrumentId := .value 210838
  baseCurrency := .value "BTC".toList
  quoteCurrency := .value "USD".toList
  counterCurrency := .value "USD".toList
  settlementCurrency := .value "BTC".toList
  priceIndex := .value "btc_usd".toList
  tickSize := .value (.float (.finite (5 / 2)))
  contractSize := .value (.integer 10)
  minTradeAmount := .value (.integer 10)
  settlementPeriod := .value perpetualPeriod
  expirationTimestamp := .value (.integer 32503708800000)
  creationTimestamp := .value (.integer 1534242287000)
  isActive := .value true

/-- Everything is listed. -/
def fullChain : Responses where
  options := .result [listedOption]
  futures := .result [listedFuture, listedPerpetual]

theorem parsedKind_listedOption : parsedKind "BTC-19AUG26-56000-C".toList = some .option := by
  unfold parsedKind
  rw [parseSymbol_of_no_underscore (by decide) (by decide)]
  decide +kernel

theorem parsedKind_listedFuture : parsedKind "BTC-26JUN26".toList = some .future := by
  unfold parsedKind
  rw [parseSymbol_of_no_underscore (by decide) (by decide)]
  decide +kernel

theorem fullChain_step : ingests.Step Store.empty ⟨fullChain, .ok ⟨[1], [2], 3⟩⟩
    (referenceIngest fullChain Store.empty).2 :=
  succeeded_step (by decide +kernel)

/-! ## Nothing listed goes missing -/

/-- No name is listed under two kinds. -/
def SingleKind (listed : Listing) : Prop :=
  ∀ name first second, (name, first) ∈ listed → (name, second) ∈ listed → first = second

theorem singleKind_of_nodup {listed : Listing} (distinct : (listed.map Prod.fst).Nodup) :
    SingleKind listed :=
  fun _ _ _ firstMember secondMember =>
    congrArg Prod.snd (eq_of_key_eq distinct firstMember secondMember rfl)

theorem SingleKind.firstKind {listed : Listing} (single : SingleKind listed) {name : Text}
    {kind : InstrumentKind} (member : (name, kind) ∈ listed) :
    Ingest.firstKind listed name = some kind :=
  firstKind_of_unique member fun other otherMember => single name other kind otherMember member

/-- The payloads of one kind whose names parse to it are subscribed to. -/
theorem Catalogued.subscribed_payloads {listed : Listing} {tables : Tables} {last : Int}
    {Payload : Type} {nameOf : Payload → Option Text} {payloads : List Payload} {ids : List Int}
    {kind : InstrumentKind} (outOfRange : Double → Nanos) (interval : Text)
    (catalogued : Catalogued listed tables last) (single : SingleKind listed)
    (listedNames : (payloads.filterMap nameOf).map (·, kind) ⊆ listed)
    (reported : List.Forall₂ (fun payload id => ∃ name, nameOf payload = some name ∧
      Held tables name id) payloads ids) :
    List.Forall₂ (fun payload id => ∃ name, nameOf payload = some name ∧
      (parsedKind name = some kind →
        Subscribed (registryOf outOfRange tables deribitVenueCode) interval name kind id))
      payloads ids := by
  refine (forall₂_mem reported).imp ?_
  rintro payload id ⟨member, name, named, held⟩
  have inNames : name ∈ payloads.filterMap nameOf := List.mem_filterMap.mpr ⟨payload, member, named⟩
  have first := single.firstKind (listedNames (List.mem_map_of_mem inNames))
  exact ⟨name, named, fun parsed => catalogued.subscribed outOfRange interval held first parsed⟩

/-- `btc_usd` is classified as an index. -/
theorem parsedKind_btcUsd : parsedKind btcUsdSymbol = some .index := by
  have shaped : IndexShaped btcUsdSymbol := ⟨3, by decide, by decide, by decide⟩
  obtain ⟨key, parsed, kind⟩ := parseSymbol_of_indexShaped shaped
  exact Option.map_eq_some_iff.mpr ⟨key, parsed, kind⟩

section Listed

variable {history : List Invocation} {responses : Responses} {ingested : Ingested} {store : Store}

theorem listing_snoc : listing (history ++ [⟨responses, .ok ingested⟩]) =
    listing history ++ responses.listing := by
  simp [listing, Invocation.listing]

/-- The database after a last successful run. -/
theorem reported_run
    (run : ingests.Run Store.empty (history ++ [⟨responses, .ok ingested⟩]) store) :
    Catalogued (listing history ++ responses.listing) store.tables store.lastInstrumentId ∧
      Reported responses ingested store.tables := by
  obtain ⟨before, past, step⟩ := run.last_step
  exact (catalogued_run past).succeeded step

/-- After a run every option and dated future it listed whose name parses to its
kind, and `btc_usd`, is in the registry under the id the upsert returned, and is
subscribed to. -/
theorem nothing_listed_is_missing (outOfRange : Double → Nanos) (interval : Text)
    (run : ingests.Run Store.empty (history ++ [⟨responses, .ok ingested⟩]) store)
    (single : SingleKind (listing (history ++ [⟨responses, .ok ingested⟩]))) :
    let registry := registryOf outOfRange store.tables deribitVenueCode
    List.Forall₂ (fun payload id => ∃ name, payload.instrumentName.get = some name ∧
        (parsedKind name = some .option → Subscribed registry interval name .option id))
      responses.options.payloads ingested.options ∧
    List.Forall₂ (fun payload id => ∃ name, payload.instrumentName.get = some name ∧
        (parsedKind name = some .future → Subscribed registry interval name .future id))
      responses.datedFutures ingested.futures ∧
    Subscribed registry interval btcUsdSymbol .index ingested.currency := by
  intro registry
  obtain ⟨catalogued, reported⟩ := reported_run run
  rw [listing_snoc] at single
  refine ⟨?_, ?_, ?_⟩
  · apply catalogued.subscribed_payloads outOfRange interval single _ reported.options
    intro entry member
    simp [Responses.listing, Responses.optionNames, List.mem_append, member]
  · apply catalogued.subscribed_payloads outOfRange interval single _ reported.futures
    intro entry member
    simp [Responses.listing, Responses.datedFutureNames, List.mem_append, member]
  · refine catalogued.subscribed outOfRange interval reported.currency (single.firstKind ?_)
      parsedKind_btcUsd
    simp [Responses.listing]

/-- The first run over the full chain. -/
theorem nothing_listed_is_missing_fullChain :
    let registry := registryOf (fun _ => 0) (referenceIngest fullChain Store.empty).2.tables
      deribitVenueCode
    Subscribed registry "100ms".toList "BTC-19AUG26-56000-C".toList .option 1 ∧
      Subscribed registry "100ms".toList "BTC-26JUN26".toList .future 2 ∧
      Subscribed registry "100ms".toList btcUsdSymbol .index 3 := by
  intro registry
  have run : ingests.Run Store.empty ([] ++ [⟨fullChain, .ok ⟨[1], [2], 3⟩⟩])
      (referenceIngest fullChain Store.empty).2 := .single fullChain_step
  have single : SingleKind (listing ([] ++ [⟨fullChain, .ok ⟨[1], [2], 3⟩⟩])) :=
    singleKind_of_nodup (by decide)
  obtain ⟨options, futures, currency⟩ :=
    nothing_listed_is_missing (fun _ => 0) "100ms".toList run single
  have dated : fullChain.datedFutures = [listedFuture] := rfl
  rw [dated] at futures
  refine ⟨?_, ?_, currency⟩
  · cases options with
    | cons option _ =>
        obtain ⟨name, named, subscribed⟩ := option
        cases named
        exact subscribed parsedKind_listedOption
  · cases futures with
    | cons future _ =>
        obtain ⟨name, named, subscribed⟩ := future
        cases named
        exact subscribed parsedKind_listedFuture

end Listed

/-! ## Stale subscriptions -/

/-- The channel of an option or a dated future. -/
def tickerChannel (symbol interval : Text) : Text :=
  tickerChannelPrefix ++ symbol ++ ['.'] ++ interval

/-- The option and future channels among the subscribed ones. -/
def tickerChannels (registry : InstrumentRegistry) (interval : Text) : List Text :=
  (registry.subscriptionChannels interval).filter tickerChannelPrefix.isPrefixOf

/-- The names of all payloads of a run, perpetual ones too. -/
def Responses.listedNames (responses : Responses) : List Text :=
  responses.optionNames ++
    responses.futures.payloads.filterMap fun payload => payload.instrumentName.get

/-- No subscribed option or future channel is that of an instrument a run did not
list. -/
def Fresh (registry : InstrumentRegistry) (interval : Text) (responses : Responses) : Prop :=
  ∀ channel ∈ tickerChannels registry interval,
    ∃ name ∈ responses.listedNames, channel = tickerChannel name interval

/-- The kinds with a ticker channel. -/
def Ticked (kind : InstrumentKind) : Prop :=
  kind = .option ∨ kind = .future

theorem tickerChannel_injective {first second interval : Text}
    (same : tickerChannel first interval = tickerChannel second interval) : first = second := by
  unfold tickerChannel at same
  exact List.append_cancel_left (List.append_cancel_right (List.append_cancel_right same))

theorem mem_tickerChannels {registry : InstrumentRegistry} {interval channel : Text} :
    channel ∈ tickerChannels registry interval ↔
      ∃ key ∈ registry.keys, Ticked key.kind ∧ tickerChannel key.symbol interval = channel := by
  unfold tickerChannels
  rw [List.mem_filter, mem_subscriptionChannels, List.isPrefixOf_iff_prefix]
  constructor
  · rintro ⟨⟨key, member, streamed, rfl⟩, ticker⟩
    refine ⟨key, member, ?_⟩
    unfold channelFor at ticker ⊢
    cases kind : key.kind with
    | option => exact ⟨.inl rfl, rfl⟩
    | future => exact ⟨.inr rfl, rfl⟩
    | index =>
        simp only [kind] at ticker
        obtain ⟨rest, same⟩ := ticker
        exact absurd same (prefixes_apart rest key.symbol)
    | perpetual => simp [kind, InstrumentKind.streamed] at streamed
    | unknown => simp [kind, InstrumentKind.streamed] at streamed
  · rintro ⟨key, member, ticked, rfl⟩
    have streamed : key.kind.streamed = true ∧
        channelFor key interval = tickerChannel key.symbol interval := by
      unfold channelFor
      rcases ticked with kind | kind <;> rw [kind] <;> exact ⟨rfl, rfl⟩
    refine ⟨⟨key, member, streamed⟩, ?_⟩
    unfold tickerChannel
    rw [List.append_assoc, List.append_assoc]
    exact List.prefix_append _ _

/-- The ticker channels of a catalogue are those of the names whose first kind is
ticked and the one their symbols parse to. -/
theorem Catalogued.mem_tickerChannels {listed : Listing} {tables : Tables} {last : Int}
    (catalogued : Catalogued listed tables last) (outOfRange : Double → Nanos)
    {interval channel : Text} :
    channel ∈ tickerChannels (registryOf outOfRange tables deribitVenueCode) interval ↔
      ∃ name kind, Ticked kind ∧ firstKind listed name = some kind ∧
        parsedKind name = some kind ∧ tickerChannel name interval = channel := by
  rw [Ingest.mem_tickerChannels]
  constructor
  · rintro ⟨key, member, ticked, made⟩
    obtain ⟨-, first, parsed⟩ :=
      (catalogued.mem_registryOf outOfRange).mp ⟨key, member, rfl, rfl, rfl⟩
    exact ⟨key.symbol, key.kind, ticked, first, parsed, made⟩
  · rintro ⟨name, kind, ticked, first, parsed, made⟩
    obtain ⟨id, held⟩ := catalogued.complete _ (mem_of_firstKind first)
    obtain ⟨key, member, -, rfl, rfl⟩ :=
      (catalogued.mem_registryOf outOfRange).mpr ⟨held, first, parsed⟩
    exact ⟨key, member, ticked, made⟩

/-- After a run the subscription is fresh exactly when the run lists every name of
the history whose first kind is an option or a future and the one it parses to. -/
theorem fresh_iff_still_listed (outOfRange : Double → Nanos) (interval : Text)
    {history : List Invocation} {responses : Responses} {ingested : Ingested} {store : Store}
    (run : ingests.Run Store.empty (history ++ [⟨responses, .ok ingested⟩]) store) :
    Fresh (registryOf outOfRange store.tables deribitVenueCode) interval responses ↔
      ∀ name kind, Ticked kind →
        firstKind (listing (history ++ [⟨responses, .ok ingested⟩])) name = some kind →
        parsedKind name = some kind → name ∈ responses.listedNames := by
  have catalogued : Catalogued _ _ _ := catalogued_run run
  constructor
  · intro fresh name kind ticked first parsed
    have subscribed : tickerChannel name interval ∈
        tickerChannels (registryOf outOfRange store.tables deribitVenueCode) interval :=
      (catalogued.mem_tickerChannels outOfRange).mpr ⟨name, kind, ticked, first, parsed, rfl⟩
    obtain ⟨other, stillListed, same⟩ := fresh (tickerChannel name interval) subscribed
    exact tickerChannel_injective same ▸ stillListed
  · intro stillListed channel subscribed
    obtain ⟨name, kind, ticked, first, parsed, rfl⟩ :=
      (catalogued.mem_tickerChannels outOfRange).mp subscribed
    exact ⟨name, stillListed name kind ticked first parsed, rfl⟩

/-- The first run over the full chain leaves nothing stale. -/
theorem fresh_iff_still_listed_fullChain :
    Fresh (registryOf (fun _ => 0) (referenceIngest fullChain Store.empty).2.tables
      deribitVenueCode) "100ms".toList fullChain := by
  have run : ingests.Run Store.empty ([] ++ [⟨fullChain, .ok ⟨[1], [2], 3⟩⟩])
      (referenceIngest fullChain Store.empty).2 := .single fullChain_step
  rw [fresh_iff_still_listed (fun _ => 0) "100ms".toList run]
  intro name kind ticked first _
  have entries : listing ([] ++ [⟨fullChain, .ok ⟨[1], [2], 3⟩⟩]) =
      [("BTC-19AUG26-56000-C".toList, .option), ("BTC-26JUN26".toList, .future),
        (btcUsdSymbol, .index)] := by decide
  have names : fullChain.listedNames = ["BTC-19AUG26-56000-C".toList, "BTC-26JUN26".toList,
      "BTC-PERPETUAL".toList] := by decide
  have member := mem_of_firstKind first
  rw [entries] at member
  rw [names]
  simp only [List.mem_cons, List.not_mem_nil, Prod.mk.injEq, or_false] at member ⊢
  rcases member with ⟨isOption, -⟩ | ⟨isFuture, -⟩ | ⟨-, isIndex⟩
  · exact .inl isOption
  · exact .inr (.inl isFuture)
  · rcases ticked with isTicked | isTicked <;> rw [isIndex] at isTicked <;> cases isTicked

/-- The option has expired, the future and the perpetual are still listed. -/
def rolledChain : Responses where
  options := .result []
  futures := .result [listedFuture, listedPerpetual]

/-- After the roll the expired option is still subscribed to. -/
theorem expired_option_is_subscribed :
    let first := (referenceIngest fullChain Store.empty).2
    let second := (referenceIngest rolledChain first).2
    let registry := registryOf (fun _ => 0) second.tables deribitVenueCode
    ingests.Run Store.empty
        [⟨fullChain, .ok ⟨[1], [2], 3⟩⟩, ⟨rolledChain, .ok ⟨[], [2], 3⟩⟩] second ∧
      tickerChannel "BTC-19AUG26-56000-C".toList "100ms".toList ∈
        registry.subscriptionChannels "100ms".toList ∧
      ¬ Fresh registry "100ms".toList rolledChain := by
  intro first second registry
  have run : ingests.Run Store.empty
      [⟨fullChain, .ok ⟨[1], [2], 3⟩⟩, ⟨rolledChain, .ok ⟨[], [2], 3⟩⟩] second :=
    .cons fullChain_step (.single (succeeded_step (by decide +kernel)))
  have catalogued : Catalogued _ _ _ := catalogued_run run
  have subscribed : tickerChannel "BTC-19AUG26-56000-C".toList "100ms".toList ∈
      tickerChannels registry "100ms".toList :=
    (catalogued.mem_tickerChannels fun _ => 0).mpr
      ⟨_, .option, .inl rfl, by decide, parsedKind_listedOption, rfl⟩
  refine ⟨run, (List.mem_filter.mp subscribed).1, fun fresh => ?_⟩
  obtain ⟨name, stillListed, same⟩ := fresh _ subscribed
  rw [← tickerChannel_injective same] at stillListed
  revert stillListed
  decide

end QuantGateway.Ingest
