import QuantGateway.SecurityMaster.Query

/-!
Owns what the registry built from a valid database holds: for each queried
instrument its row, for each row that can be mapped its key, and nothing else.

Does not own how the tables are filled.
-/

namespace QuantGateway.SecurityMaster

open QuantGateway.Foundation
open QuantGateway.MarketData
open QuantGateway.MarketData.InstrumentRegistry

variable {tables : Tables} {code : Text} (outOfRange : Double → Nanos)

/-! ## The rows of a valid database -/

/-- A row says of an instrument what the tables say: who it is from `instrument`, right
and strike from its `option` row, and the expiration from its `option` row or, where
that has none, from its `future` row. -/
structure Describes (outOfRange : Double → Nanos) (tables : Tables) (instrument : Instrument)
    (row : InstrumentRow) : Prop where
  instrumentId : row.instrumentId = instrument.instrumentId
  symbol : row.symbol = instrument.symbol
  instrumentType : row.instrumentType = instrument.instrumentType
  terms : ∀ option ∈ tables.option, option.instrumentId = instrument.instrumentId →
    row.optionType = some option.optionType ∧ row.strike = some option.strike.toDouble
  noTerms : (∀ option ∈ tables.option, option.instrumentId ≠ instrument.instrumentId) →
    row.optionType = none ∧ row.strike = none
  optionExpiration : ∀ option ∈ tables.option, option.instrumentId = instrument.instrumentId →
    ∀ expiration, option.expirationTimestamp = some expiration →
      row.expiration = some (nanosOfSeconds outOfRange expiration.epoch.toDouble)
  futureExpiration : (∀ option ∈ tables.option, option.instrumentId = instrument.instrumentId →
      option.expirationTimestamp = none) →
    ∀ future ∈ tables.future, future.instrumentId = instrument.instrumentId →
      row.expiration = future.expirationTimestamp.map fun expiration =>
        nanosOfSeconds outOfRange expiration.epoch.toDouble
  noExpiration : (∀ option ∈ tables.option, option.instrumentId = instrument.instrumentId →
      option.expirationTimestamp = none) →
    (∀ future ∈ tables.future, future.instrumentId ≠ instrument.instrumentId) →
      row.expiration = none

/-- The expiration of a record is that of the option row, else that of the future row. -/
theorem expiration_loadRow {instrument : Instrument} {option : Option OptionRow}
    {future : Option FutureRow} :
    (loadRow outOfRange (queryRecord instrument option future)).expiration =
      (coalescedExpiration option future).map fun expiration =>
        nanosOfSeconds outOfRange expiration.epoch.toDouble := by
  simp [loadRow, queryRecord, Function.comp_def]

/-- The record of an instrument is made of its rows in the tables. -/
theorem describes_recordOf (valid : tables.Valid) (instrument : Instrument) :
    Describes outOfRange tables instrument
      (loadRow outOfRange (tables.recordOf instrument)) := by
  have ofFuture : ∀ future ∈ tables.future, future.instrumentId = instrument.instrumentId →
      (tables.future.find? fun other => other.instrumentId = instrument.instrumentId) =
        some future := fun future member same => same ▸ find?_key_of_mem valid.futureKey member
  have noFuture : (∀ future ∈ tables.future, future.instrumentId ≠ instrument.instrumentId) →
      (tables.future.find? fun other => other.instrumentId = instrument.instrumentId) = none :=
    fun absent => List.find?_eq_none.mpr fun future member => by simpa using absent future member
  unfold Tables.recordOf
  rcases find?_key_cases valid.optionKey instrument.instrumentId with
    ⟨option, found, only⟩ | ⟨found, absent⟩
  · obtain ⟨inRows, here⟩ := mem_of_find?_key found
    rw [found]
    constructor
    case instrumentId | symbol | instrumentType => rfl
    case terms =>
      intro other member same
      obtain rfl := only other member same
      exact ⟨rfl, rfl⟩
    case noTerms => exact fun absent => absurd here (absent option inRows)
    case optionExpiration =>
      intro other member same expiration stamped
      obtain rfl := only other member same
      rw [expiration_loadRow, coalescedExpiration, Option.bind_some, stamped]
      rfl
    case futureExpiration =>
      intro unstamped future member same
      rw [expiration_loadRow, coalescedExpiration, Option.bind_some,
        unstamped option inRows here, ofFuture future member same]
      rfl
    case noExpiration =>
      intro unstamped absent
      rw [expiration_loadRow, coalescedExpiration, Option.bind_some,
        unstamped option inRows here, noFuture absent]
      rfl
  · rw [found]
    constructor
    case instrumentId | symbol | instrumentType => rfl
    case terms => exact fun other member same => absurd same (absent other member)
    case noTerms => exact fun _ => ⟨rfl, rfl⟩
    case optionExpiration => exact fun other member same => absurd same (absent other member)
    case futureExpiration =>
      intro _ future member same
      rw [expiration_loadRow, ofFuture future member same]
      rfl
    case noExpiration =>
      intro _ absent
      rw [expiration_loadRow, noFuture absent]
      rfl

theorem load_perm (valid : tables.Valid) :
    (load outOfRange tables code).Perm
      ((tables.instrument.filter (tables.queried code)).map fun row =>
        loadRow outOfRange (tables.recordOf row)) := by
  unfold load
  rw [instrumentQuery_eq valid, List.map_map]
  exact (orderBy_perm _ _).map _

theorem mem_load (valid : tables.Valid) {row : InstrumentRow} :
    row ∈ load outOfRange tables code ↔
      ∃ instrument ∈ tables.instrument, tables.queried code instrument = true ∧
        loadRow outOfRange (tables.recordOf instrument) = row := by
  rw [(load_perm outOfRange valid).mem_iff, List.mem_map]
  simp only [List.mem_filter, and_assoc]

theorem load_increasing (valid : tables.Valid) :
    ((load outOfRange tables code).map InstrumentRow.instrumentId).Pairwise (· < ·) := by
  unfold load
  rw [instrumentQuery_eq valid, List.map_map, List.map_map]
  apply orderBy_increasing
  exact valid.instrumentKey.sublist (List.filter_sublist.map _)

/-- A queried instrument's venue has the code. -/
theorem queried_iff {instrument : Instrument} :
    tables.queried code instrument = true ↔
      (∃ venue ∈ tables.venue, venue.venueId = instrument.venueId ∧ venue.code = code) ∧
        instrument.instrumentType ∈ queriedTypes := by
  simp [Tables.queried, List.any_eq_true]

/-- Each instrument of the venue that is an option, a future or a currency is one row. -/
theorem load_describes (valid : tables.Valid) :
    ∃ instruments : List Instrument, instruments.Nodup ∧
      (∀ instrument, instrument ∈ instruments ↔ instrument ∈ tables.instrument ∧
        (∃ venue ∈ tables.venue, venue.venueId = instrument.venueId ∧ venue.code = code) ∧
        instrument.instrumentType ∈ ["option".toList, "future".toList, "currency".toList]) ∧
      List.Forall₂ (Describes outOfRange tables) instruments (load outOfRange tables code) := by
  have ordered := orderBy_perm Instrument.instrumentId
    (tables.instrument.filter (tables.queried code))
  refine ⟨_, ordered.nodup_iff.mpr (valid.instrumentKey.of_map.filter _), fun instrument => ?_, ?_⟩
  · rw [ordered.mem_iff, List.mem_filter, queried_iff]
    rfl
  · unfold load
    rw [instrumentQuery_eq valid, List.map_map, List.forall₂_map_right_iff, List.forall₂_same]
    exact fun instrument _ => describes_recordOf outOfRange valid instrument

/-- One code is one venue, and within a venue a symbol is one instrument. -/
theorem queried_symbols_nodup (valid : tables.Valid) :
    ((tables.instrument.filter (tables.queried code)).map Instrument.symbol).Nodup := by
  rw [List.nodup_map_iff_inj_on (valid.instrumentKey.of_map.filter _)]
  intro first firstMember second secondMember same
  obtain ⟨firstIn, firstQueried⟩ := List.mem_filter.mp firstMember
  obtain ⟨secondIn, secondQueried⟩ := List.mem_filter.mp secondMember
  obtain ⟨⟨venue, venueIn, venueId, venueCode⟩, -⟩ := queried_iff.mp firstQueried
  obtain ⟨⟨other, otherIn, otherId, otherCode⟩, -⟩ := queried_iff.mp secondQueried
  have sameVenue := eq_of_key_eq valid.venueCode venueIn otherIn (venueCode.trans otherCode.symm)
  have sameName : (first.venueId, first.symbol) = (second.venueId, second.symbol) := by
    rw [← venueId, ← otherId, sameVenue, same]
  exact eq_of_key_eq valid.instrumentName firstIn secondIn sameName

theorem load_symbols_nodup (valid : tables.Valid) :
    ((load outOfRange tables code).map InstrumentRow.symbol).Nodup := by
  have rows : (load outOfRange tables code).Perm _ := load_perm outOfRange valid
  rw [(rows.map InstrumentRow.symbol).nodup_iff, List.map_map]
  exact queried_symbols_nodup valid

theorem load_identified (valid : tables.Valid) {row : InstrumentRow}
    (member : row ∈ load outOfRange tables code) : row.instrumentId ≠ 0 := by
  obtain ⟨instrument, instrumentIn, -, rfl⟩ := (mem_load outOfRange valid).mp member
  have positive := valid.instrumentPositive instrument instrumentIn
  exact ne_of_gt positive

/-! ## The registry of a valid database -/

/-- The values a partial map keeps, read back from what it maps. -/
private theorem filterMap_map_sublist {A B C : Type} {partly : A → Option B} {read : B → C}
    {source : A → C} (agree : ∀ row key, partly row = some key → read key = source row)
    (rows : List A) : ((rows.filterMap partly).map read).Sublist (rows.map source) := by
  induction rows with
  | nil => exact .slnil
  | cons row rest inductionHypothesis =>
      rw [List.filterMap_cons, List.map_cons]
      cases mapped : partly row with
      | none => exact inductionHypothesis.cons _
      | some key =>
          rw [List.map_cons, agree row key mapped]
          exact inductionHypothesis.cons_cons _

/-- The registry of the rows of a venue. -/
def registryOf (tables : Tables) (code : Text) : InstrumentRegistry :=
  (buildRegistry (load outOfRange tables code)).1

theorem registryOf_keys (valid : tables.Valid) :
    (registryOf outOfRange tables code).keys =
      (load outOfRange tables code).filterMap toInstrumentKey := by
  unfold registryOf
  rw [keys_buildRegistry]
  apply registered_eq_self
  · intro key member
    obtain ⟨row, inRows, mapped⟩ := List.mem_filterMap.mp member
    obtain ⟨-, -, -, id, -⟩ := toInstrumentKey_some mapped
    rw [id]
    exact load_identified outOfRange valid inRows
  · refine (load_symbols_nodup outOfRange valid).sublist (filterMap_map_sublist ?_ _)
    intro row key mapped
    obtain ⟨-, -, symbol, -⟩ := toInstrumentKey_some mapped
    exact symbol

theorem registryOf_increasing (valid : tables.Valid) :
    ((registryOf outOfRange tables code).keys.map InstrumentKey.id).Pairwise (· < ·) := by
  rw [registryOf_keys outOfRange valid]
  refine (load_increasing outOfRange valid).sublist (filterMap_map_sublist ?_ _)
  intro row key mapped
  obtain ⟨-, -, -, id, -⟩ := toInstrumentKey_some mapped
  exact id

theorem registryOf_coherent (valid : tables.Valid) :
    Coherent (registryOf outOfRange tables code) := by
  have increasing : ((registryOf outOfRange tables code).keys.map InstrumentKey.id).Pairwise
      (· < ·) := registryOf_increasing outOfRange valid
  have ids : ((registryOf outOfRange tables code).keys.map InstrumentKey.id).Nodup :=
    increasing.imp ne_of_lt
  unfold registryOf at ids ⊢
  rw [buildRegistry_eq] at ids ⊢
  rw [keys_addAll] at ids
  exact coherent_of_distinctIds ((registered_ids_nodup_iff _).mp ids)

/-- An entry of the registry is a queried instrument whose type is the one its
symbol names; nothing else about the row matters. -/
theorem mem_registryOf (valid : tables.Valid) {id : InstrumentId} {symbol : Text}
    {kind : InstrumentKind} :
    (∃ key ∈ (registryOf outOfRange tables code).keys,
        key.id = id ∧ key.symbol = symbol ∧ key.kind = kind) ↔
      ∃ instrument ∈ tables.instrument, tables.queried code instrument = true ∧
        instrument.instrumentId = id ∧ instrument.symbol = symbol ∧
        kind.instrumentType = some instrument.instrumentType ∧
        ∃ parsed, parseSymbol symbol = some parsed ∧ parsed.kind = kind := by
  rw [registryOf_keys outOfRange valid]
  constructor
  · rintro ⟨key, member, rfl, rfl, rfl⟩
    obtain ⟨row, inRows, mapped⟩ := List.mem_filterMap.mp member
    obtain ⟨instrument, instrumentIn, queried, rfl⟩ := (mem_load outOfRange valid).mp inRows
    obtain ⟨parsed, parse, keySymbol, keyId, keyKind, typed⟩ := toInstrumentKey_some mapped
    refine ⟨instrument, instrumentIn, queried, keyId.symm, keySymbol.symm, keyKind ▸ typed,
      parsed, ?_, keyKind.symm⟩
    rw [keySymbol]
    exact parse
  · rintro ⟨instrument, instrumentIn, queried, rfl, rfl, typed, parsed, parse, rfl⟩
    have inRows := (mem_load outOfRange valid).mpr ⟨instrument, instrumentIn, queried, rfl⟩
    have rights : ∀ name, (loadRow outOfRange (tables.recordOf instrument)).optionType = some name →
        name = "call".toList ∨ name = "put".toList := by
      intro name named
      obtain ⟨option, found, rfl⟩ := Option.map_eq_some_iff.mp named
      have checked := valid.optionType option (List.mem_of_find?_eq_some found)
      simpa [optionTypes] using checked
    have accepted : ∃ key, toInstrumentKey (loadRow outOfRange (tables.recordOf instrument)) =
        some key := toInstrumentKey_isSome parse typed fun _ => rights
    obtain ⟨key, mapped⟩ := accepted
    obtain ⟨other, otherParse, keySymbol, keyId, keyKind, -⟩ := toInstrumentKey_some mapped
    have sameParse : parsed = other := Option.some.inj (parse.symm.trans otherParse)
    exact ⟨key, List.mem_filterMap.mpr ⟨_, inRows, mapped⟩, keyId, keySymbol, sameParse ▸ keyKind⟩

/-- The registry is the database: each instrument of the venue that is queried is one
row, which says of it what the tables say, the keys are those of the rows that can be
mapped, in the order of their ids, the name and the id of each of these rows lead to its
key and no others lead anywhere, and the skipped rows account for the rest. -/
theorem registry_is_faithful (database : Database) (code : Text) :
    let rows := load outOfRange database.tables code
    let registry := (buildRegistry rows).1
    let skipped := (buildRegistry rows).2
    ((∃ instruments : List Instrument, instruments.Nodup ∧
        (∀ instrument, instrument ∈ instruments ↔ instrument ∈ database.tables.instrument ∧
          (∃ venue ∈ database.tables.venue,
            venue.venueId = instrument.venueId ∧ venue.code = code) ∧
          instrument.instrumentType ∈ ["option".toList, "future".toList, "currency".toList]) ∧
        List.Forall₂ (Describes outOfRange database.tables) instruments rows) ∧
      (rows.map InstrumentRow.instrumentId).Pairwise (· < ·)) ∧
    (registry.keys = rows.filterMap toInstrumentKey ∧
      (registry.keys.map InstrumentKey.id).Pairwise (· < ·)) ∧
    (∀ row ∈ rows, ∀ key, toInstrumentKey row = some key →
      registry.bySymbol row.symbol = some row.instrumentId ∧
        registry.find row.instrumentId = some key) ∧
    (∀ id, (∀ row ∈ rows, row.instrumentId = id → toInstrumentKey row = none) →
      registry.find id = none) ∧
    (∀ symbol, (∀ row ∈ rows, row.symbol = symbol → toInstrumentKey row = none) →
      registry.bySymbol symbol = none) ∧
    registry.keys.length + skipped = rows.length := by
  intro rows registry skipped
  have valid := database.valid
  have coherent : Coherent registry := registryOf_coherent outOfRange valid
  have keys : registry.keys = rows.filterMap toInstrumentKey := registryOf_keys outOfRange valid
  have entry : ∀ row ∈ rows, ∀ key, toInstrumentKey row = some key → key ∈ registry.keys :=
    fun row inRows key mapped => keys ▸ List.mem_filterMap.mpr ⟨row, inRows, mapped⟩
  refine ⟨⟨load_describes outOfRange valid, load_increasing outOfRange valid⟩,
    ⟨keys, registryOf_increasing outOfRange valid⟩, fun row inRows key mapped => ?_,
    fun id unmapped => ?_, fun symbol unmapped => ?_, ?_⟩
  · have member := entry row inRows key mapped
    obtain ⟨-, -, symbol, id, -⟩ := toInstrumentKey_some mapped
    rw [← symbol, ← id]
    exact ⟨coherent.resolved key member, coherent.found key member⟩
  · cases found : registry.find id with
    | none => rfl
    | some key =>
        obtain ⟨member, rfl⟩ := coherent.ofId id key found
        obtain ⟨-, row, inRows, mapped⟩ := mem_buildRegistry member
        obtain ⟨-, -, -, sameId, -⟩ := toInstrumentKey_some mapped
        rw [unmapped row inRows sameId.symm] at mapped
        cases mapped
  · cases resolved : registry.bySymbol symbol with
    | none => rfl
    | some id =>
        obtain ⟨key, member, rfl, -⟩ := coherent.ofSymbol symbol id resolved
        obtain ⟨-, row, inRows, mapped⟩ := mem_buildRegistry member
        obtain ⟨-, -, sameSymbol, -⟩ := toInstrumentKey_some mapped
        rw [unmapped row inRows sameSymbol.symm] at mapped
        cases mapped
  · rw [keys]
    apply skipped_buildRegistry
    intro row inRows key mapped
    obtain ⟨-, -, -, id, -⟩ := toInstrumentKey_some mapped
    rw [id]
    exact load_identified outOfRange valid inRows

/-- A put at 90000 that is named a call at 100000, the index, and a future that is
listed as an option. -/
def listed : Database where
  tables :=
    { venue := [⟨1, "DERIBIT".toList⟩]
      instrument :=
        [⟨3, 1, .finite 5, "option".toList, "BTC-27JUN25-100000-C".toList⟩,
          ⟨1, 1, .finite 1, "currency".toList, "btc_usd".toList⟩,
          ⟨2, 1, .finite 5, "option".toList, "BTC-27JUN25".toList⟩]
      option :=
        [⟨3, "put".toList, .finite 90000, some (.instant 1751011200000000), some 1, none⟩]
      future := []
      currencies := [⟨1⟩] }
  valid := by constructor <;> decide

def listedRows : List InstrumentRow :=
  load (fun _ => 0) listed.tables "DERIBIT".toList

def listedPut : InstrumentKey where
  symbol := "BTC-27JUN25-100000-C".toList
  baseCcy := "BTC".toList
  id := 3
  kind := .option
  expiry := 1751011200000000000
  strike := .finite 90000
  right := .put

theorem registry_is_faithful_listed :
    (buildRegistry listedRows).1.bySymbol "BTC-27JUN25-100000-C".toList = some 3 ∧
    (buildRegistry listedRows).1.find 3 = some listedPut ∧
    (buildRegistry listedRows).1.find 2 = none ∧
    (buildRegistry listedRows).1.keys.length + (buildRegistry listedRows).2 = 3 := by
  obtain ⟨-, -, lookups, ids, -, counted⟩ :=
    registry_is_faithful (fun _ => 0) listed "DERIBIT".toList
  have mapped : ∃ row ∈ listedRows, row.symbol = listedPut.symbol ∧ row.instrumentId = 3 ∧
      toInstrumentKey row = some listedPut := by decide +kernel
  have unmapped : ∀ row ∈ listedRows, row.instrumentId = 2 → toInstrumentKey row = none := by
    decide +kernel
  obtain ⟨row, inRows, symbol, id, mapped⟩ := mapped
  obtain ⟨bySymbol, find⟩ := lookups row inRows listedPut mapped
  rw [symbol, id] at bySymbol
  rw [id] at find
  have rows : listedRows.length = 3 := by decide +kernel
  exact ⟨bySymbol, find, ids 2 unmapped, counted.trans rows⟩

end QuantGateway.SecurityMaster
