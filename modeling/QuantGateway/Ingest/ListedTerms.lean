import QuantGateway.Ingest.RunUpdates
import QuantGateway.Ingest.ExactValues

/-!
Owns the way of an instrument's terms from the payload the exchange listed it with to
the entry of the registry: the strike, the right and the expiry are those of the last
payload with its name, to the last digit.

Does not own the tick size, which the gateway does not read.
-/

namespace QuantGateway.Ingest

open QuantGateway.Foundation
open QuantGateway.Foundation.Program
open QuantGateway.MarketData
open QuantGateway.MarketData.InstrumentRegistry
open QuantGateway.SecurityMaster

/-! ## The entry of the registry -/

variable {responses : Responses} {history : List Invocation} {ingested : Ingested} {store : Store}
  (outOfRange : Double → Nanos)

/-- An entry of the chain that can be mapped is registered under its symbol and resolved. -/
theorem Stores.exists_key {tables : Tables} {lastVenueId lastInstrumentId : Int} {chain : Chain}
    (stores : Stores tables lastVenueId lastInstrumentId chain) {entry : ChainEntry}
    (inChain : entry ∈ chain) {mappedKey : InstrumentKey}
    (mapped : toInstrumentKey (entry.row outOfRange) = some mappedKey) :
    let registry := registryOf outOfRange tables deribitVenueCode
    ∃ key ∈ registry.keys, key.withoutId = mappedKey ∧ key.symbol = entry.symbol ∧
      registry.bySymbol key.symbol = some key.id ∧ registry.find key.id = some key := by
  intro registry
  have inKeys : mappedKey ∈ registry.keys.map InstrumentKey.withoutId := by
    rw [show registry.keys.map InstrumentKey.withoutId = _ from stores.registryOf_keys outOfRange]
    exact List.mem_filterMap.mpr ⟨entry, inChain, mapped⟩
  obtain ⟨key, member, isKey⟩ := List.mem_map.mp inKeys
  have coherent : Coherent registry := registryOf_coherent outOfRange stores.valid
  obtain ⟨-, -, symbol, -⟩ := toInstrumentKey_some mapped
  exact ⟨key, member, isKey, (congrArg InstrumentKey.symbol isKey).trans symbol,
    coherent.resolved key member, coherent.found key member⟩

/-- The name of a right in the database. -/
def rightName : OptionRight → Text
  | .call => "call".toList
  | .put => "put".toList

theorem exists_right {type : Text} (inTypes : type ∈ optionTypes) :
    ∃ right, rightName right = type := by
  simp only [optionTypes, List.mem_cons, List.not_mem_nil, or_false] at inTypes
  rcases inTypes with rfl | rfl
  · exact ⟨.call, rfl⟩
  · exact ⟨.put, rfl⟩

/-- An option entry is mapped by its terms, whatever its symbol says of them. -/
theorem optionEntry_mapped {entry : ChainEntry} {parsed : InstrumentKey} {terms : OptionTerms}
    {right : OptionRight} {timestamp : Timestamp}
    (parse : parseSymbol entry.symbol = some parsed) (kind : parsed.kind = .option)
    (typed : entry.instrumentType = "option".toList) (hasTerms : entry.option = some terms)
    (named : terms.optionType = rightName right)
    (expires : terms.expirationTimestamp = some timestamp) :
    toInstrumentKey (entry.row outOfRange) =
      some { parsed with
        id := 0
        strike := terms.strike.toDouble
        right := right
        expiry := nanosOfSeconds outOfRange timestamp.epoch.toDouble } := by
  have rowRight : rightOf (entry.row outOfRange) { parsed with id := 0 } = some right := by
    unfold rightOf ChainEntry.row
    rw [hasTerms]
    simp only [Option.map_some, named]
    cases right <;> rfl
  rw [@toInstrumentKey_of_parsed (entry.row outOfRange) _ parse]
  rw [if_pos (show (entry.row outOfRange).instrumentType = _ from typed)]
  unfold optionKey
  rw [if_neg (by simp [kind])]
  simp only [show (entry.row outOfRange).instrumentId = 0 from rfl, rowRight]
  simp [ChainEntry.row, hasTerms, expires]

/-- A future entry is mapped with its expiration, when it has no option terms. -/
theorem futureEntry_mapped {entry : ChainEntry} {parsed : InstrumentKey} {terms : FutureTerms}
    {timestamp : Timestamp}
    (parse : parseSymbol entry.symbol = some parsed) (kind : parsed.kind = .future)
    (typed : entry.instrumentType = "future".toList) (noOption : entry.option = none)
    (hasTerms : entry.future = some terms)
    (expires : terms.expirationTimestamp = some timestamp) :
    toInstrumentKey (entry.row outOfRange) =
      some { parsed with
        id := 0
        expiry := nanosOfSeconds outOfRange timestamp.epoch.toDouble
        strike := noValue } := by
  rw [@toInstrumentKey_of_parsed (entry.row outOfRange) _ parse]
  have isFuture : (entry.row outOfRange).instrumentType = "future".toList := typed
  rw [if_neg (by rw [isFuture]; decide), if_pos isFuture]
  unfold futureKey
  rw [if_neg (by simp [kind])]
  simp [ChainEntry.row, noOption, hasTerms, expires]

/-! ## From payload to registry -/

theorem OptionContract.fromApi_terms {payload : OptionPayload} {contract : OptionContract}
    (parsed : fromApi payload = .ok contract) :
    decimal payload.strike.get = .ok contract.strike ∧
      msToDatetime payload.expirationTimestamp.get = .ok contract.expirationTimestamp ∧
      contract.optionType = payload.optionType.get := by
  unfold fromApi at parsed
  obtain ⟨venueSymbol, -, parsed⟩ := except_bind_ok parsed
  obtain ⟨venueInstrumentId, -, parsed⟩ := except_bind_ok parsed
  obtain ⟨baseCurrency, -, parsed⟩ := except_bind_ok parsed
  obtain ⟨quoteCurrency, -, parsed⟩ := except_bind_ok parsed
  obtain ⟨settlementCurrency, -, parsed⟩ := except_bind_ok parsed
  obtain ⟨rawTickSize, -, parsed⟩ := except_bind_ok parsed
  obtain ⟨tickSize, -, parsed⟩ := except_bind_ok parsed
  obtain ⟨expiration, expires, parsed⟩ := except_bind_ok parsed
  obtain ⟨creation, -, parsed⟩ := except_bind_ok parsed
  obtain ⟨isActive, -, parsed⟩ := except_bind_ok parsed
  obtain ⟨optionType, typeRead, parsed⟩ := except_bind_ok parsed
  obtain ⟨rawStrike, strikeRead, parsed⟩ := except_bind_ok parsed
  obtain ⟨strike, converted, parsed⟩ := except_bind_ok parsed
  cases parsed
  obtain rfl := Member.required_ok strikeRead
  exact ⟨converted, expires, Member.required_ok typeRead⟩

theorem FutureContract.fromApi_expiration {payload : FuturePayload} {contract : FutureContract}
    (parsed : fromApi payload = .ok contract) :
    msToDatetime payload.expirationTimestamp.get = .ok contract.expirationTimestamp := by
  unfold fromApi at parsed
  obtain ⟨venueSymbol, -, parsed⟩ := except_bind_ok parsed
  obtain ⟨venueInstrumentId, -, parsed⟩ := except_bind_ok parsed
  obtain ⟨baseCurrency, -, parsed⟩ := except_bind_ok parsed
  obtain ⟨quoteCurrency, -, parsed⟩ := except_bind_ok parsed
  obtain ⟨settlementCurrency, -, parsed⟩ := except_bind_ok parsed
  obtain ⟨rawTickSize, -, parsed⟩ := except_bind_ok parsed
  obtain ⟨tickSize, -, parsed⟩ := except_bind_ok parsed
  obtain ⟨settlementPeriod, -, parsed⟩ := except_bind_ok parsed
  obtain ⟨expiration, expires, parsed⟩ := except_bind_ok parsed
  obtain ⟨creation, -, parsed⟩ := except_bind_ok parsed
  obtain ⟨isActive, -, parsed⟩ := except_bind_ok parsed
  cases parsed
  exact expires

/-- The parsed symbol of a name of a kind. -/
theorem parsed_of_named {name : Option Text} {symbol : Text} {kind : InstrumentKind}
    (named : name = some symbol) (parses : name.bind parsedKind = some kind) :
    ∃ parsed, parseSymbol symbol = some parsed ∧ parsed.kind = kind := by
  rw [named] at parses
  exact Option.map_eq_some_iff.mp parses

/-- The terms an option payload is stored with are the ones it says. -/
theorem option_terms {payload : OptionPayload} {update : Update} {number : JsonNumber} {strike : ℚ}
    {units seconds : ℤ}
    (updated : ∃ contract, OptionContract.fromApi payload = .ok contract ∧
      contract.update = .ok update)
    (hasStrike : payload.strike.get = some number) (isStrike : number.decimal = .finite strike)
    (places : strike * 10 ^ 8 = units)
    (expires : payload.expirationTimestamp.get = some (.integer (seconds * 1000)))
    (exact : ExactSeconds seconds) :
    ∃ terms right, update.terms = .option terms ∧ terms.strike = number.decimal ∧
      terms.optionType = rightName right ∧ payload.optionType.get = some (rightName right) ∧
      terms.expirationTimestamp = some (.instant (seconds * 10 ^ 6)) := by
  obtain ⟨contract, parsed, ran⟩ := updated
  obtain ⟨-, size, terms, written, isTerms⟩ := OptionContract.update_ok ran
  obtain ⟨strikeColumn, typeColumn, inTypes, expiration⟩ := OptionContract.terms_ok written
  obtain ⟨strikeRead, expiresRead, typeRead⟩ := OptionContract.fromApi_terms parsed
  have strikeKept : terms.strike = number.decimal := by
    rw [hasStrike] at strikeRead
    rw [← Except.ok.inj strikeRead, isStrike] at strikeColumn
    rw [isStrike, numericColumn_exact places strikeColumn]
  rw [expires, msToDatetime_exact exact] at expiresRead
  rw [← Except.ok.inj expiresRead] at expiration
  obtain ⟨right, isRight⟩ := exists_right inTypes
  exact ⟨terms, right, isTerms, strikeKept, isRight.symm,
    by rw [← typeRead, typeColumn, isRight], expiration⟩

theorem future_terms {payload : FuturePayload} {update : Update} {seconds : ℤ}
    (updated : ∃ contract, FutureContract.fromApi payload = .ok contract ∧
      contract.update = .ok update)
    (expires : payload.expirationTimestamp.get = some (.integer (seconds * 1000)))
    (exact : ExactSeconds seconds) :
    ∃ terms, update.terms = .future terms ∧
      terms.expirationTimestamp = some (.instant (seconds * 10 ^ 6)) := by
  obtain ⟨contract, parsed, ran⟩ := updated
  obtain ⟨-, size, terms, written, isTerms⟩ := FutureContract.update_ok ran
  have expiresRead := FutureContract.fromApi_expiration parsed
  rw [expires, msToDatetime_exact exact] at expiresRead
  refine ⟨terms, isTerms, ?_⟩
  rw [FutureContract.terms_expiration written, ← Except.ok.inj expiresRead]

/-- An option the last run listed is in the registry with the terms of its last
payload: the right it names, the strike as the double nearest to the decimal, and the
expiry to the nanosecond. -/
theorem listed_option_reaches_registry
    (run : ingests.Run Store.empty (history ++ [⟨responses, .ok ingested⟩]) store)
    (single : SingleKind (listing (history ++ [⟨responses, .ok ingested⟩])))
    {before rest : List OptionPayload} {payload : OptionPayload}
    (lists : responses.options.payloads = before ++ payload :: rest)
    (isLast : ∀ other ∈ rest, other.instrumentName.get ≠ payload.instrumentName.get)
    (parses : payload.instrumentName.get.bind parsedKind = some .option)
    {number : JsonNumber} {strike : ℚ} {units seconds : ℤ}
    (hasStrike : payload.strike.get = some number) (isStrike : number.decimal = .finite strike)
    (places : strike * 10 ^ 8 = units)
    (expires : payload.expirationTimestamp.get = some (.integer (seconds * 1000)))
    (exact : ExactSeconds seconds) :
    let registry := registryOf outOfRange store.tables deribitVenueCode
    ∃ key ∈ registry.keys, payload.instrumentName.get = some key.symbol ∧
      registry.bySymbol key.symbol = some key.id ∧ registry.find key.id = some key ∧
      key.kind = .option ∧ payload.optionType.get = some (rightName key.right) ∧
      key.strike = number.decimal.toDouble ∧ key.expiry.toInt = seconds * 10 ^ 9 := by
  intro registry
  obtain ⟨first, update, later, updates, updated, last⟩ :=
    last_option_update run single lists isLast
  obtain ⟨placed, symbol, inChain, typed⟩ := entry_of_last_update run single updates last
  have named := (option_updated updated).1
  obtain ⟨terms, right, isTerms, strikeKept, isRight, rightRead, expiration⟩ :=
    option_terms updated hasStrike isStrike places expires exact
  obtain ⟨parsed, parse, kind⟩ := parsed_of_named named parses
  rw [isTerms] at inChain typed
  have isType : (placed.attach (.option terms)).instrumentType = "option".toList :=
    (Option.some.inj typed).symm
  have mapped := optionEntry_mapped outOfRange
    (show parseSymbol (placed.attach (.option terms)).symbol = some parsed from symbol ▸ parse)
    kind isType rfl isRight expiration
  have stores := (explained_run run).stores
  rw [stores.chain] at inChain
  obtain ⟨key, member, isKey, keySymbol, resolved, found⟩ :=
    stores.exists_key outOfRange inChain mapped
  refine ⟨key, member, (keySymbol.trans symbol) ▸ named, resolved, found,
    (congrArg InstrumentKey.kind isKey).trans kind, ?_, ?_, ?_⟩
  · rw [rightRead]
    exact congrArg (fun key => some (rightName key.right)) isKey.symm
  · rw [← strikeKept]
    exact congrArg InstrumentKey.strike isKey
  · have keyExpiry := congrArg InstrumentKey.expiry isKey
    change key.expiry = _ at keyExpiry
    rw [keyExpiry]
    exact nanosOfSeconds_toInt outOfRange exact

/-- The run of the full chain, which lists no name twice. -/
theorem fullChain_run : ingests.Run Store.empty ([] ++ [⟨fullChain, .ok ⟨[1], [2], 3⟩⟩])
    (referenceIngest fullChain Store.empty).2 :=
  .single fullChain_step

theorem fullChain_single : SingleKind (listing ([] ++ [⟨fullChain, .ok ⟨[1], [2], 3⟩⟩])) :=
  singleKind_of_nodup (by decide)

/-- The option of the full chain. -/
theorem listed_option_reaches_registry_fullChain :
    let registry := registryOf (fun _ => 0) (referenceIngest fullChain Store.empty).2.tables
      deribitVenueCode
    ∃ key ∈ registry.keys, key.symbol = "BTC-19AUG26-56000-C".toList ∧ key.right = .call ∧
      key.strike = .finite 56000 ∧ key.expiry.toInt = 1787126400 * 10 ^ 9 := by
  intro registry
  have lists : fullChain.options.payloads = [] ++ listedOption :: [] := rfl
  have places : (56000 : ℚ) * 10 ^ 8 = (5600000000000 : ℤ) := by norm_num
  have exact : ExactSeconds 1787126400 := by
    unfold ExactSeconds
    decide
  obtain ⟨key, member, named, -, -, -, right, strike, expiry⟩ :=
    listed_option_reaches_registry (fun _ => 0) fullChain_run fullChain_single lists (by simp)
      parsedKind_listedOption rfl rfl places rfl exact
  refine ⟨key, member, (Option.some.inj named).symm, ?_, ?_, expiry⟩
  · cases isRight : key.right with
    | call => rfl
    | put =>
        rw [isRight] at right
        revert right
        decide
  · rw [strike]
    decide +kernel

/-- A dated future the last run listed is in the registry with the expiry of its last
payload, and without a strike. -/
theorem listed_future_reaches_registry
    (run : ingests.Run Store.empty (history ++ [⟨responses, .ok ingested⟩]) store)
    (single : SingleKind (listing (history ++ [⟨responses, .ok ingested⟩])))
    {before rest : List FuturePayload} {payload : FuturePayload}
    (lists : responses.datedFutures = before ++ payload :: rest)
    (isLast : ∀ other ∈ rest, other.instrumentName.get ≠ payload.instrumentName.get)
    (parses : payload.instrumentName.get.bind parsedKind = some .future) {seconds : ℤ}
    (expires : payload.expirationTimestamp.get = some (.integer (seconds * 1000)))
    (exact : ExactSeconds seconds) :
    let registry := registryOf outOfRange store.tables deribitVenueCode
    ∃ key ∈ registry.keys, payload.instrumentName.get = some key.symbol ∧
      registry.bySymbol key.symbol = some key.id ∧ registry.find key.id = some key ∧
      key.kind = .future ∧ key.strike = noValue ∧ key.expiry.toInt = seconds * 10 ^ 9 := by
  intro registry
  obtain ⟨first, update, later, updates, updated, last⟩ :=
    last_future_update run single lists isLast
  obtain ⟨placed, symbol, inChain, typed⟩ := entry_of_last_update run single updates last
  obtain ⟨named, isFuture⟩ := future_updated updated
  have explained := explained_run run
  have listed : (update.symbol, .future) ∈ listing (history ++ [⟨responses, .ok ingested⟩]) :=
    isFuture ▸ listed_update updates (List.mem_append_right _ List.mem_cons_self)
  obtain ⟨terms, isTerms, expiration⟩ := future_terms updated expires exact
  rw [isTerms] at inChain typed
  rw [explained.stores.chain] at inChain
  -- An option row of the symbol would have been listed as an option.
  have noOption : (placed.attach (.future terms)).option = none := by
    cases hasOption : (placed.attach (.future terms)).option with
    | none => rfl
    | some optionTerms =>
        have asOption := (listed_after explained.endings _ inChain).option optionTerms hasOption
        have isSymbol : (placed.attach (.future terms)).symbol = update.symbol := symbol
        rw [isSymbol] at asOption
        cases single _ _ _ asOption listed
  obtain ⟨parsed, parse, kind⟩ := parsed_of_named named parses
  have isType : (placed.attach (.future terms)).instrumentType = "future".toList :=
    (Option.some.inj typed).symm
  have mapped := futureEntry_mapped outOfRange
    (show parseSymbol (placed.attach (.future terms)).symbol = some parsed from symbol ▸ parse)
    kind isType noOption rfl expiration
  obtain ⟨key, member, isKey, keySymbol, resolved, found⟩ :=
    explained.stores.exists_key outOfRange inChain mapped
  refine ⟨key, member, (keySymbol.trans symbol) ▸ named, resolved, found,
    (congrArg InstrumentKey.kind isKey).trans kind, congrArg InstrumentKey.strike isKey, ?_⟩
  have keyExpiry := congrArg InstrumentKey.expiry isKey
  change key.expiry = _ at keyExpiry
  rw [keyExpiry]
  exact nanosOfSeconds_toInt outOfRange exact

/-- The dated future of the full chain. -/
theorem listed_future_reaches_registry_fullChain :
    let registry := registryOf (fun _ => 0) (referenceIngest fullChain Store.empty).2.tables
      deribitVenueCode
    ∃ key ∈ registry.keys, key.symbol = "BTC-26JUN26".toList ∧ key.strike = noValue ∧
      key.expiry.toInt = 1782633600 * 10 ^ 9 := by
  intro registry
  have lists : fullChain.datedFutures = [] ++ listedFuture :: [] := rfl
  have exact : ExactSeconds 1782633600 := by
    unfold ExactSeconds
    decide
  obtain ⟨key, member, named, -, -, -, strike, expiry⟩ :=
    listed_future_reaches_registry (fun _ => 0) fullChain_run fullChain_single lists (by simp)
      parsedKind_listedFuture rfl exact
  exact ⟨key, member, (Option.some.inj named).symm, strike, expiry⟩

end QuantGateway.Ingest
