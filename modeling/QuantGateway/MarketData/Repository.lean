import QuantGateway.MarketData.Symbol
import QuantGateway.MarketData.Channels

/-!
Owns the way from a row of the startup query to a registry entry:
`to_instrument_key` and `build_registry`.

Does not own the query (`SecurityMaster.Query`).
-/

namespace QuantGateway.MarketData

open QuantGateway.Foundation

/-- One row of the startup query. -/
structure InstrumentRow where
  instrumentId : InstrumentId
  symbol : Text
  instrumentType : Text
  optionType : Option Text
  strike : Option Double
  expiration : Option Nanos
deriving DecidableEq, Repr

/-- The right of an option row: the column where it is present. -/
def rightOf (row : InstrumentRow) (key : InstrumentKey) : Option OptionRight :=
  match row.optionType with
  | none => some key.right
  | some name =>
      if name = "call".toList then some .call
      else if name = "put".toList then some .put
      else none

def optionKey (row : InstrumentRow) (key : InstrumentKey) : Option InstrumentKey :=
  if key.kind ≠ .option then none
  else
    (rightOf row key).map fun right =>
      { key with
        strike := row.strike.getD key.strike
        right := right
        expiry := row.expiration.getD key.expiry }

def futureKey (row : InstrumentRow) (key : InstrumentKey) : Option InstrumentKey :=
  if key.kind ≠ .future then none
  else some { key with expiry := row.expiration.getD key.expiry, strike := noValue }

def currencyKey (key : InstrumentKey) : Option InstrumentKey :=
  if key.kind ≠ .index then none
  else some { key with strike := noValue }

def toInstrumentKey (row : InstrumentRow) : Option InstrumentKey :=
  if row.symbol = [] then none
  else
    match parseSymbol row.symbol with
    | none => none
    | some parsed =>
        let key := { parsed with id := row.instrumentId }
        if row.instrumentType = "option".toList then optionKey row key
        else if row.instrumentType = "future".toList then futureKey row key
        else if row.instrumentType = "currency".toList then currencyKey key
        else none

/-- The `instrument_type` a kind is stored under. -/
def InstrumentKind.instrumentType : InstrumentKind → Option Text
  | .option => some "option".toList
  | .future => some "future".toList
  | .index => some "currency".toList
  | .perpetual => none
  | .unknown => none

/-- One row of the loop of `build_registry`: the registry and the skipped count. -/
def buildStep (state : InstrumentRegistry × Nat) (row : InstrumentRow) :
    InstrumentRegistry × Nat :=
  match toInstrumentKey row with
  | none => (state.1, state.2 + 1)
  | some key =>
      match state.1.add key with
      | (none, registry) => (registry, state.2 + 1)
      | (some _, registry) => (registry, state.2)

def buildRegistry (rows : List InstrumentRow) : InstrumentRegistry × Nat :=
  rows.foldl buildStep (.empty, 0)

/-! ## What a row is mapped to -/

theorem parseSymbol_ne_nil {symbol : Text} {key : InstrumentKey}
    (parsed : parseSymbol symbol = some key) : symbol ≠ [] := by
  rintro rfl
  cases parsed

theorem toInstrumentKey_of_parsed {row : InstrumentRow} {parsed : InstrumentKey}
    (parse : parseSymbol row.symbol = some parsed) :
    toInstrumentKey row =
      if row.instrumentType = "option".toList then
        optionKey row { parsed with id := row.instrumentId }
      else if row.instrumentType = "future".toList then
        futureKey row { parsed with id := row.instrumentId }
      else if row.instrumentType = "currency".toList then
        currencyKey { parsed with id := row.instrumentId }
      else none := by
  unfold toInstrumentKey
  rw [if_neg (parseSymbol_ne_nil parse), parse]

section Columns

variable {row : InstrumentRow} {key result : InstrumentKey}

theorem optionKey_some (mapped : optionKey row key = some result) :
    key.kind = .option ∧ ∃ right, rightOf row key = some right ∧
      result =
        { key with
          strike := row.strike.getD key.strike
          right := right
          expiry := row.expiration.getD key.expiry } := by
  unfold optionKey at mapped
  split at mapped
  next => cases mapped
  next kind =>
    obtain ⟨right, named, rfl⟩ := Option.map_eq_some_iff.mp mapped
    exact ⟨not_not.mp kind, right, named, rfl⟩

theorem futureKey_some (mapped : futureKey row key = some result) :
    key.kind = .future ∧
      result = { key with expiry := row.expiration.getD key.expiry, strike := noValue } := by
  unfold futureKey at mapped
  split at mapped
  next => cases mapped
  next kind => exact ⟨not_not.mp kind, (Option.some.inj mapped).symm⟩

theorem currencyKey_some (mapped : currencyKey key = some result) :
    key.kind = .index ∧ result = { key with strike := noValue } := by
  unfold currencyKey at mapped
  split at mapped
  next => cases mapped
  next kind => exact ⟨not_not.mp kind, (Option.some.inj mapped).symm⟩

end Columns

/-- Everything `to_instrument_key` can answer. -/
theorem toInstrumentKey_cases {row : InstrumentRow} {key : InstrumentKey}
    (mapped : toInstrumentKey row = some key) :
    ∃ parsed, parseSymbol row.symbol = some parsed ∧
      ((row.instrumentType = "option".toList ∧ parsed.kind = .option ∧
        ∃ right, rightOf row parsed = some right ∧
          key =
            { parsed with
              id := row.instrumentId
              strike := row.strike.getD parsed.strike
              right := right
              expiry := row.expiration.getD parsed.expiry }) ∨
      (row.instrumentType = "future".toList ∧ parsed.kind = .future ∧
        key =
          { parsed with
            id := row.instrumentId
            expiry := row.expiration.getD parsed.expiry
            strike := noValue }) ∨
      (row.instrumentType = "currency".toList ∧ parsed.kind = .index ∧
        key = { parsed with id := row.instrumentId, strike := noValue })) := by
  have parses : ∃ parsed, parseSymbol row.symbol = some parsed := by
    cases parse : parseSymbol row.symbol with
    | none => simp [toInstrumentKey, parse] at mapped
    | some parsed => exact ⟨parsed, rfl⟩
  obtain ⟨parsed, parse⟩ := parses
  refine ⟨parsed, parse, ?_⟩
  rw [toInstrumentKey_of_parsed parse] at mapped
  split at mapped
  next isOption => exact .inl ⟨isOption, optionKey_some mapped⟩
  next =>
    split at mapped
    next isFuture => exact .inr (.inl ⟨isFuture, futureKey_some mapped⟩)
    next =>
      split at mapped
      next isCurrency => exact .inr (.inr ⟨isCurrency, currencyKey_some mapped⟩)
      next => cases mapped

/-- A mapped row agrees with its symbol on everything but the columns. -/
theorem toInstrumentKey_some {row : InstrumentRow} {key : InstrumentKey}
    (mapped : toInstrumentKey row = some key) :
    ∃ parsed, parseSymbol row.symbol = some parsed ∧ key.symbol = row.symbol ∧
      key.id = row.instrumentId ∧ key.kind = parsed.kind ∧
      parsed.kind.instrumentType = some row.instrumentType := by
  obtain ⟨parsed, parse, origin⟩ := toInstrumentKey_cases mapped
  have symbol := (parseSymbol_symbol parse).1
  refine ⟨parsed, parse, ?_⟩
  rcases origin with
    ⟨isOption, kind, right, -, rfl⟩ | ⟨isFuture, kind, rfl⟩ | ⟨isCurrency, kind, rfl⟩
  · exact ⟨symbol, rfl, rfl, by rw [kind, isOption]; rfl⟩
  · exact ⟨symbol, rfl, rfl, by rw [kind, isFuture]; rfl⟩
  · exact ⟨symbol, rfl, rfl, by rw [kind, isCurrency]; rfl⟩

theorem optionKey_isSome {row : InstrumentRow} {key : InstrumentKey} (kind : key.kind = .option)
    (named : ∀ name, row.optionType = some name → name = "call".toList ∨ name = "put".toList) :
    ∃ result, optionKey row key = some result := by
  have right : ∃ side, rightOf row key = some side := by
    unfold rightOf
    cases optionType : row.optionType with
    | none => exact ⟨key.right, rfl⟩
    | some name =>
        rcases named name optionType with rfl | rfl
        · exact ⟨.call, if_pos rfl⟩
        · exact ⟨.put, rfl⟩
  obtain ⟨side, sideEq⟩ := right
  unfold optionKey
  rw [if_neg (by simp [kind]), sideEq]
  exact ⟨_, rfl⟩

/-- A row whose type is the one its symbol names is mapped, unless it is an option
whose option type is no right. -/
theorem toInstrumentKey_isSome {row : InstrumentRow} {parsed : InstrumentKey}
    (parse : parseSymbol row.symbol = some parsed)
    (typed : parsed.kind.instrumentType = some row.instrumentType)
    (named : parsed.kind = .option → ∀ name, row.optionType = some name →
      name = "call".toList ∨ name = "put".toList) :
    ∃ key, toInstrumentKey row = some key := by
  rw [toInstrumentKey_of_parsed parse]
  cases kind : parsed.kind with
  | option =>
      rw [kind] at typed
      have isOption : row.instrumentType = "option".toList := (Option.some.inj typed).symm
      rw [if_pos isOption]
      exact optionKey_isSome rfl (named kind)
  | future =>
      rw [kind] at typed
      have isFuture : row.instrumentType = "future".toList := (Option.some.inj typed).symm
      rw [if_neg (by rw [isFuture]; decide), if_pos isFuture]
      unfold futureKey
      rw [if_neg (by simp)]
      exact ⟨_, rfl⟩
  | index =>
      rw [kind] at typed
      have isCurrency : row.instrumentType = "currency".toList := (Option.some.inj typed).symm
      rw [if_neg (by rw [isCurrency]; decide), if_neg (by rw [isCurrency]; decide),
        if_pos isCurrency]
      unfold currencyKey
      rw [if_neg (by simp)]
      exact ⟨_, rfl⟩
  | perpetual => simp [kind, InstrumentKind.instrumentType] at typed
  | unknown => simp [kind, InstrumentKind.instrumentType] at typed

/-! ## What the registry holds -/

open InstrumentRegistry

theorem buildStep_registry (state : InstrumentRegistry × Nat) (row : InstrumentRow) :
    (buildStep state row).1 = state.1.addAll (toInstrumentKey row).toList := by
  unfold buildStep
  cases mapped : toInstrumentKey row with
  | none => rfl
  | some key =>
      simp only [Option.toList_some, addAll, List.foldl_cons, List.foldl_nil]
      split
      next added => rw [added]
      next added => rw [added]

theorem addAll_append (registry : InstrumentRegistry) (first second : List InstrumentKey) :
    registry.addAll (first ++ second) = (registry.addAll first).addAll second := by
  unfold addAll
  rw [List.foldl_append]

/-- The registry is that of the keys the rows are mapped to. -/
theorem buildRegistry_eq (rows : List InstrumentRow) :
    (buildRegistry rows).1 = empty.addAll (rows.filterMap toInstrumentKey) := by
  have general (state : InstrumentRegistry × Nat) :
      (rows.foldl buildStep state).1 = state.1.addAll (rows.filterMap toInstrumentKey) := by
    induction rows generalizing state with
    | nil => rfl
    | cons row rest inductionHypothesis =>
        rw [List.foldl_cons, inductionHypothesis, buildStep_registry, ← addAll_append,
          List.filterMap_cons]
        cases toInstrumentKey row <;> rfl
  exact general (.empty, 0)

/-- Without a zero id exactly the rows that are not mapped are skipped. -/
theorem skipped_buildRegistry {rows : List InstrumentRow}
    (identified : ∀ row ∈ rows, ∀ key, toInstrumentKey row = some key → key.id ≠ 0) :
    (rows.filterMap toInstrumentKey).length + (buildRegistry rows).2 = rows.length := by
  have general (state : InstrumentRegistry × Nat) :
      (rows.filterMap toInstrumentKey).length + (rows.foldl buildStep state).2 =
        state.2 + rows.length := by
    induction rows generalizing state with
    | nil => simp
    | cons row rest inductionHypothesis =>
        have tail := inductionHypothesis
          (fun other member => identified other (.tail _ member)) (buildStep state row)
        rw [List.foldl_cons, List.filterMap_cons, List.length_cons]
        unfold buildStep at tail ⊢
        cases mapped : toInstrumentKey row with
        | none =>
            simp only [mapped] at tail ⊢
            omega
        | some key =>
            have added : ∃ id, (state.1.add key).1 = some id :=
              add_value (identified row (.head _) key mapped)
            obtain ⟨id, value⟩ := added
            simp only [mapped] at tail ⊢
            split at tail
            next refused => simp [refused] at value
            next =>
              simp only [List.length_cons] at tail ⊢
              omega
  simpa [buildRegistry] using general (.empty, 0)

theorem keys_buildRegistry (rows : List InstrumentRow) :
    (buildRegistry rows).1.keys = registered (rows.filterMap toInstrumentKey) := by
  rw [buildRegistry_eq, keys_addAll]

/-- An entry comes from a row. -/
theorem mem_buildRegistry {rows : List InstrumentRow} {key : InstrumentKey}
    (member : key ∈ (buildRegistry rows).1.keys) :
    key.id ≠ 0 ∧ ∃ row ∈ rows, toInstrumentKey row = some key := by
  rw [keys_buildRegistry, mem_registered] at member
  obtain ⟨inKeys, identified, -⟩ := firstOf_spec member
  obtain ⟨row, inRows, mapped⟩ := List.mem_filterMap.mp inKeys
  exact ⟨identified, row, inRows, mapped⟩

/-- A mapped row with an id puts an entry with its symbol into the registry. -/
theorem exists_entry {rows : List InstrumentRow} {row : InstrumentRow} {key : InstrumentKey}
    (inRows : row ∈ rows) (mapped : toInstrumentKey row = some key) (identified : key.id ≠ 0) :
    ∃ entry ∈ (buildRegistry rows).1.keys, entry.symbol = row.symbol := by
  have inKeys : key ∈ rows.filterMap toInstrumentKey := List.mem_filterMap.mpr ⟨row, inRows, mapped⟩
  obtain ⟨entry, first⟩ := firstOf_isSome inKeys identified
  obtain ⟨-, -, symbol⟩ := firstOf_spec first
  obtain ⟨-, -, keySymbol, -⟩ := toInstrumentKey_some mapped
  refine ⟨entry, ?_, symbol.trans keySymbol⟩
  rw [keys_buildRegistry, mem_registered, symbol]
  exact first

end QuantGateway.MarketData
