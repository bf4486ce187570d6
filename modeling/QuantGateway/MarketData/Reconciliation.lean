import QuantGateway.MarketData.Repository

/-!
Owns what `to_instrument_key` makes of one row: where each field of the key comes
from and which columns it does not read, which rows it refuses, and which
strikes it lets through.

Two of these are where the documented contract and the code part. The code takes
an absent column as leave to use the symbol's value, and it checks neither the
strike of the column nor that the strike of the symbol is finite.
-/

namespace QuantGateway.MarketData

open QuantGateway.Foundation
open QuantGateway.Foundation.CharConv

/-- The option type is absent or names a right. -/
def NamesRight (row : InstrumentRow) : Prop :=
  ∀ name, row.optionType = some name → name = "call".toList ∨ name = "put".toList

/-- A right is the column's where the column is present. -/
theorem rightOf_eq_some {row : InstrumentRow} {key : InstrumentKey} {right : OptionRight}
    (chosen : rightOf row key = some right) :
    (row.optionType = none → right = key.right) ∧
      ∀ name, row.optionType = some name →
        (name = "call".toList ∧ right = .call) ∨ (name = "put".toList ∧ right = .put) := by
  unfold rightOf at chosen
  cases optionType : row.optionType with
  | none =>
      rw [optionType] at chosen
      cases chosen
      exact ⟨fun _ => rfl, fun name named => by cases named⟩
  | some name =>
      rw [optionType] at chosen
      constructor
      · intro absent
        cases absent
      · intro other named
        cases named
        by_cases isCall : name = "call".toList
        · exact .inl ⟨isCall, (Option.some.inj ((if_pos isCall).symm.trans chosen)).symm⟩
        · have chosenPut := (if_neg isCall).symm.trans chosen
          by_cases isPut : name = "put".toList
          · exact .inr ⟨isPut, (Option.some.inj ((if_pos isPut).symm.trans chosenPut)).symm⟩
          · cases (if_neg isPut).symm.trans chosenPut

theorem namesRight_of_rightOf {row : InstrumentRow} {key : InstrumentKey} {right : OptionRight}
    (chosen : rightOf row key = some right) : NamesRight row := by
  intro name named
  exact ((rightOf_eq_some chosen).2 name named).imp And.left And.left

/-! ## Where each field comes from -/

/-- What a key takes from its row and what from the key parsed from the symbol. -/
structure ReconciledFrom (row : InstrumentRow) (parsed key : InstrumentKey) : Prop where
  id : key.id = row.instrumentId
  symbol : key.symbol = row.symbol
  baseCcy : key.baseCcy = parsed.baseCcy
  kind : key.kind = parsed.kind
  typed : key.kind.instrumentType = some row.instrumentType
  option : key.kind = .option →
    key.strike = row.strike.getD parsed.strike ∧
    key.expiry = row.expiration.getD parsed.expiry ∧
    (row.optionType = none → key.right = parsed.right) ∧
    ∀ name, row.optionType = some name →
      (name = "call".toList ∧ key.right = .call) ∨ (name = "put".toList ∧ key.right = .put)
  future : key.kind = .future →
    key.expiry = row.expiration.getD parsed.expiry ∧ key.strike = noValue
  currency : key.kind = .index → key.strike = noValue ∧ key.expiry = 0

/-- An index is parsed without an expiry. -/
theorem expiry_of_index {symbol : Text} {parsed : InstrumentKey}
    (parse : parseSymbol symbol = some parsed) (kind : parsed.kind = .index) :
    parsed.expiry = 0 := by
  rcases parseSymbol_cases parse with
    ⟨underscore, -, made⟩ | ⟨-, base, last, -, -, made⟩ |
    ⟨-, base, expiry, strike, right, -, -, made⟩
  · obtain ⟨-, -, rfl⟩ := parseIndex_some made
    rfl
  · rcases parsePair_some made with ⟨-, rfl⟩ | ⟨nanos, -, rfl⟩ <;> cases kind
  · obtain ⟨nanos, number, side, -, -, -, -, rfl⟩ := parseOption_some made
    cases kind

theorem reconciledFrom_of_mapped {row : InstrumentRow} {key : InstrumentKey}
    (mapped : toInstrumentKey row = some key) :
    ∃ parsed, parseSymbol row.symbol = some parsed ∧ ReconciledFrom row parsed key := by
  obtain ⟨parsed, parse, origin⟩ := toInstrumentKey_cases mapped
  have symbol := (parseSymbol_symbol parse).1
  have noExpiry := expiry_of_index parse
  refine ⟨parsed, parse, ?_⟩
  rcases origin with
    ⟨isOption, kind, right, chosen, rfl⟩ | ⟨isFuture, kind, rfl⟩ | ⟨isCurrency, kind, rfl⟩
  · exact
      { id := rfl
        symbol := symbol
        baseCcy := rfl
        kind := rfl
        typed := by rw [isOption, kind]; rfl
        option := fun _ => ⟨rfl, rfl, rightOf_eq_some chosen⟩
        future := fun isFuture => by cases kind.symm.trans isFuture
        currency := fun isIndex => by cases kind.symm.trans isIndex }
  · exact
      { id := rfl
        symbol := symbol
        baseCcy := rfl
        kind := rfl
        typed := by rw [isFuture, kind]; rfl
        option := fun isOption => by cases kind.symm.trans isOption
        future := fun _ => ⟨rfl, rfl⟩
        currency := fun isIndex => by cases kind.symm.trans isIndex }
  · exact
      { id := rfl
        symbol := symbol
        baseCcy := rfl
        kind := rfl
        typed := by rw [isCurrency, kind]; rfl
        option := fun isOption => by cases kind.symm.trans isOption
        future := fun isFuture => by cases kind.symm.trans isFuture
        currency := fun _ => ⟨rfl, noExpiry kind⟩ }

/-! ## The columns of the other types -/

/-- The rows agree on who they are and on the columns of their type. -/
structure AgreeOnOwnColumns (row other : InstrumentRow) : Prop where
  id : other.instrumentId = row.instrumentId
  symbol : other.symbol = row.symbol
  instrumentType : other.instrumentType = row.instrumentType
  option : row.instrumentType = "option".toList →
    other.optionType = row.optionType ∧ other.strike = row.strike ∧
      other.expiration = row.expiration
  future : row.instrumentType = "future".toList → other.expiration = row.expiration

theorem toInstrumentKey_eq_of_agree {row other : InstrumentRow}
    (agree : AgreeOnOwnColumns row other) : toInstrumentKey other = toInstrumentKey row := by
  unfold toInstrumentKey
  rw [agree.symbol]
  by_cases unnamed : row.symbol = []
  · rw [if_pos unnamed, if_pos unnamed]
  rw [if_neg unnamed, if_neg unnamed]
  cases parseSymbol row.symbol with
  | none => rfl
  | some parsed =>
      simp only [agree.id, agree.instrumentType]
      by_cases isOption : row.instrumentType = "option".toList
      · obtain ⟨optionType, strike, expiration⟩ := agree.option isOption
        rw [if_pos isOption, if_pos isOption]
        simp only [optionKey, rightOf, optionType, strike, expiration]
      rw [if_neg isOption, if_neg isOption]
      by_cases isFuture : row.instrumentType = "future".toList
      · rw [if_pos isFuture, if_pos isFuture]
        simp only [futureKey, agree.future isFuture]
      rw [if_neg isFuture, if_neg isFuture]

/-- Each field of a key comes from its own side, and columns that are not of the
row's type do not matter. -/
theorem row_reconciliation (row : InstrumentRow) :
    (∀ key, toInstrumentKey row = some key →
      ∃ parsed, parseSymbol row.symbol = some parsed ∧ ReconciledFrom row parsed key) ∧
    ∀ other, AgreeOnOwnColumns row other → toInstrumentKey other = toInstrumentKey row :=
  ⟨fun _ mapped => reconciledFrom_of_mapped mapped,
    fun _ agree => toInstrumentKey_eq_of_agree agree⟩

/-! ## Rows that are refused -/

/-- The rows the contract of `to_instrument_key` refuses. -/
inductive Senseless (row : InstrumentRow) : Prop where
  | unknownType (option : row.instrumentType ≠ "option".toList)
      (future : row.instrumentType ≠ "future".toList)
      (currency : row.instrumentType ≠ "currency".toList)
  | noStrike (typed : row.instrumentType = "option".toList) (absent : row.strike = none)
  | noRight (typed : row.instrumentType = "option".toList) (absent : row.optionType = none)
  | badRight (typed : row.instrumentType = "option".toList) (unnamed : ¬ NamesRight row)
  | noExpiry (typed : row.instrumentType = "future".toList) (absent : row.expiration = none)
  | unparsed (parse : parseSymbol row.symbol = none)
  | contradicted {parsed : InstrumentKey} (parse : parseSymbol row.symbol = some parsed)
      (apart : parsed.kind.instrumentType ≠ some row.instrumentType)

/-- The rows for which the symbol stands in for a column the contract asks for. -/
inductive FallsBack (row : InstrumentRow) : Prop where
  | option (typed : row.instrumentType = "option".toList)
      (kind : parsedKind row.symbol = some .option) (named : NamesRight row)
      (absent : row.strike = none ∨ row.optionType = none)
  | future (typed : row.instrumentType = "future".toList)
      (kind : parsedKind row.symbol = some .future) (absent : row.expiration = none)

theorem FallsBack.senseless {row : InstrumentRow} (fallsBack : FallsBack row) : Senseless row := by
  cases fallsBack with
  | option typed _ _ absent => exact absent.elim (.noStrike typed) (.noRight typed)
  | future typed _ absent => exact .noExpiry typed absent

theorem FallsBack.mapped {row : InstrumentRow} (fallsBack : FallsBack row) :
    ∃ key, toInstrumentKey row = some key := by
  cases fallsBack with
  | option typed kind named _ =>
      obtain ⟨parsed, parse, kind⟩ := Option.map_eq_some_iff.mp kind
      exact toInstrumentKey_isSome parse (by rw [kind, typed]; rfl) fun _ => named
  | future typed kind _ =>
      obtain ⟨parsed, parse, kind⟩ := Option.map_eq_some_iff.mp kind
      exact toInstrumentKey_isSome parse (by rw [kind, typed]; rfl)
        fun isOption => by cases kind.symm.trans isOption

/-- A row is mapped only if its symbol parses as the type says. -/
theorem parsedKind_of_mapped {row : InstrumentRow} {key : InstrumentKey}
    (mapped : toInstrumentKey row = some key) :
    (row.instrumentType = "option".toList ∧ parsedKind row.symbol = some .option ∧
      NamesRight row) ∨
    (row.instrumentType = "future".toList ∧ parsedKind row.symbol = some .future) ∨
    (row.instrumentType = "currency".toList ∧ parsedKind row.symbol = some .index) := by
  obtain ⟨parsed, parse, origin⟩ := toInstrumentKey_cases mapped
  have kindOf {kind : InstrumentKind} (isKind : parsed.kind = kind) :
      parsedKind row.symbol = some kind := by
    rw [parsedKind, parse, Option.map_some, isKind]
  rcases origin with
    ⟨isOption, kind, right, chosen, -⟩ | ⟨isFuture, kind, -⟩ | ⟨isCurrency, kind, -⟩
  · exact .inl ⟨isOption, kindOf kind, namesRight_of_rightOf chosen⟩
  · exact .inr (.inl ⟨isFuture, kindOf kind⟩)
  · exact .inr (.inr ⟨isCurrency, kindOf kind⟩)

theorem option_of_mapped {row : InstrumentRow} {key : InstrumentKey}
    (mapped : toInstrumentKey row = some key) (typed : row.instrumentType = "option".toList) :
    parsedKind row.symbol = some .option ∧ NamesRight row := by
  rcases parsedKind_of_mapped mapped with ⟨-, kindAndRight⟩ | ⟨isFuture, -⟩ | ⟨isCurrency, -⟩
  · exact kindAndRight
  · exact absurd (typed.symm.trans isFuture) (by decide)
  · exact absurd (typed.symm.trans isCurrency) (by decide)

/-- A row the contract refuses is refused by the code too, unless the symbol
stands in for its absent column. -/
theorem Senseless.fallsBack_of_mapped {row : InstrumentRow} {key : InstrumentKey}
    (senseless : Senseless row) (mapped : toInstrumentKey row = some key) : FallsBack row := by
  cases senseless with
  | unknownType option future currency =>
      rcases parsedKind_of_mapped mapped with ⟨isOption, -⟩ | ⟨isFuture, -⟩ | ⟨isCurrency, -⟩
      · exact absurd isOption option
      · exact absurd isFuture future
      · exact absurd isCurrency currency
  | noStrike typed absent =>
      obtain ⟨kind, named⟩ := option_of_mapped mapped typed
      exact .option typed kind named (.inl absent)
  | noRight typed absent =>
      obtain ⟨kind, named⟩ := option_of_mapped mapped typed
      exact .option typed kind named (.inr absent)
  | badRight typed unnamed => exact absurd (option_of_mapped mapped typed).2 unnamed
  | noExpiry typed absent =>
      rcases parsedKind_of_mapped mapped with ⟨isOption, -⟩ | ⟨-, kind⟩ | ⟨isCurrency, -⟩
      · exact absurd (typed.symm.trans isOption) (by decide)
      · exact .future typed kind absent
      · exact absurd (typed.symm.trans isCurrency) (by decide)
  | unparsed noParse =>
      obtain ⟨parsed, parse, -⟩ := toInstrumentKey_some mapped
      cases noParse.symm.trans parse
  | contradicted parse apart =>
      obtain ⟨parsed, otherParse, -, -, -, typed⟩ := toInstrumentKey_some mapped
      obtain rfl := Option.some.inj (parse.symm.trans otherParse)
      exact absurd typed apart

/-- A senseless row is refused exactly when no symbol stands in for an absent
column. -/
theorem refuses_senseless_iff (row : InstrumentRow) :
    (Senseless row → toInstrumentKey row = none) ↔ ¬ FallsBack row := by
  constructor
  · intro refuses fallsBack
    obtain ⟨key, mapped⟩ := fallsBack.mapped
    rw [refuses fallsBack.senseless] at mapped
    cases mapped
  · intro noFallback senseless
    cases mapped : toInstrumentKey row with
    | none => rfl
    | some key => exact absurd (senseless.fallsBack_of_mapped mapped) noFallback

/-- An option row without a strike gets that of its symbol. -/
theorem senseless_row_is_mapped :
    let row : InstrumentRow :=
      { instrumentId := 101
        symbol := "BTC-26JUN26-100000-C".toList
        instrumentType := "option".toList
        optionType := some "call".toList
        strike := none
        expiration := none }
    Senseless row ∧ ¬ toInstrumentKey row = none := by
  intro row
  exact ⟨.noStrike rfl rfl, by decide +kernel⟩

/-! ## Strikes -/

/-- The strike of a key is a positive number for an option and NaN otherwise. -/
structure UsableStrike (key : InstrumentKey) : Prop where
  option : key.kind = .option → ∃ value, key.strike = .finite value ∧ 0 < value
  other : key.kind ≠ .option → key.strike = .nan

/-- The strike the key of an option row gets is a positive number: the column's
where it is present, else that of the symbol, which is positive unless it is a
word for infinity. -/
def UsableSource (row : InstrumentRow) : Prop :=
  match row.strike with
  | some strike => ∃ value, strike = .finite value ∧ 0 < value
  | none => ∀ strike, (row.symbol.splitOn '-')[2]? = some strike → isInfinityWord strike = false

theorem positive_cases {number : Double}
    (positive : ExtendedRational.lt (.finite 0) number = true) :
    (∃ value, number = .finite value ∧ 0 < value) ∨ number = .infinite false := by
  cases number with
  | finite value => exact .inl ⟨value, rfl, by simpa [ExtendedRational.lt] using positive⟩
  | infinite negative => exact .inr (by simpa [ExtendedRational.lt] using positive)
  | nan => cases positive

/-- The strike parsed from an option symbol is its third part, read to the end and
positive. -/
theorem strike_of_option {symbol : Text} {parsed : InstrumentKey}
    (parse : parseSymbol symbol = some parsed) (kind : parsed.kind = .option) :
    ∃ strike, (symbol.splitOn '-')[2]? = some strike ∧
      fromCharsDouble strike = some (parsed.strike, []) ∧
      ExtendedRational.lt (.finite 0) parsed.strike = true := by
  rcases parseSymbol_cases parse with
    ⟨underscore, -, made⟩ | ⟨-, base, last, -, -, made⟩ |
    ⟨-, base, expiry, strike, right, parts, -, made⟩
  · obtain ⟨-, -, rfl⟩ := parseIndex_some made
    cases kind
  · rcases parsePair_some made with ⟨-, rfl⟩ | ⟨nanos, -, rfl⟩ <;> cases kind
  · obtain ⟨nanos, number, side, -, read, positive, -, rfl⟩ := parseOption_some made
    exact ⟨strike, by rw [parts]; rfl, parseNumber_eq_some.mp read, positive⟩

/-- The strike of an option's key is usable exactly when its source is. -/
theorem usableSource_iff {row : InstrumentRow} {parsed : InstrumentKey}
    (parse : parseSymbol row.symbol = some parsed) (kind : parsed.kind = .option) :
    UsableSource row ↔
      ∃ value, row.strike.getD parsed.strike = .finite value ∧ 0 < value := by
  unfold UsableSource
  cases column : row.strike with
  | some strike => rfl
  | none =>
      obtain ⟨strike, third, read, positive⟩ := strike_of_option parse kind
      simp only [third, Option.some.injEq, forall_eq', Option.getD_none]
      rw [← Bool.not_eq_true, ← fromCharsDouble_infinite_iff, read]
      rcases positive_cases positive with ⟨value, isFinite, above⟩ | isInfinite
      · rw [isFinite]
        exact iff_of_true (by simp) ⟨value, rfl, above⟩
      · rw [isInfinite]
        exact iff_of_false (by simp) (by simp)

/-- Every key of a row has a usable strike exactly when an option row's strike
comes from a usable source. -/
theorem mapped_strike_usable_iff (row : InstrumentRow) :
    (∀ key, toInstrumentKey row = some key → UsableStrike key) ↔
      (row.instrumentType = "option".toList → parsedKind row.symbol = some .option →
        NamesRight row → UsableSource row) := by
  constructor
  · intro usable typed kind named
    obtain ⟨parsed, parse, kind⟩ := Option.map_eq_some_iff.mp kind
    obtain ⟨key, mapped⟩ :=
      toInstrumentKey_isSome parse (by rw [kind, typed]; rfl) fun _ => named
    obtain ⟨other, otherParse, reconciled⟩ := reconciledFrom_of_mapped mapped
    obtain rfl := Option.some.inj (parse.symm.trans otherParse)
    have isOption := reconciled.kind.trans kind
    obtain ⟨value, strike, positive⟩ := (usable key mapped).option isOption
    rw [usableSource_iff parse kind, ← (reconciled.option isOption).1]
    exact ⟨value, strike, positive⟩
  · intro source key mapped
    obtain ⟨parsed, parse, origin⟩ := toInstrumentKey_cases mapped
    rcases origin with
      ⟨typed, kind, right, chosen, rfl⟩ | ⟨-, kind, rfl⟩ | ⟨-, kind, rfl⟩
    · have parsedOption : parsedKind row.symbol = some .option := by
        rw [parsedKind, parse, Option.map_some, kind]
      have usable := source typed parsedOption (namesRight_of_rightOf chosen)
      exact ⟨fun _ => (usableSource_iff parse kind).mp usable, fun other => absurd kind other⟩
    · exact ⟨fun isOption => absurd (kind.symm.trans isOption) (by decide), fun _ => rfl⟩
    · exact ⟨fun isOption => absurd (kind.symm.trans isOption) (by decide), fun _ => rfl⟩

/-- An option row with a strike column of NaN, and one that leaves the strike to a
symbol with the word for infinity. -/
theorem unusable_strikes_are_mapped :
    let nan : InstrumentRow :=
      { instrumentId := 101
        symbol := "BTC-26JUN26-100000-C".toList
        instrumentType := "option".toList
        optionType := some "call".toList
        strike := some .nan
        expiration := none }
    let infinite : InstrumentRow :=
      { nan with symbol := "BTC-26JUN26-inf-C".toList, strike := none }
    (∃ key, toInstrumentKey nan = some key ∧ ¬ UsableStrike key) ∧
      ∃ key, toInstrumentKey infinite = some key ∧ ¬ UsableStrike key := by
  intro nan infinite
  have unusable {row : InstrumentRow} (kind : (toInstrumentKey row).map (·.kind) = some .option)
      (strike : ∀ value, (toInstrumentKey row).map (·.strike) ≠ some (.finite value)) :
      ∃ key, toInstrumentKey row = some key ∧ ¬ UsableStrike key := by
    obtain ⟨key, mapped, isOption⟩ := Option.map_eq_some_iff.mp kind
    refine ⟨key, mapped, fun usable => ?_⟩
    obtain ⟨value, isFinite, -⟩ := usable.option isOption
    rw [mapped, Option.map_some, isFinite] at strike
    exact strike value rfl
  have nanStrike : (toInstrumentKey nan).map (·.strike) = some .nan := by decide +kernel
  have infiniteStrike : (toInstrumentKey infinite).map (·.strike) = some (.infinite false) := by
    decide +kernel
  exact ⟨unusable (by decide +kernel) (by simp [nanStrike]),
    unusable (by decide +kernel) (by simp [infiniteStrike])⟩

end QuantGateway.MarketData
