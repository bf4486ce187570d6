import QuantGateway.MarketData.Repository

/-!
Owns the question whether a perpetual can reach the subscription: which rows make
`subscription_channels` list a channel of an instrument named like one.

`parse_symbol` looks for an underscore before it looks for `PERPETUAL`, so such a
row is one of type `currency` whose symbol is read as an index.
-/

namespace QuantGateway.MarketData

open QuantGateway.Foundation
open InstrumentRegistry

/-- The last dash-separated part of a symbol is `PERPETUAL`. -/
def NamesPerpetual (symbol : Text) : Prop :=
  (split symbol '-').getLast? = some "PERPETUAL".toList

/-- A currency row with an id whose symbol is a perpetual's name and is read as an
index. -/
def StrayPerpetual (row : InstrumentRow) : Prop :=
  row.instrumentId ≠ 0 ∧ row.instrumentType = "currency".toList ∧
    NamesPerpetual row.symbol ∧ IndexShaped row.symbol

/-- No subscribed channel is that of an instrument named like a perpetual. -/
def PerpetualFree (registry : InstrumentRegistry) (interval : Text) : Prop :=
  ∀ channel ∈ registry.subscriptionChannels interval, ∀ key ∈ registry.keys,
    channelFor key interval = channel → ¬ NamesPerpetual key.symbol

/-- Of the streamed kinds only an index can be named like a perpetual. -/
theorem indexShaped_of_namesPerpetual {symbol : Text} {key : InstrumentKey}
    (parsed : parseSymbol symbol = some key) (streamed : key.kind.streamed = true)
    (named : NamesPerpetual symbol) : key.kind = .index ∧ IndexShaped symbol := by
  unfold NamesPerpetual at named
  rw [split_eq_splitOn] at named
  rcases parseSymbol_cases parsed with
    ⟨underscore, found, made⟩ | ⟨-, base, last, parts, -, made⟩ |
    ⟨-, base, expiry, strike, right, parts, -, made⟩
  · obtain ⟨notFirst, notLast, rfl⟩ := parseIndex_some made
    exact ⟨rfl, underscore, found, notFirst, notLast⟩
  · -- The two parts are classified as a perpetual, which is not streamed.
    rw [parts] at named
    have isPerpetual : last = "PERPETUAL".toList := Option.some.inj named
    unfold parsePair at made
    rw [if_pos isPerpetual] at made
    cases made
    cases streamed
  · -- The last of four parts is a right.
    rw [parts] at named
    have isPerpetual : right = "PERPETUAL".toList := Option.some.inj named
    obtain ⟨nanos, number, side, -, -, -, sideEq, -⟩ := parseOption_some made
    rcases rightFromName_some sideEq with isCall | isPut
    · exact absurd (isPerpetual.symm.trans isCall) (by decide)
    · exact absurd (isPerpetual.symm.trans isPut) (by decide)

/-- A stray row makes its registry subscribe to it. -/
theorem not_perpetualFree_of_stray {rows : List InstrumentRow} {row : InstrumentRow}
    (inRows : row ∈ rows) (stray : StrayPerpetual row) (interval : Text) :
    ¬ PerpetualFree (buildRegistry rows).1 interval := by
  obtain ⟨identified, typed, named, shaped⟩ := stray
  obtain ⟨parsed, parse, kind⟩ := parseSymbol_of_indexShaped shaped
  have mapped : toInstrumentKey row = currencyKey { parsed with id := row.instrumentId } := by
    rw [toInstrumentKey_of_parsed parse, if_neg (by rw [typed]; decide),
      if_neg (by rw [typed]; decide), if_pos typed]
  have accepted : ∃ key, toInstrumentKey row = some key ∧ key.id = row.instrumentId := by
    rw [mapped]
    unfold currencyKey
    rw [if_neg (by simp [kind])]
    exact ⟨_, rfl, rfl⟩
  obtain ⟨key, keyMapped, keyId⟩ := accepted
  obtain ⟨entry, member, symbol⟩ := exists_entry inRows keyMapped (by rw [keyId]; exact identified)
  -- Any row with this symbol is an index, so the entry is streamed.
  obtain ⟨-, origin, -, originMapped⟩ := mem_buildRegistry member
  obtain ⟨originParsed, originParse, originSymbol, -, originKind, -⟩ :=
    toInstrumentKey_some originMapped
  rw [← originSymbol, symbol, parse] at originParse
  have streamed : entry.kind.streamed = true := by
    rw [originKind, ← Option.some.inj originParse, kind]
    rfl
  intro free
  have subscribed : channelFor entry interval ∈
      (buildRegistry rows).1.subscriptionChannels interval :=
    mem_subscriptionChannels.mpr ⟨entry, member, streamed, rfl⟩
  exact free (channelFor entry interval) subscribed entry member rfl (symbol ▸ named)

/-- The subscription is free of perpetuals exactly when no row is a stray one. -/
theorem perpetualFree_iff (rows : List InstrumentRow) (interval : Text) :
    PerpetualFree (buildRegistry rows).1 interval ↔ ¬ ∃ row ∈ rows, StrayPerpetual row := by
  constructor
  · rintro free ⟨row, inRows, stray⟩
    exact not_perpetualFree_of_stray inRows stray interval free
  · intro noStray channel _ key member _ perpetual
    obtain ⟨identified, row, inRows, mapped⟩ := mem_buildRegistry member
    obtain ⟨parsed, parse, symbol, id, kind, typed⟩ := toInstrumentKey_some mapped
    have streamed : parsed.kind.streamed = true := by
      cases kindEq : parsed.kind with
      | perpetual => simp [kindEq, InstrumentKind.instrumentType] at typed
      | unknown => simp [kindEq, InstrumentKind.instrumentType] at typed
      | _ => rfl
    rw [symbol] at perpetual
    obtain ⟨isIndex, shaped⟩ := indexShaped_of_namesPerpetual parse streamed perpetual
    rw [isIndex] at typed
    exact noStray ⟨row, inRows, id ▸ identified, (Option.some.inj typed).symm, perpetual, shaped⟩

/-- A currency row named `BTC_X-PERPETUAL` is subscribed to. -/
theorem stray_perpetual_is_subscribed :
    let row : InstrumentRow :=
      ⟨5, "BTC_X-PERPETUAL".toList, "currency".toList, none, none, none⟩
    (buildRegistry [row]).1.subscriptionChannels "raw".toList =
        ["deribit_price_index.BTC_X-PERPETUAL".toList] ∧
      ¬ PerpetualFree (buildRegistry [row]).1 "raw".toList := by
  have stray : StrayPerpetual
      ⟨5, "BTC_X-PERPETUAL".toList, "currency".toList, none, none, none⟩ := by
    refine ⟨by decide, rfl, ?_, 3, by decide, by decide, by decide⟩
    rw [NamesPerpetual, split_eq_splitOn]
    decide
  exact ⟨by decide, not_perpetualFree_of_stray (List.mem_singleton.mpr rfl) stray _⟩

end QuantGateway.MarketData
