import QuantGateway.Ingest.Calls
import QuantGateway.Ingest.ReferenceIngest

/-!
Owns class-table inheritance: every subtype row belongs to an instrument of its
table's type, and no instrument has rows in two subtype tables. No constraint of
the schema says so, and the conflict clause of the upserts leaves the type of a
stored instrument alone, so a name that comes back under another kind breaks it.

Does not own what the gateway makes of such an instrument
(`MarketData.Repository`).
-/

namespace QuantGateway.Ingest

open QuantGateway.Foundation
open QuantGateway.Foundation.Program
open QuantGateway.SecurityMaster

/-- The subtype rows agree with the instruments. -/
structure Inherits (tables : Tables) : Prop where
  type : ∀ (table : SubtypeTable) (key : Int), key ∈ table.keys tables →
    ∃ parent ∈ tables.instrument,
      parent.instrumentId = key ∧ parent.instrumentType = table.instrumentType
  single : ∀ (first second : SubtypeTable) (key : Int), key ∈ first.keys tables →
    key ∈ second.keys tables → first = second

/-- No instrument is upserted under two kinds. -/
def OneKind (calls : List Call) : Prop :=
  ∀ first ∈ calls, ∀ second ∈ calls, first.SameName second → first.table = second.table

variable {calls : List Call} {start last : Session}

/-- A row's instrument has the type of the one kind it is upserted under. -/
theorem Accounted.type (accounted : Accounted calls last) (oneKind : OneKind calls)
    {table : SubtypeTable} {key : Int} (member : key ∈ table.keys last.working) :
    ∃ parent ∈ last.working.instrument,
      parent.instrumentId = key ∧ parent.instrumentType = table.instrumentType := by
  obtain ⟨call, made, rfl, identity, stored, named, rfl⟩ := (accounted.keys table key).mp member
  obtain ⟨creator, alsoMade, creatorNamed, typed⟩ := accounted.typed identity stored
  have sameTable := oneKind creator alsoMade call made (creatorNamed.sameName named)
  obtain ⟨parent, inTable, rfl⟩ := List.mem_map.mp stored
  refine ⟨parent, inTable, rfl, ?_⟩
  rw [← sameTable]
  exact typed.symm

theorem Accounted.inherits (accounted : Accounted calls last) (oneKind : OneKind calls) :
    Inherits last.working where
  type _ _ := accounted.type oneKind
  single := by
    intro first second key inFirst inSecond
    obtain ⟨parent, member, isKey, isFirst⟩ := accounted.type oneKind inFirst
    obtain ⟨other, otherMember, otherKey, isSecond⟩ := accounted.type oneKind inSecond
    obtain rfl := eq_of_key_eq accounted.valid.instrumentKey member otherMember
      (isKey.trans otherKey.symm)
    exact SubtypeTable.eq_of_instrumentType_eq (isFirst.symm.trans isSecond)

/-- Two calls for one instrument have written their rows under one id. -/
theorem Accounted.oneKind (accounted : Accounted calls last) (inherits : Inherits last.working) :
    OneKind calls := by
  intro first firstMade second secondMade sameName
  obtain ⟨identity, stored, named⟩ := accounted.stored first firstMade
  have alsoNamed : second.Names identity :=
    ⟨named.1.trans sameName.1, sameName.2.symm.trans named.2⟩
  have inFirst : identity.instrumentId ∈ first.table.keys last.working :=
    (accounted.keys _ _).mpr ⟨first, firstMade, rfl, identity, stored, named, rfl⟩
  have inSecond : identity.instrumentId ∈ second.table.keys last.working :=
    (accounted.keys _ _).mpr ⟨second, secondMade, rfl, identity, stored, alsoNamed, rfl⟩
  exact inherits.single _ _ _ inFirst inSecond

/-- After any run of upserts the subtype rows agree with the instruments exactly
when no instrument was upserted under two kinds. A part of a run is a run, so this
is about every state on the way too. -/
theorem inherits_iff_oneKind (initial : upserts.Initial start)
    (run : upserts.Run start calls last) : Inherits last.working ↔ OneKind calls := by
  have accounted := accounted_run initial run
  exact ⟨accounted.oneKind, accounted.inherits⟩

/-! ## An option and a future -/

theorem seeded_initial : upserts.Initial Store.seeded.connect where
  valid := Store.seeded_valid
  instrument := rfl
  issued := le_refl 0

theorem upserts_step (id : Int) {call : Call} {before : Session}
    (isReturned : returned (call.run before) = some id) :
    upserts.Step before call (finalState (call.run before)) :=
  ⟨id, eq_ok_of_returned isReturned⟩

def optionCall (name : Text) : Call :=
  .upsertOptionContract 1 {
    venueSymbol := some name
    venueInstrumentId := some 674989
    baseCurrency := some "BTC".toList
    quoteCurrency := some "BTC".toList
    counterCurrency := some "USD".toList
    settlementCurrency := some "BTC".toList
    priceIndex := some "btc_usd".toList
    tickSize := .finite (1 / 10000)
    contractSize := some (.finite 1)
    minTradeAmount := some (.finite (1 / 10))
    expirationTimestamp := some (.instant 1787126400000000)
    creationTimestamp := some (.instant 1786780817000000)
    isActive := some true
    optionType := some "call".toList
    strike := .finite 56000 }

def futureCall (name : Text) : Call :=
  .upsertFutureContract 1 {
    venueSymbol := some name
    venueInstrumentId := some 342036
    baseCurrency := some "BTC".toList
    quoteCurrency := some "USD".toList
    counterCurrency := some "USD".toList
    settlementCurrency := some "BTC".toList
    priceIndex := some "btc_usd".toList
    tickSize := .finite (5 / 2)
    contractSize := some (.finite 10)
    minTradeAmount := some (.finite 10)
    settlementPeriod := some "month".toList
    expirationTimestamp := some (.instant 1782633600000000)
    creationTimestamp := some (.instant 1751011200000000)
    isActive := some true }

/-- The tables after an option and a future. -/
def afterBoth (optionName futureName : Text) : Session :=
  let afterOption := finalState ((optionCall optionName).run Store.seeded.connect)
  finalState ((futureCall futureName).run afterOption)

/-- Under two names they are told apart. -/
theorem inherits_two_names :
    Inherits (afterBoth "BTC-19AUG26-56000-C".toList "BTC-26JUN26".toList).working := by
  have run : upserts.Run Store.seeded.connect
      [optionCall "BTC-19AUG26-56000-C".toList, futureCall "BTC-26JUN26".toList]
      (afterBoth "BTC-19AUG26-56000-C".toList "BTC-26JUN26".toList) :=
    .cons (upserts_step 1 (by decide +kernel)) (.single (upserts_step 2 (by decide +kernel)))
  rw [inherits_iff_oneKind seeded_initial run]
  simp [OneKind, Call.SameName, Call.symbol, optionCall, futureCall, Call.table]

/-- Under one name the future's row is added to the option. -/
theorem one_name_not_inherited :
    upserts.Initial Store.seeded.connect ∧
      upserts.Run Store.seeded.connect
        [optionCall "BTC-26JUN26".toList, futureCall "BTC-26JUN26".toList]
        (afterBoth "BTC-26JUN26".toList "BTC-26JUN26".toList) ∧
      ¬ Inherits (afterBoth "BTC-26JUN26".toList "BTC-26JUN26".toList).working := by
  refine ⟨seeded_initial, ?_, ?_⟩
  · exact .cons (upserts_step 1 (by decide +kernel))
      (.single (upserts_step 1 (by decide +kernel)))
  · intro inherits
    have same := inherits.single .option .future 1 (by decide +kernel) (by decide +kernel)
    cases same

end QuantGateway.Ingest
