import QuantGateway.Foundation.CharConv
import Mathlib.Data.List.Nodup

/-!
Owns the tables of `security_master` and the constraints `schema.sql` puts on
them. A `Database` is a state of the tables together with the proof that it
satisfies every constraint.

Does not own the column `created_at`, which nothing reads, nor the bounds of
`bigint` and `numeric(20, 8)`, which are checked where values enter
(`Ingest.Statements`).
-/

namespace QuantGateway.SecurityMaster

open QuantGateway.Foundation

abbrev Numeric := ExtendedRational

/-- A `timestamptz`, which is stored in microseconds since the epoch. -/
inductive Timestamp where
  | instant (microseconds : Int)
  | infinite (negative : Bool)
deriving DecidableEq, Repr

/-- `EXTRACT(EPOCH FROM ...)`. -/
def Timestamp.epoch : Timestamp → Numeric
  | .instant microseconds => .finite (microseconds / 1000000)
  | .infinite negative => .infinite negative

structure Venue where
  venueId : Int
  code : Text
deriving DecidableEq, Repr

structure Instrument where
  instrumentId : Int
  venueId : Int
  tickSize : Numeric
  instrumentType : Text
  symbol : Text
deriving DecidableEq, Repr

structure OptionRow where
  instrumentId : Int
  optionType : Text
  strike : Numeric
  expirationTimestamp : Option Timestamp
  contractSize : Option Int
  creationTimestamp : Option Timestamp
deriving DecidableEq, Repr

structure FutureRow where
  instrumentId : Int
  settlementPeriod : Text
  expirationTimestamp : Option Timestamp
  contractSize : Option Int
  creationTimestamp : Option Timestamp
deriving DecidableEq, Repr

structure CurrencyRow where
  instrumentId : Int
deriving DecidableEq, Repr

/-- The rows of the five tables. -/
structure Tables where
  venue : List Venue
  instrument : List Instrument
  option : List OptionRow
  future : List FutureRow
  currencies : List CurrencyRow
deriving DecidableEq, Repr

namespace Tables

def empty : Tables where
  venue := []
  instrument := []
  option := []
  future := []
  currencies := []

/-- The id of an instrument exists. -/
def HasInstrument (tables : Tables) (id : Int) : Prop :=
  id ∈ tables.instrument.map Instrument.instrumentId

instance (tables : Tables) (id : Int) : Decidable (tables.HasInstrument id) := by
  unfold HasInstrument
  infer_instance

end Tables

/-- The tables that share their primary key with `instrument`. -/
inductive SubtypeTable where
  | option
  | future
  | currencies
deriving DecidableEq, Repr

namespace SubtypeTable

/-- The `instrument_type` of the instruments a table is for. -/
def instrumentType : SubtypeTable → Text
  | .option => "option".toList
  | .future => "future".toList
  | .currencies => "currency".toList

/-- The primary keys of a table. -/
def keys (table : SubtypeTable) (tables : Tables) : List Int :=
  match table with
  | .option => tables.option.map OptionRow.instrumentId
  | .future => tables.future.map FutureRow.instrumentId
  | .currencies => tables.currencies.map CurrencyRow.instrumentId

/-- The type of an instrument tells its table. -/
theorem eq_of_instrumentType_eq {first second : SubtypeTable}
    (same : first.instrumentType = second.instrumentType) : first = second := by
  revert same
  cases first <;> cases second <;> decide

end SubtypeTable

/-- `CHECK (instrument_type IN (...))`. -/
def instrumentTypes : List Text :=
  ["option".toList, "future".toList, "perpetual".toList, "currency".toList]

/-- `CHECK (option_type IN (...))`. -/
def optionTypes : List Text :=
  ["call".toList, "put".toList]

/-- `CHECK (settlement_period <> ...)`. -/
def perpetualPeriod : Text := "perpetual".toList

/-- The key constraints, foreign keys and checks of `schema.sql`, for the positive
ids a `bigserial` gives. -/
structure Tables.Valid (tables : Tables) : Prop where
  venueKey : (tables.venue.map Venue.venueId).Nodup
  venueCode : (tables.venue.map Venue.code).Nodup
  instrumentKey : (tables.instrument.map Instrument.instrumentId).Nodup
  instrumentName : (tables.instrument.map fun row => (row.venueId, row.symbol)).Nodup
  instrumentVenue : ∀ row ∈ tables.instrument, row.venueId ∈ tables.venue.map Venue.venueId
  instrumentType : ∀ row ∈ tables.instrument, row.instrumentType ∈ instrumentTypes
  instrumentPositive : ∀ row ∈ tables.instrument, 0 < row.instrumentId
  optionKey : (tables.option.map OptionRow.instrumentId).Nodup
  optionParent : ∀ row ∈ tables.option, tables.HasInstrument row.instrumentId
  optionType : ∀ row ∈ tables.option, row.optionType ∈ optionTypes
  futureKey : (tables.future.map FutureRow.instrumentId).Nodup
  futureParent : ∀ row ∈ tables.future, tables.HasInstrument row.instrumentId
  futurePeriod : ∀ row ∈ tables.future, row.settlementPeriod ≠ perpetualPeriod
  currencyKey : (tables.currencies.map CurrencyRow.instrumentId).Nodup
  currencyParent : ∀ row ∈ tables.currencies, tables.HasInstrument row.instrumentId

/-- A subtype row has its parent. -/
theorem SubtypeTable.hasInstrument {table : SubtypeTable} {tables : Tables} {key : Int}
    (valid : tables.Valid) (member : key ∈ table.keys tables) : tables.HasInstrument key := by
  cases table with
  | option =>
      obtain ⟨row, inRows, rfl⟩ := List.mem_map.mp member
      exact valid.optionParent row inRows
  | future =>
      obtain ⟨row, inRows, rfl⟩ := List.mem_map.mp member
      exact valid.futureParent row inRows
  | currencies =>
      obtain ⟨row, inRows, rfl⟩ := List.mem_map.mp member
      exact valid.currencyParent row inRows

/-- A state of the database that satisfies its constraints. -/
structure Database where
  tables : Tables
  valid : tables.Valid

theorem Tables.Valid.empty : Tables.empty.Valid := by
  constructor <;> simp [Tables.empty]

end QuantGateway.SecurityMaster
