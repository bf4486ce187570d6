import QuantGateway.Foundation.Relational
import QuantGateway.MarketData.Repository
import QuantGateway.SecurityMaster.Schema

/-!
Owns the startup query `kInstrumentQuery` and `InstrumentRepository::load`, which
turns its records into rows.

The conversion of seconds to nanoseconds is undefined behaviour outside the range
of `int64`; what the platform gives there is the parameter `outOfRange`.
-/

namespace QuantGateway.SecurityMaster

open QuantGateway.Foundation
open QuantGateway.MarketData

/-- The columns of `kInstrumentQuery`. -/
structure QueryRecord where
  instrumentId : Int
  symbol : Text
  instrumentType : Text
  optionType : Option Text
  strike : Option Numeric
  expirationEpoch : Option Numeric
deriving DecidableEq, Repr

/-- The types the query selects. -/
def queriedTypes : List Text :=
  ["option".toList, "future".toList, "currency".toList]

/-- A row of the query's `FROM` clause. -/
abbrev JoinedRow := ((Instrument × Venue) × Option OptionRow) × Option FutureRow

/-- `COALESCE(o.expiration_timestamp, f.expiration_timestamp)`. -/
def coalescedExpiration (option : Option OptionRow) (future : Option FutureRow) :
    Option Timestamp :=
  (option.bind OptionRow.expirationTimestamp).or (future.bind FutureRow.expirationTimestamp)

/-- The `SELECT` list over an instrument and its subtype rows. -/
def queryRecord (instrument : Instrument) (option : Option OptionRow)
    (future : Option FutureRow) : QueryRecord where
  instrumentId := instrument.instrumentId
  symbol := instrument.symbol
  instrumentType := instrument.instrumentType
  optionType := option.map OptionRow.optionType
  strike := option.map OptionRow.strike
  expirationEpoch := (coalescedExpiration option future).map Timestamp.epoch

def instrumentQuery (tables : Tables) (code : Text) : List QueryRecord :=
  let withVenue := innerJoin
    (fun (row : Instrument) (venue : Venue) => venue.venueId = row.venueId)
    tables.instrument tables.venue
  let withOption := leftJoin
    (fun (row : Instrument × Venue) (option : OptionRow) =>
      option.instrumentId = row.1.instrumentId)
    withVenue tables.option
  let withFuture : List JoinedRow := leftJoin
    (fun (row : (Instrument × Venue) × Option OptionRow) (future : FutureRow) =>
      future.instrumentId = row.1.1.instrumentId)
    withOption tables.future
  let selected := withFuture.filter fun row =>
    row.1.1.2.code = code && queriedTypes.contains row.1.1.1.instrumentType
  (orderBy (fun row => row.1.1.1.instrumentId) selected).map fun row =>
    queryRecord row.1.1.1 row.1.2 row.2

/-- `duration_cast<nanoseconds>(duration<double>{seconds})`. -/
def nanosOfSeconds (outOfRange : Double → Nanos) (seconds : Double) : Nanos :=
  match seconds with
  | .finite value =>
      match ExtendedRational.ofRat (value * 10 ^ 9) with
      | .finite nanoseconds =>
          let truncated := ExtendedRational.truncate nanoseconds
          if -2 ^ 63 ≤ truncated ∧ truncated < 2 ^ 63 then Int64.ofInt truncated
          else outOfRange (.finite nanoseconds)
      | other => outOfRange other
  | other => outOfRange other

/-- The row `load` makes of a record. -/
def loadRow (outOfRange : Double → Nanos) (record : QueryRecord) : InstrumentRow where
  instrumentId := record.instrumentId
  symbol := record.symbol
  instrumentType := record.instrumentType
  optionType := record.optionType
  strike := record.strike.map ExtendedRational.toDouble
  expiration := record.expirationEpoch.map fun epoch => nanosOfSeconds outOfRange epoch.toDouble

def load (outOfRange : Double → Nanos) (tables : Tables) (code : Text) : List InstrumentRow :=
  (instrumentQuery tables code).map (loadRow outOfRange)

/-! ## The query is a lookup for each instrument -/

/-- An instrument the query yields: of the venue and of a queried type. -/
def Tables.queried (tables : Tables) (code : Text) (row : Instrument) : Bool :=
  (tables.venue.any fun venue => venue.venueId = row.venueId ∧ venue.code = code) &&
    queriedTypes.contains row.instrumentType

/-- The record of an instrument. -/
def Tables.recordOf (tables : Tables) (row : Instrument) : QueryRecord :=
  queryRecord row (tables.option.find? fun option => option.instrumentId = row.instrumentId)
    (tables.future.find? fun future => future.instrumentId = row.instrumentId)

/-- With a unique id the venue of a row has the code when some venue with its id
has. -/
theorem any_venue_eq {venues : List Venue} (distinct : (venues.map Venue.venueId).Nodup)
    (id : Int) (code : Text) :
    (venues.any fun venue => venue.venueId = id ∧ venue.code = code) =
      ((venues.find? fun venue => venue.venueId = id).any fun venue => venue.code = code) := by
  have joined := congrArg (fun found => found.any fun venue => decide (venue.code = code))
    (filter_key distinct id)
  simp only [List.any_filter] at joined
  cases found : venues.find? fun venue => venue.venueId = id <;>
    simp_all [Bool.decide_and]

private theorem filterMap_eq_map_filter {A B : Type} (keep : A → Bool) (edit : A → B)
    (rows : List A) :
    rows.filterMap (fun row => if keep row then some (edit row) else none) =
      (rows.filter keep).map edit := by
  induction rows with
  | nil => rfl
  | cons row rest inductionHypothesis =>
      rw [List.filterMap_cons, List.filter_cons, inductionHypothesis]
      cases keep row <;> rfl

/-- What the query selects of one instrument. -/
private theorem selected_record {tables : Tables} (valid : tables.Valid) (code : Text)
    (row : Instrument) :
    ((((tables.venue.find? fun venue => venue.venueId = row.venueId).map fun venue =>
        (((row, venue),
          tables.option.find? fun option => option.instrumentId = row.instrumentId),
          tables.future.find? fun future => future.instrumentId = row.instrumentId)).filter
        fun joined : JoinedRow => joined.1.1.2.code = code &&
          queriedTypes.contains joined.1.1.1.instrumentType).map
        fun joined => queryRecord joined.1.1.1 joined.1.2 joined.2) =
      if tables.queried code row then some (tables.recordOf row) else none := by
  unfold Tables.queried
  rw [any_venue_eq valid.venueKey]
  cases tables.venue.find? fun venue => venue.venueId = row.venueId with
  | none => rfl
  | some venue =>
      simp only [Option.map_some, Option.filter_some, Option.any_some]
      split <;> rfl

/-- The query yields the record of each queried instrument, ordered by id. -/
theorem instrumentQuery_eq {tables : Tables} (valid : tables.Valid) (code : Text) :
    instrumentQuery tables code =
      (orderBy Instrument.instrumentId (tables.instrument.filter (tables.queried code))).map
        tables.recordOf := by
  unfold instrumentQuery
  simp only
  rw [innerJoin_key valid.venueKey Instrument.venueId,
    leftJoin_key valid.optionKey fun row : Instrument × Venue => row.1.instrumentId,
    leftJoin_key valid.futureKey
      fun row : (Instrument × Venue) × Option OptionRow => row.1.1.instrumentId,
    List.map_filterMap, List.map_filterMap, List.filter_filterMap]
  simp only [Option.map_map]
  -- Both sides are ordered records, so the records may be compared before the ordering.
  refine (orderBy_map QueryRecord.instrumentId
    (fun row : JoinedRow => queryRecord row.1.1.1 row.1.2 row.2) _).symm.trans ?_
  refine Eq.trans ?_ (orderBy_map QueryRecord.instrumentId tables.recordOf _)
  rw [List.map_filterMap, ← filterMap_eq_map_filter]
  have records : (fun row => if tables.queried code row then some (tables.recordOf row) else none) =
      _ := funext fun row => (selected_record valid code row).symm
  rw [records]
  rfl

end QuantGateway.SecurityMaster
