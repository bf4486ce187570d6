import QuantGateway.Foundation.Keyed
import QuantGateway.Ingest.Payload

/-!
Owns the SQL statements of `reference_data.py` as programs over one connection:
the conversions to the column types, `NOT NULL`, `CHECK`, key and foreign key
violations, `ON CONFLICT` and the sequences, which no rollback takes back.

The two statements that write `instrument` differ in a literal only and are one
definition. Each statement has one lemma that says everything its success means.
-/

namespace QuantGateway.Ingest

open QuantGateway.Foundation
open QuantGateway.Foundation.ExtendedRational
open QuantGateway.SecurityMaster

/-- A connection: what is committed, what its open transaction sees, and the last
values of the two sequences. -/
structure Session where
  committed : Tables
  working : Tables
  lastVenueId : Int
  lastInstrumentId : Int
deriving DecidableEq, Repr

abbrev Statement (Value : Type) := Program Failure Session Value

/-- Run a statement on the open transaction. -/
def execute {A : Type} (statement : Tables → Except Failure (A × Tables)) : Statement A :=
  fun session =>
    match statement session.working with
    | .ok (value, working) => .ok value { session with working := working }
    | .error failure => .error failure session

def commit : Statement Unit :=
  fun session => .ok () { session with committed := session.working }

/-- `nextval` of the sequence of `venue_id`. -/
def nextVenueId : Statement Int :=
  fun session => .ok (session.lastVenueId + 1)
    { session with lastVenueId := session.lastVenueId + 1 }

/-- `nextval` of the sequence of `instrument_id`. -/
def nextInstrumentId : Statement Int :=
  fun session => .ok (session.lastInstrumentId + 1)
    { session with lastInstrumentId := session.lastInstrumentId + 1 }

/-! ## Column types -/

/-- Assignment to a `numeric(20, 8)` column. -/
def numericColumn (column : Text) : Numeric → Except Failure Numeric
  | .finite value =>
      let rounded : ℚ := roundHalfAway (value * 10 ^ 8) / 10 ^ 8
      if |rounded| < 10 ^ 12 then .ok (.finite rounded)
      else .error (.numericValueOutOfRange column)
  | .infinite _ => .error (.numericValueOutOfRange column)
  | .nan => .ok .nan

/-- Assignment to an `int` column. -/
def intColumn (column : Text) : Option Int → Except Failure (Option Int)
  | none => .ok none
  | some value =>
      if -2 ^ 31 ≤ value ∧ value < 2 ^ 31 then .ok (some value)
      else .error (.numericValueOutOfRange column)

/-- A `text NOT NULL` column with a `CHECK`. -/
def checkedColumn (column : Text) (check : Text → Bool) : Option Text → Except Failure Text
  | none => .error (.notNullViolation column)
  | some value => if check value then .ok value else .error (.checkViolation column)

/-- The foreign key of a subtype row; a row that is there already has its parent. -/
def parentKey (table : Text) (keys : List Int) (instrumentId : Int) (tables : Tables) :
    Except Failure Unit :=
  if instrumentId ∈ keys ∨ tables.HasInstrument instrumentId then .ok ()
  else .error (.foreignKeyViolation table)

/-! ## Statements -/

/-- `INSERT INTO venue (code) ... ON CONFLICT (code) DO NOTHING`. -/
def insertVenue (newId : Int) (code : Text) (tables : Tables) : Except Failure (Unit × Tables) :=
  if ∃ venue ∈ tables.venue, venue.code = code then .ok ((), tables)
  else if newId ∈ tables.venue.map Venue.venueId then .error (.uniqueViolation "venue".toList)
  else .ok ((), { tables with venue := tables.venue ++ [⟨newId, code⟩] })

/-- The rows with the tick size of one instrument set. -/
def setTickSize (venueId : Int) (symbol : Text) (tickSize : Numeric) (rows : List Instrument) :
    List Instrument :=
  rows.map fun row =>
    if row.venueId = venueId ∧ row.symbol = symbol then { row with tickSize := tickSize } else row

/-- `_UPSERT_INSTRUMENT_SQL` and `_ENSURE_CURRENCY_INSTRUMENT_SQL`: insert, or on a
conflict of `(venue_id, symbol)` set the tick size, and return the id. -/
def insertInstrument (newId venueId : Int) (symbol : Option Text) (tickSize : Numeric)
    (instrumentType : Text) (tables : Tables) : Except Failure (Int × Tables) := do
  let tickSize ← numericColumn "tick_size".toList tickSize
  let symbol ← checkedColumn "symbol".toList (fun _ => true) symbol
  let instrumentType ←
    checkedColumn "instrument_type".toList instrumentTypes.contains (some instrumentType)
  match tables.instrument.find? fun row => row.venueId = venueId ∧ row.symbol = symbol with
  | some existing =>
      .ok (existing.instrumentId,
        { tables with instrument := setTickSize venueId symbol tickSize tables.instrument })
  | none =>
      if tables.HasInstrument newId then .error (.uniqueViolation "instrument".toList)
      else if venueId ∉ tables.venue.map Venue.venueId then
        .error (.foreignKeyViolation "instrument".toList)
      else
        .ok (newId,
          { tables with
            instrument :=
              tables.instrument ++ [⟨newId, venueId, tickSize, instrumentType, symbol⟩] })

/-- `_UPSERT_OPTION_SQL`. -/
def insertOption (instrumentId : Int) (optionType : Option Text) (strike : Numeric)
    (expirationTimestamp : Option Timestamp) (contractSize : Option Int)
    (creationTimestamp : Option Timestamp) (tables : Tables) : Except Failure (Unit × Tables) := do
  let strike ← numericColumn "strike".toList strike
  let contractSize ← intColumn "contract_size".toList contractSize
  let optionType ← checkedColumn "option_type".toList optionTypes.contains optionType
  parentKey "option".toList (tables.option.map OptionRow.instrumentId) instrumentId tables
  return ((),
    { tables with
      option := upsert OptionRow.instrumentId
        ⟨instrumentId, optionType, strike, expirationTimestamp, contractSize, creationTimestamp⟩
        tables.option })

/-- `_UPSERT_FUTURE_SQL`. -/
def insertFuture (instrumentId : Int) (settlementPeriod : Option Text)
    (expirationTimestamp : Option Timestamp) (contractSize : Option Int)
    (creationTimestamp : Option Timestamp) (tables : Tables) : Except Failure (Unit × Tables) := do
  let contractSize ← intColumn "contract_size".toList contractSize
  let settlementPeriod ←
    checkedColumn "settlement_period".toList (· ≠ perpetualPeriod) settlementPeriod
  parentKey "future".toList (tables.future.map FutureRow.instrumentId) instrumentId tables
  return ((),
    { tables with
      future := upsert FutureRow.instrumentId
        ⟨instrumentId, settlementPeriod, expirationTimestamp, contractSize, creationTimestamp⟩
        tables.future })

/-- `_ENSURE_CURRENCIES_ROW_SQL`; a row is its id, so doing nothing on a conflict
is replacing the row by itself. -/
def insertCurrency (instrumentId : Int) (tables : Tables) : Except Failure (Unit × Tables) := do
  parentKey "currencies".toList (tables.currencies.map CurrencyRow.instrumentId) instrumentId tables
  return ((),
    { tables with
      currencies := upsert CurrencyRow.instrumentId ⟨instrumentId⟩ tables.currencies })

/-! ## The columns apart from the tables -/

/-- The symbol and the tick size an instrument statement writes. -/
def instrumentColumns (symbol : Option Text) (tickSize : Numeric) (instrumentType : Text) :
    Except Failure (Text × Numeric) := do
  let tickSize ← numericColumn "tick_size".toList tickSize
  let symbol ← checkedColumn "symbol".toList (fun _ => true) symbol
  let _ ← checkedColumn "instrument_type".toList instrumentTypes.contains (some instrumentType)
  return (symbol, tickSize)

/-- The row an option statement writes. -/
def optionColumns (instrumentId : Int) (optionType : Option Text) (strike : Numeric)
    (expirationTimestamp : Option Timestamp) (contractSize : Option Int)
    (creationTimestamp : Option Timestamp) : Except Failure OptionRow := do
  let strike ← numericColumn "strike".toList strike
  let contractSize ← intColumn "contract_size".toList contractSize
  let optionType ← checkedColumn "option_type".toList optionTypes.contains optionType
  return ⟨instrumentId, optionType, strike, expirationTimestamp, contractSize, creationTimestamp⟩

/-- The row a future statement writes. -/
def futureColumns (instrumentId : Int) (settlementPeriod : Option Text)
    (expirationTimestamp : Option Timestamp) (contractSize : Option Int)
    (creationTimestamp : Option Timestamp) : Except Failure FutureRow := do
  let contractSize ← intColumn "contract_size".toList contractSize
  let settlementPeriod ←
    checkedColumn "settlement_period".toList (· ≠ perpetualPeriod) settlementPeriod
  return ⟨instrumentId, settlementPeriod, expirationTimestamp, contractSize, creationTimestamp⟩

/-- What an instrument statement does with converted columns: the instrument is
there and only its tick size is set, or it is appended under the next id. -/
inductive Placed (newId venueId : Int) (symbol : Text) (tickSize : Numeric) (instrumentType : Text)
    (tables : Tables) : Int → Tables → Prop where
  | known {existing : Instrument}
      (found : (tables.instrument.find? fun row => row.venueId = venueId ∧ row.symbol = symbol) =
        some existing) :
      Placed newId venueId symbol tickSize instrumentType tables existing.instrumentId
        { tables with instrument := setTickSize venueId symbol tickSize tables.instrument }
  | appended
      (missing : (tables.instrument.find? fun row => row.venueId = venueId ∧ row.symbol = symbol) =
        none)
      (freshId : ¬ tables.HasInstrument newId)
      (knownVenue : venueId ∈ tables.venue.map Venue.venueId) :
      Placed newId venueId symbol tickSize instrumentType tables newId
        { tables with
          instrument :=
            tables.instrument ++ [⟨newId, venueId, tickSize, instrumentType, symbol⟩] }

/-! ## What a statement's success means -/

theorem execute_ok {A : Type} {statement : Tables → Except Failure (A × Tables)}
    {session last : Session} {value : A} (ran : execute statement session = .ok value last) :
    ∃ working, statement session.working = .ok (value, working) ∧
      last = { session with working := working } := by
  unfold execute at ran
  split at ran
  next result working succeeded =>
    cases ran
    exact ⟨working, succeeded, rfl⟩
  next => cases ran

theorem execute_of_ok {A : Type} {statement : Tables → Except Failure (A × Tables)}
    {session : Session} {working : Tables} {value : A}
    (ran : statement session.working = .ok (value, working)) :
    execute statement session = .ok value { session with working := working } := by
  unfold execute
  rw [ran]

theorem checkedColumn_ok {column : Text} {check : Text → Bool} {given : Option Text} {value : Text}
    (accepted : checkedColumn column check given = .ok value) :
    given = some value ∧ check value = true := by
  unfold checkedColumn at accepted
  split at accepted
  next => cases accepted
  next =>
    split at accepted
    next passed =>
      cases accepted
      exact ⟨rfl, passed⟩
    next => cases accepted

theorem parentKey_ok {table : Text} {keys : List Int} {instrumentId : Int} {tables : Tables}
    {done : Unit} (accepted : parentKey table keys instrumentId tables = .ok done) :
    instrumentId ∈ keys ∨ tables.HasInstrument instrumentId := by
  unfold parentKey at accepted
  split at accepted
  next present => exact present
  next => cases accepted

theorem parentKey_of {table : Text} {keys : List Int} {instrumentId : Int} {tables : Tables}
    (present : instrumentId ∈ keys ∨ tables.HasInstrument instrumentId) :
    parentKey table keys instrumentId tables = .ok () :=
  if_pos present

/-- The venue is there already, or it is appended under the next id. -/
theorem insertVenue_ok_iff {newId : Int} {code : Text} {tables after : Tables} {done : Unit} :
    insertVenue newId code tables = .ok (done, after) ↔
      ((∃ venue ∈ tables.venue, venue.code = code) ∧ after = tables) ∨
        ((¬ ∃ venue ∈ tables.venue, venue.code = code) ∧
          newId ∉ tables.venue.map Venue.venueId ∧
          after = { tables with venue := tables.venue ++ [⟨newId, code⟩] }) := by
  unfold insertVenue
  constructor
  · intro ran
    split at ran
    next seeded =>
      cases ran
      exact .inl ⟨seeded, rfl⟩
    next freshCode =>
      split at ran
      next => cases ran
      next freshId =>
        cases ran
        exact .inr ⟨freshCode, freshId, rfl⟩
  · rintro (⟨seeded, rfl⟩ | ⟨freshCode, freshId, rfl⟩)
    · exact if_pos seeded
    · rw [if_neg freshCode, if_neg freshId]

theorem instrumentColumns_ok_iff {symbol : Option Text} {tickSize size : Numeric}
    {instrumentType name : Text} :
    instrumentColumns symbol tickSize instrumentType = .ok (name, size) ↔
      instrumentType ∈ instrumentTypes ∧ symbol = some name ∧
        numericColumn "tick_size".toList tickSize = .ok size := by
  constructor
  · intro ran
    unfold instrumentColumns at ran
    obtain ⟨stored, converted, ran⟩ := except_bind_ok ran
    obtain ⟨present, named, ran⟩ := except_bind_ok ran
    obtain ⟨type, typed, ran⟩ := except_bind_ok ran
    cases ran
    obtain ⟨isName, -⟩ := checkedColumn_ok named
    obtain ⟨isType, inTypes⟩ := checkedColumn_ok typed
    obtain rfl := Option.some.inj isType
    exact ⟨by simpa using inTypes, isName, converted⟩
  · rintro ⟨inTypes, rfl, converted⟩
    have typed : instrumentTypes.contains instrumentType = true := by simpa using inTypes
    unfold instrumentColumns
    rw [converted]
    simp only [bind, Except.bind, checkedColumn, if_true, typed]
    rfl

/-- An instrument statement converts its columns and places the instrument. -/
theorem insertInstrument_ok_iff {newId venueId id : Int} {symbol : Option Text} {tickSize : Numeric}
    {instrumentType : Text} {tables after : Tables} :
    insertInstrument newId venueId symbol tickSize instrumentType tables = .ok (id, after) ↔
      ∃ name size, instrumentColumns symbol tickSize instrumentType = .ok (name, size) ∧
        Placed newId venueId name size instrumentType tables id after := by
  constructor
  · intro ran
    unfold insertInstrument at ran
    obtain ⟨size, converted, ran⟩ := except_bind_ok ran
    obtain ⟨name, named, ran⟩ := except_bind_ok ran
    obtain ⟨type, typed, ran⟩ := except_bind_ok ran
    obtain ⟨isName, -⟩ := checkedColumn_ok named
    obtain ⟨isType, inTypes⟩ := checkedColumn_ok typed
    obtain rfl := Option.some.inj isType
    have columns := instrumentColumns_ok_iff.mpr ⟨by simpa using inTypes, isName, converted⟩
    refine ⟨name, size, columns, ?_⟩
    split at ran
    next existing found =>
      cases ran
      exact .known found
    next missing =>
      split at ran
      next => cases ran
      next freshId =>
        split at ran
        next => cases ran
        next known =>
          cases ran
          exact .appended missing freshId (not_not.mp known)
  · rintro ⟨name, size, columns, placed⟩
    obtain ⟨inTypes, rfl, converted⟩ := instrumentColumns_ok_iff.mp columns
    have typed : instrumentTypes.contains instrumentType = true := by simpa using inTypes
    unfold insertInstrument
    rw [converted]
    simp only [bind, Except.bind, checkedColumn, if_true, typed]
    cases placed with
    | known found => rw [found]
    | appended missing freshId knownVenue =>
        rw [missing]
        simp only
        rw [if_neg freshId, if_neg (not_not.mpr knownVenue)]

/-- The instrument is new and gets the next id, or it is there and keeps all but
its tick size. -/
theorem insertInstrument_ok {newId venueId id : Int} {symbol : Option Text} {tickSize : Numeric}
    {instrumentType : Text} {tables after : Tables}
    (ran : insertInstrument newId venueId symbol tickSize instrumentType tables = .ok (id, after)) :
    instrumentType ∈ instrumentTypes ∧ ∃ name size, symbol = some name ∧
      ((∃ existing ∈ tables.instrument, existing.venueId = venueId ∧ existing.symbol = name ∧
          existing.instrumentId = id ∧
          after = { tables with instrument := setTickSize venueId name size tables.instrument }) ∨
        ((∀ row ∈ tables.instrument, ¬ (row.venueId = venueId ∧ row.symbol = name)) ∧
          id = newId ∧ ¬ tables.HasInstrument newId ∧
          venueId ∈ tables.venue.map Venue.venueId ∧
          after = { tables with
            instrument :=
              tables.instrument ++ [⟨newId, venueId, size, instrumentType, name⟩] })) := by
  obtain ⟨name, size, columns, placed⟩ := insertInstrument_ok_iff.mp ran
  obtain ⟨inTypes, isName, -⟩ := instrumentColumns_ok_iff.mp columns
  refine ⟨inTypes, name, size, isName, ?_⟩
  cases placed with
  | @known existing found =>
      have holds := List.find?_some found
      simp only [decide_eq_true_eq] at holds
      exact .inl ⟨existing, List.mem_of_find?_eq_some found, holds.1, holds.2, rfl, rfl⟩
  | appended missing freshId knownVenue =>
      refine .inr ⟨?_, rfl, freshId, knownVenue, rfl⟩
      intro row member same
      have absent := List.find?_eq_none.mp missing row member
      simp [same] at absent

theorem optionColumns_ok {instrumentId : Int} {optionType : Option Text} {strike : Numeric}
    {expiration creation : Option Timestamp} {size : Option Int} {row : OptionRow}
    (ran : optionColumns instrumentId optionType strike expiration size creation = .ok row) :
    row.instrumentId = instrumentId ∧ optionType = some row.optionType ∧
      row.optionType ∈ optionTypes := by
  unfold optionColumns at ran
  obtain ⟨stored, -, ran⟩ := except_bind_ok ran
  obtain ⟨narrowed, -, ran⟩ := except_bind_ok ran
  obtain ⟨type, typed, ran⟩ := except_bind_ok ran
  obtain ⟨isType, inTypes⟩ := checkedColumn_ok typed
  cases ran
  exact ⟨rfl, isType, by simpa using inTypes⟩

theorem futureColumns_ok {instrumentId : Int} {settlementPeriod : Option Text}
    {expiration creation : Option Timestamp} {size : Option Int} {row : FutureRow}
    (ran : futureColumns instrumentId settlementPeriod expiration size creation = .ok row) :
    row.instrumentId = instrumentId ∧ row.settlementPeriod ≠ perpetualPeriod := by
  unfold futureColumns at ran
  obtain ⟨narrowed, -, ran⟩ := except_bind_ok ran
  obtain ⟨period, checked, ran⟩ := except_bind_ok ran
  obtain ⟨-, dated⟩ := checkedColumn_ok checked
  cases ran
  exact ⟨rfl, by simpa using dated⟩

/-- What the statements of the subtype tables have in common. -/
theorem subtypeStatement_ok_iff {Row : Type} {columns : Except Failure Row} {table : Text}
    {keys : List Int} {instrumentId : Int} {tables after : Tables} {written : Row → Tables}
    {done : Unit} :
    (do
      let row ← columns
      parentKey table keys instrumentId tables
      return ((), written row)) = .ok (done, after) ↔
      ∃ row, columns = .ok row ∧ (instrumentId ∈ keys ∨ tables.HasInstrument instrumentId) ∧
        after = written row := by
  constructor
  · intro ran
    obtain ⟨row, converted, ran⟩ := except_bind_ok ran
    obtain ⟨_, parent, ran⟩ := except_bind_ok ran
    cases ran
    exact ⟨row, converted, parentKey_ok parent, rfl⟩
  · rintro ⟨row, rfl, parent, rfl⟩
    simp only [bind, Except.bind, parentKey_of parent]
    rfl

/-- An option statement upserts the converted row if it has a parent. -/
theorem insertOption_ok_iff {instrumentId : Int} {optionType : Option Text} {strike : Numeric}
    {expiration creation : Option Timestamp} {size : Option Int} {tables after : Tables}
    {done : Unit} :
    insertOption instrumentId optionType strike expiration size creation tables =
        .ok (done, after) ↔
      ∃ row, optionColumns instrumentId optionType strike expiration size creation = .ok row ∧
        (instrumentId ∈ tables.option.map OptionRow.instrumentId ∨
          tables.HasInstrument instrumentId) ∧
        after = { tables with option := upsert OptionRow.instrumentId row tables.option } := by
  have separate : insertOption instrumentId optionType strike expiration size creation tables =
      (do
        let row ← optionColumns instrumentId optionType strike expiration size creation
        parentKey "option".toList (tables.option.map OptionRow.instrumentId) instrumentId tables
        return ((),
          { tables with option := upsert OptionRow.instrumentId row tables.option })) := by
    simp only [insertOption, optionColumns, bind_assoc, pure_bind]
  rw [separate]
  exact subtypeStatement_ok_iff

/-- A future statement upserts the converted row if it has a parent. -/
theorem insertFuture_ok_iff {instrumentId : Int} {settlementPeriod : Option Text}
    {expiration creation : Option Timestamp} {size : Option Int} {tables after : Tables}
    {done : Unit} :
    insertFuture instrumentId settlementPeriod expiration size creation tables =
        .ok (done, after) ↔
      ∃ row, futureColumns instrumentId settlementPeriod expiration size creation = .ok row ∧
        (instrumentId ∈ tables.future.map FutureRow.instrumentId ∨
          tables.HasInstrument instrumentId) ∧
        after = { tables with future := upsert FutureRow.instrumentId row tables.future } := by
  have separate : insertFuture instrumentId settlementPeriod expiration size creation tables =
      (do
        let row ← futureColumns instrumentId settlementPeriod expiration size creation
        parentKey "future".toList (tables.future.map FutureRow.instrumentId) instrumentId tables
        return ((),
          { tables with future := upsert FutureRow.instrumentId row tables.future })) := by
    simp only [insertFuture, futureColumns, bind_assoc, pure_bind]
  rw [separate]
  exact subtypeStatement_ok_iff

theorem insertOption_ok {instrumentId : Int} {optionType : Option Text} {strike : Numeric}
    {expiration creation : Option Timestamp} {size : Option Int} {tables after : Tables}
    {done : Unit}
    (ran : insertOption instrumentId optionType strike expiration size creation tables =
      .ok (done, after)) :
    ∃ row : OptionRow, row.instrumentId = instrumentId ∧ optionType = some row.optionType ∧
      row.optionType ∈ optionTypes ∧
      (instrumentId ∈ tables.option.map OptionRow.instrumentId ∨
        tables.HasInstrument instrumentId) ∧
      after = { tables with option := upsert OptionRow.instrumentId row tables.option } := by
  obtain ⟨row, columns, parent, isAfter⟩ := insertOption_ok_iff.mp ran
  obtain ⟨keyed, typed, inTypes⟩ := optionColumns_ok columns
  exact ⟨row, keyed, typed, inTypes, parent, isAfter⟩

theorem insertFuture_ok {instrumentId : Int} {settlementPeriod : Option Text}
    {expiration creation : Option Timestamp} {size : Option Int} {tables after : Tables}
    {done : Unit}
    (ran : insertFuture instrumentId settlementPeriod expiration size creation tables =
      .ok (done, after)) :
    ∃ row : FutureRow, row.instrumentId = instrumentId ∧
      row.settlementPeriod ≠ perpetualPeriod ∧
      (instrumentId ∈ tables.future.map FutureRow.instrumentId ∨
        tables.HasInstrument instrumentId) ∧
      after = { tables with future := upsert FutureRow.instrumentId row tables.future } := by
  obtain ⟨row, columns, parent, isAfter⟩ := insertFuture_ok_iff.mp ran
  obtain ⟨keyed, dated⟩ := futureColumns_ok columns
  exact ⟨row, keyed, dated, parent, isAfter⟩

theorem insertCurrency_ok_iff {instrumentId : Int} {tables after : Tables} {done : Unit} :
    insertCurrency instrumentId tables = .ok (done, after) ↔
      (instrumentId ∈ tables.currencies.map CurrencyRow.instrumentId ∨
        tables.HasInstrument instrumentId) ∧
        after = { tables with
          currencies := upsert CurrencyRow.instrumentId ⟨instrumentId⟩ tables.currencies } := by
  constructor
  · intro ran
    unfold insertCurrency at ran
    obtain ⟨_, parent, ran⟩ := except_bind_ok ran
    cases ran
    exact ⟨parentKey_ok parent, rfl⟩
  · rintro ⟨parent, rfl⟩
    unfold insertCurrency
    simp only [bind, Except.bind, parentKey_of parent]
    rfl

end QuantGateway.Ingest
