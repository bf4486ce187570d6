import QuantGateway.Ingest.Validity

/-!
Owns the repository functions of `reference_data.py` for the schema: the seeding
of the venue and the three upserts, each as the statements it executes in order.

An upsert writes `instrument` before the contract size is narrowed, so one that
raises may leave its instrument in the open transaction. Does not own
`CREATE ... IF NOT EXISTS`, which does nothing once the tables are there.
-/

namespace QuantGateway.Ingest

open QuantGateway.Foundation
open QuantGateway.Foundation.ExtendedRational
open QuantGateway.SecurityMaster

def deribitVenueCode : Text := "DERIBIT".toList

/-- `_as_int`; `int` of a decimal truncates. -/
def asInt : Option Numeric → Except Failure (Option Int)
  | none => .ok none
  | some (.finite value) =>
      let narrowed := truncate value
      if value ≠ narrowed then .error (.nonIntegralContractSize (.finite value))
      else .ok (some narrowed)
  | some (.infinite _) => .error .infiniteContractSize
  | some .nan => .error .nanContractSize

def ensureSchema : Statement Unit := do
  let newId ← nextVenueId
  execute (insertVenue newId deribitVenueCode)
  commit

def getVenueId (code : Text) : Statement Int :=
  execute fun tables =>
    match tables.venue.find? fun venue => venue.code = code with
    | some venue => .ok (venue.venueId, tables)
    | none => .error (.unknownVenue code)

/-- An instrument statement with the id its default gives. -/
def executeInstrument (venueId : Int) (symbol : Option Text) (tickSize : Numeric)
    (instrumentType : Text) : Statement Int := do
  let newId ← nextInstrumentId
  execute (insertInstrument newId venueId symbol tickSize instrumentType)

/-- The statements of both contract upserts, which differ in the subtype table. -/
def upsertContract (venueId : Int) (symbol : Option Text) (tickSize : Numeric)
    (instrumentType : Text) (contractSize : Option Numeric)
    (subtype : Int → Option Int → Tables → Except Failure (Unit × Tables)) : Statement Int := do
  let instrumentId ← executeInstrument venueId symbol tickSize instrumentType
  let contractSize ← Program.ofExcept (asInt contractSize)
  execute (subtype instrumentId contractSize)
  return instrumentId

def upsertOptionContract (venueId : Int) (contract : OptionContract) : Statement Int :=
  upsertContract venueId contract.venueSymbol contract.tickSize "option".toList
    contract.contractSize fun instrumentId contractSize =>
      insertOption instrumentId contract.optionType contract.strike contract.expirationTimestamp
        contractSize contract.creationTimestamp

def upsertFutureContract (venueId : Int) (contract : FutureContract) : Statement Int :=
  if contract.isPerpetual then throw (.perpetualNotIngested contract.venueSymbol)
  else
    upsertContract venueId contract.venueSymbol contract.tickSize "future".toList
      contract.contractSize fun instrumentId contractSize =>
        insertFuture instrumentId contract.settlementPeriod contract.expirationTimestamp
          contractSize contract.creationTimestamp

def ensureCurrencyInstrument (venueId : Int) (symbol : Text) (tickSize : Numeric) :
    Statement Int := do
  let instrumentId ← executeInstrument venueId (some symbol) tickSize "currency".toList
  execute (insertCurrency instrumentId)
  return instrumentId

/-! ## What a successful upsert does -/

/-- An instrument of a venue is upserted and its id returned: the row was there, or
it is the last row now. -/
structure Upserted (venueId : Int) (type name : Text) (id : Int) (before after : Session) :
    Prop where
  committed : after.committed = before.committed
  issued : after.lastInstrumentId = before.lastInstrumentId + 1
  venue : after.working.venue = before.working.venue
  valid : after.working.Valid
  identity :
    (∃ storedType, ⟨venueId, name, id, storedType⟩ ∈ identities before.working ∧
      identities after.working = identities before.working) ∨
    ((∀ identity ∈ identities before.working,
        ¬ (identity.venueId = venueId ∧ identity.symbol = name)) ∧
      identities after.working = identities before.working ++ [⟨venueId, name, id, type⟩])

/-- An upsert together with its row of a subtype table. -/
structure UpsertedInto (table : SubtypeTable) (venueId : Int) (name : Text) (id : Int)
    (before after : Session) : Prop
    extends Upserted venueId table.instrumentType name id before after where
  keys : ∀ other key, key ∈ other.keys after.working ↔
    key ∈ other.keys before.working ∨ other = table ∧ key = id

variable {venueId id : Int} {before after : Session}

section Upserted

variable {type name : Text}

/-- No instrument is lost. -/
theorem Upserted.grows (upserted : Upserted venueId type name id before after) :
    identities before.working ⊆ identities after.working := by
  rcases upserted.identity with ⟨storedType, -, same⟩ | ⟨-, appended⟩
  · rw [same]
    exact List.Subset.refl _
  · rw [appended]
    exact List.subset_append_left _ _

/-- The instrument is stored under the id. -/
theorem Upserted.stored (upserted : Upserted venueId type name id before after) :
    ∃ storedType, ⟨venueId, name, id, storedType⟩ ∈ identities after.working := by
  rcases upserted.identity with ⟨storedType, member, same⟩ | ⟨-, appended⟩
  · exact ⟨storedType, same ▸ member⟩
  · refine ⟨type, ?_⟩
    rw [appended]
    exact List.mem_append_right _ (List.mem_singleton_self _)

/-- No other instrument is added. -/
theorem Upserted.added (upserted : Upserted venueId type name id before after)
    {identity : Identity} (member : identity ∈ identities after.working) :
    identity ∈ identities before.working ∨ identity = ⟨venueId, name, id, type⟩ := by
  rcases upserted.identity with ⟨storedType, -, same⟩ | ⟨-, appended⟩
  · rw [same] at member
    exact .inl member
  · rw [appended] at member
    exact (List.mem_append.mp member).imp_right List.mem_singleton.mp

/-- No row is lost. -/
theorem UpsertedInto.rows {table : SubtypeTable}
    (upserted : UpsertedInto table venueId name id before after) :
    Grows before.working after.working where
  venue := by
    rw [upserted.venue]
    exact List.Subset.refl _
  instrument := upserted.grows
  keys other key member := (upserted.keys other key).mpr (.inl member)

end Upserted

/-- An instrument statement takes the next id and places the instrument. -/
theorem executeInstrument_ok_iff {symbol : Option Text} {tickSize : Numeric} {type : Text} :
    executeInstrument venueId symbol tickSize type before = .ok id after ↔
      ∃ name size working, instrumentColumns symbol tickSize type = .ok (name, size) ∧
        Placed (before.lastInstrumentId + 1) venueId name size type before.working id working ∧
        after =
          { before with
            working := working
            lastInstrumentId := before.lastInstrumentId + 1 } := by
  constructor
  · intro ran
    obtain ⟨newId, middle, next, statement⟩ := Program.bind_ok ran
    cases next
    obtain ⟨working, inserted, rfl⟩ := execute_ok statement
    obtain ⟨name, size, columns, placed⟩ := insertInstrument_ok_iff.mp inserted
    exact ⟨name, size, working, columns, placed, rfl⟩
  · rintro ⟨name, size, working, columns, placed, rfl⟩
    have inserted := insertInstrument_ok_iff.mpr ⟨name, size, columns, placed⟩
    exact (Program.bind_of_ok rfl).trans (execute_of_ok inserted)

theorem executeInstrument_ok {symbol : Option Text} {tickSize : Numeric} {type : Text}
    (valid : before.working.Valid) (positive : 0 ≤ before.lastInstrumentId)
    (ran : executeInstrument venueId symbol tickSize type before = .ok id after) :
    ∃ name, symbol = some name ∧ Upserted venueId type name id before after ∧
      ∀ table : SubtypeTable, table.keys after.working = table.keys before.working := by
  unfold executeInstrument at ran
  obtain ⟨newId, middle, next, ran⟩ := Program.bind_ok ran
  cases next
  obtain ⟨working, inserted, rfl⟩ := execute_ok ran
  obtain ⟨name, named, identity⟩ := insertInstrument_identities inserted
  refine ⟨name, named, ⟨rfl, rfl, ?_, ?_, ?_⟩, ?_⟩
  · exact insertInstrument_venue inserted
  · exact insertInstrument_valid valid (by omega) inserted
  · rcases identity with known | ⟨absent, rfl, appended⟩
    · exact .inl known
    · exact .inr ⟨absent, appended⟩
  · exact insertInstrument_keys inserted

/-- The row of the subtype table is written after the instrument. -/
theorem Upserted.andThen {table : SubtypeTable} {name : Text} {middle : Session}
    {working : Tables}
    (upserted : Upserted venueId table.instrumentType name id before middle)
    (kept : ∀ other : SubtypeTable, other.keys middle.working = other.keys before.working)
    (written : RowWritten table id middle.working working) :
    UpsertedInto table venueId name id before { middle with working := working } := by
  have same : identities working = identities middle.working :=
    congrArg (List.map Identity.of) written.instrument
  refine ⟨⟨upserted.committed, upserted.issued, ?_, written.valid, ?_⟩, ?_⟩
  · exact written.venue.trans upserted.venue
  · have identity := upserted.identity
    rw [← same] at identity
    exact identity
  · intro other key
    rw [← kept other]
    exact written.keys other key

theorem upsertContract_ok {symbol : Option Text} {tickSize : Numeric} {table : SubtypeTable}
    {contractSize : Option Numeric}
    {subtype : Int → Option Int → Tables → Except Failure (Unit × Tables)}
    (writes : ∀ {id size done} {tables after : Tables}, tables.Valid →
      subtype id size tables = .ok (done, after) → RowWritten table id tables after)
    (valid : before.working.Valid) (positive : 0 ≤ before.lastInstrumentId)
    (ran : upsertContract venueId symbol tickSize table.instrumentType contractSize subtype
      before = .ok id after) :
    ∃ name, symbol = some name ∧ UpsertedInto table venueId name id before after := by
  unfold upsertContract at ran
  obtain ⟨instrumentId, middle, instrument, afterInstrument⟩ := Program.bind_ok ran
  obtain ⟨size, narrowed, narrowing, afterNarrowing⟩ := Program.bind_ok afterInstrument
  obtain ⟨done, last, statement, returned⟩ := Program.bind_ok afterNarrowing
  obtain ⟨rfl, rfl⟩ := Program.pure_ok returned
  obtain ⟨-, rfl⟩ := Program.ofExcept_ok narrowing
  obtain ⟨name, named, upserted, kept⟩ := executeInstrument_ok valid positive instrument
  obtain ⟨working, inserted, rfl⟩ := execute_ok statement
  exact ⟨name, named, upserted.andThen kept (writes upserted.valid inserted)⟩

theorem upsertOptionContract_ok {contract : OptionContract} (valid : before.working.Valid)
    (positive : 0 ≤ before.lastInstrumentId)
    (ran : upsertOptionContract venueId contract before = .ok id after) :
    ∃ name, contract.venueSymbol = some name ∧
      UpsertedInto .option venueId name id before after :=
  upsertContract_ok insertOption_writes valid positive ran

theorem upsertFutureContract_ok {contract : FutureContract} (valid : before.working.Valid)
    (positive : 0 ≤ before.lastInstrumentId)
    (ran : upsertFutureContract venueId contract before = .ok id after) :
    ∃ name, contract.venueSymbol = some name ∧
      UpsertedInto .future venueId name id before after := by
  unfold upsertFutureContract at ran
  split at ran
  · cases ran
  · exact upsertContract_ok insertFuture_writes valid positive ran

theorem ensureCurrencyInstrument_ok {symbol : Text} {tickSize : Numeric}
    (valid : before.working.Valid) (positive : 0 ≤ before.lastInstrumentId)
    (ran : ensureCurrencyInstrument venueId symbol tickSize before = .ok id after) :
    UpsertedInto .currencies venueId symbol id before after := by
  unfold ensureCurrencyInstrument at ran
  obtain ⟨instrumentId, middle, instrument, ran⟩ := Program.bind_ok ran
  obtain ⟨done, last, subtype, ran⟩ := Program.bind_ok ran
  obtain ⟨rfl, rfl⟩ := Program.pure_ok ran
  obtain ⟨name, named, upserted, kept⟩ := executeInstrument_ok valid positive instrument
  obtain rfl := Option.some.inj named
  obtain ⟨working, inserted, rfl⟩ := execute_ok subtype
  exact upserted.andThen kept (insertCurrency_writes upserted.valid inserted)

/-! ## The schema and the venue -/

/-- The venue is seeded and committed; the sequence of instruments is not used. -/
theorem ensureSchema_ok {done : Unit} (valid : before.working.Valid)
    (ran : ensureSchema before = .ok done after) :
    after.committed = after.working ∧ after.working.Valid ∧
      after.lastInstrumentId = before.lastInstrumentId ∧
      after.working.instrument = before.working.instrument ∧
      ∀ venue ∈ after.working.venue, venue ∈ before.working.venue ∨
        venue.code = deribitVenueCode := by
  unfold ensureSchema at ran
  obtain ⟨newId, middle, next, ran⟩ := Program.bind_ok ran
  cases next
  obtain ⟨_, seeded, insertion, ran⟩ := Program.bind_ok ran
  obtain ⟨working, inserted, rfl⟩ := execute_ok insertion
  cases ran
  obtain ⟨instruments, venues⟩ := insertVenue_ok inserted
  exact ⟨rfl, insertVenue_valid valid inserted, rfl, instruments, venues⟩

theorem getVenueId_ok {code : Text} (ran : getVenueId code before = .ok id after) :
    after = before ∧ ⟨id, code⟩ ∈ before.working.venue := by
  obtain ⟨working, looked, rfl⟩ := execute_ok ran
  split at looked
  next venue found =>
    cases looked
    obtain ⟨member, rfl⟩ := mem_of_find?_key found
    exact ⟨rfl, member⟩
  next => cases looked

/-! ## Properties of the upserts -/

open Program

section Closed

variable {property : ∀ A : Type, Statement A → Prop}

/-- A contract upsert has what its two statements have. -/
theorem upsertContract_closed (closed : Closed property) {symbol : Option Text}
    {tickSize : Numeric} {type : Text} {contractSize : Option Numeric}
    {subtype : Int → Option Int → Tables → Except Failure (Unit × Tables)}
    (instrument : property Int (executeInstrument venueId symbol tickSize type))
    (rows : ∀ id size, property Unit (execute (subtype id size))) :
    property Int (upsertContract venueId symbol tickSize type contractSize subtype) := by
  apply closed.bind instrument
  intro id
  apply closed.bind (closed.ofExcept _)
  intro size
  apply closed.bind (rows id size)
  intro done
  exact closed.pure id

theorem ensureCurrencyInstrument_closed (closed : Closed property) {symbol : Text}
    {tickSize : Numeric}
    (instrument : property Int
      (executeInstrument venueId (some symbol) tickSize "currency".toList))
    (rows : ∀ id, property Unit (execute (insertCurrency id))) :
    property Int (ensureCurrencyInstrument venueId symbol tickSize) := by
  apply closed.bind instrument
  intro id
  apply closed.bind (rows id)
  intro done
  exact closed.pure id

end Closed

/-! ## What every statement of a transaction keeps -/

/-- A relation of sessions that the statements of the upserts respect, whether they
fail or not. -/
structure Frame (relation : Session → Session → Prop) : Prop where
  refl : ∀ session, relation session session
  trans : ∀ first second third, relation first second → relation second third →
    relation first third
  instrument : ∀ venueId symbol tickSize type,
    Keeps relation (executeInstrument venueId symbol tickSize type)
  subtype : ∀ {table : SubtypeTable} {id : Int}
      {statement : Tables → Except Failure (Unit × Tables)},
    (∀ {tables done after}, tables.Valid → statement tables = .ok (done, after) →
      RowWritten table id tables after) → Keeps relation (execute statement)

namespace Frame

variable {relation : Session → Session → Prop}

theorem closed (frame : Frame relation) :
    Closed fun _ (statement : Statement _) => Keeps relation statement :=
  Keeps.closed frame.refl frame.trans

theorem upsertContract (frame : Frame relation) (table : SubtypeTable) {symbol : Option Text}
    {tickSize : Numeric} {contractSize : Option Numeric}
    {subtype : Int → Option Int → Tables → Except Failure (Unit × Tables)}
    (writes : ∀ {id size done} {tables after : Tables}, tables.Valid →
      subtype id size tables = .ok (done, after) → RowWritten table id tables after) :
    Keeps relation
      (upsertContract venueId symbol tickSize table.instrumentType contractSize subtype) :=
  upsertContract_closed frame.closed (frame.instrument _ _ _ _) fun _ _ => frame.subtype writes

theorem upsertOptionContract (frame : Frame relation) (venueId : Int) (contract : OptionContract) :
    Keeps relation (upsertOptionContract venueId contract) :=
  frame.upsertContract .option insertOption_writes

theorem upsertFutureContract (frame : Frame relation) (venueId : Int) (contract : FutureContract) :
    Keeps relation (upsertFutureContract venueId contract) := by
  unfold Ingest.upsertFutureContract
  split
  · exact frame.closed.throw _
  · exact frame.upsertContract .future insertFuture_writes

theorem ensureCurrencyInstrument (frame : Frame relation) (venueId : Int) (symbol : Text)
    (tickSize : Numeric) :
    Keeps relation (ensureCurrencyInstrument venueId symbol tickSize) :=
  ensureCurrencyInstrument_closed frame.closed (frame.instrument _ _ _ _) fun _ =>
    frame.subtype insertCurrency_writes

end Frame

/-- Nothing is committed and no id is given twice. -/
def Uncommitted (before after : Session) : Prop :=
  after.committed = before.committed ∧ before.lastInstrumentId ≤ after.lastInstrumentId

theorem Uncommitted.refl (session : Session) : Uncommitted session session :=
  ⟨rfl, le_refl _⟩

theorem Uncommitted.trans (first second third : Session) (here : Uncommitted first second)
    (there : Uncommitted second third) : Uncommitted first third :=
  ⟨there.1.trans here.1, here.2.trans there.2⟩

theorem execute_uncommitted {A : Type} (statement : Tables → Except Failure (A × Tables)) :
    Keeps Uncommitted (execute statement) := by
  intro session
  unfold execute
  split
  · exact ⟨rfl, le_refl _⟩
  · exact Uncommitted.refl session

theorem executeInstrument_uncommitted (venueId : Int) (symbol : Option Text) (tickSize : Numeric)
    (type : Text) : Keeps Uncommitted (executeInstrument venueId symbol tickSize type) := by
  have next : Keeps Uncommitted nextInstrumentId := by
    intro session
    exact ⟨rfl, by simp [nextInstrumentId, finalState]⟩
  apply Keeps.bind Uncommitted.trans next
  intro newId
  exact execute_uncommitted _

theorem uncommitted_frame : Frame Uncommitted where
  refl := Uncommitted.refl
  trans := Uncommitted.trans
  instrument := executeInstrument_uncommitted
  subtype _ := execute_uncommitted _

end QuantGateway.Ingest
