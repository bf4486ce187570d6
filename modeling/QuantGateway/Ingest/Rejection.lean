import QuantGateway.Ingest.ReferenceIngest
import QuantGateway.Ingest.Transactions

/-!
Owns what a contract upsert that raises `ValueError` leaves on its connection. The
check for a perpetual stands before every statement, the check of the contract
size behind the instrument statement, whose effect then stays in the open
transaction.

Does not own the rollback that a caller may follow it with (`Ingest.Atomicity`).
-/

namespace QuantGateway.Ingest

open QuantGateway.Foundation
open QuantGateway.Foundation.ExtendedRational
open QuantGateway.Foundation.Program
open QuantGateway.SecurityMaster

/-- The `ValueError`s of the upserts: `int` raises one for NaN too. -/
def Failure.isValueError : Failure → Bool
  | .perpetualNotIngested _ => true
  | .nonIntegralContractSize _ => true
  | .nanContractSize => true
  | _ => false

theorem Failure.not_isValueError {failure : Failure} (aborts : failure.aborts = true) :
    failure.isValueError = false := by
  cases failure <;> first | rfl | cases aborts

/-- A call that raises `ValueError` leaves the three tables as the connection saw
them before. -/
def RejectionLeavesTables (upsert : Statement Int) (before : Session) : Prop :=
  ∀ failure after, upsert before = .error failure after → failure.isValueError = true →
    after.working.instrument = before.working.instrument ∧
      after.working.option = before.working.option ∧
      after.working.future = before.working.future

/-- The contract size is a number but no integer. -/
def Fractional (contractSize : Option Numeric) : Prop :=
  contractSize = some .nan ∨
    ∃ value, contractSize = some (.finite value) ∧ ∀ whole : Int, value ≠ whole

/-- The instrument statement would change the table `instrument`: its columns
convert, and the symbol is new and can be stored or has another tick size. -/
def TouchesInstrument (venueId : Int) (symbol : Option Text) (tickSize : Numeric)
    (session : Session) : Prop :=
  ∃ name size, symbol = some name ∧ numericColumn "tick_size".toList tickSize = .ok size ∧
    ((∃ row ∈ session.working.instrument, row.venueId = venueId ∧ row.symbol = name ∧
        row.tickSize ≠ size) ∨
      ((∀ row ∈ session.working.instrument, ¬ (row.venueId = venueId ∧ row.symbol = name)) ∧
        ¬ session.working.HasInstrument (session.lastInstrumentId + 1) ∧
        venueId ∈ session.working.venue.map Venue.venueId))

/-! ## What statements raise -/

/-- A computation of the database raises nothing but failures of the database. -/
def Aborts {A : Type} (computation : Except Failure A) : Prop :=
  ∀ failure, computation = .error failure → failure.aborts = true

theorem Aborts.ok {A : Type} (value : A) : Aborts (.ok value) :=
  fun _ raised => by cases raised

theorem Aborts.error {A : Type} {failure : Failure} (aborts : failure.aborts = true) :
    Aborts (.error failure : Except Failure A) := by
  intro other raised
  cases raised
  exact aborts

theorem Aborts.bind {A B : Type} {first : Except Failure A} {next : A → Except Failure B}
    (abortsFirst : Aborts first) (abortsNext : ∀ value, Aborts (next value)) :
    Aborts (first >>= next) := by
  intro failure raised
  rcases except_bind_error raised with here | ⟨value, -, there⟩
  · exact abortsFirst failure here
  · exact abortsNext value failure there

theorem numericColumn_aborts (column : Text) (value : Numeric) :
    Aborts (numericColumn column value) := by
  unfold numericColumn
  split
  · simp only
    split
    · exact .ok _
    · exact .error rfl
  · exact .error rfl
  · exact .ok _

theorem intColumn_aborts (column : Text) (value : Option Int) :
    Aborts (intColumn column value) := by
  unfold intColumn
  split
  · exact .ok _
  · split
    · exact .ok _
    · exact .error rfl

theorem checkedColumn_aborts (column : Text) (check : Text → Bool) (value : Option Text) :
    Aborts (checkedColumn column check value) := by
  unfold checkedColumn
  split
  · exact .error rfl
  · split
    · exact .ok _
    · exact .error rfl

theorem parentKey_aborts (table : Text) (keys : List Int) (instrumentId : Int) (tables : Tables) :
    Aborts (parentKey table keys instrumentId tables) := by
  unfold parentKey
  split
  · exact .ok _
  · exact .error rfl

theorem insertInstrument_aborts (newId venueId : Int) (symbol : Option Text) (tickSize : Numeric)
    (type : Text) (tables : Tables) :
    Aborts (insertInstrument newId venueId symbol tickSize type tables) := by
  apply (numericColumn_aborts _ _).bind
  intro size
  apply (checkedColumn_aborts _ _ _).bind
  intro name
  apply (checkedColumn_aborts _ _ _).bind
  intro type
  split
  · exact .ok _
  · split
    · exact .error rfl
    · split
      · exact .error rfl
      · exact .ok _

theorem insertOption_aborts (id : Int) (optionType : Option Text) (strike : Numeric)
    (expiration : Option Timestamp) (size : Option Int) (creation : Option Timestamp)
    (tables : Tables) :
    Aborts (insertOption id optionType strike expiration size creation tables) := by
  apply (numericColumn_aborts _ _).bind
  intro strike
  apply (intColumn_aborts _ _).bind
  intro size
  apply (checkedColumn_aborts _ _ _).bind
  intro type
  exact (parentKey_aborts _ _ _ _).bind fun _ => .ok _

theorem insertFuture_aborts (id : Int) (settlementPeriod : Option Text)
    (expiration : Option Timestamp) (size : Option Int) (creation : Option Timestamp)
    (tables : Tables) :
    Aborts (insertFuture id settlementPeriod expiration size creation tables) := by
  apply (intColumn_aborts _ _).bind
  intro size
  apply (checkedColumn_aborts _ _ _).bind
  intro period
  exact (parentKey_aborts _ _ _ _).bind fun _ => .ok _

theorem execute_error {A : Type} {statement : Tables → Except Failure (A × Tables)}
    {session last : Session} {failure : Failure}
    (raised : execute statement session = .error failure last) :
    statement session.working = .error failure := by
  unfold execute at raised
  split at raised
  next => cases raised
  next failed =>
    cases raised
    exact failed

variable {venueId : Int} {symbol : Option Text} {tickSize : Numeric} {type : Text}
  {contractSize : Option Numeric} {before after : Session} {failure : Failure}

/-! ## When the contract size is rejected -/

theorem asInt_valueError_iff :
    (∃ failure, asInt contractSize = .error failure ∧ failure.isValueError = true) ↔
      Fractional contractSize := by
  constructor
  · rintro ⟨failure, rejected, isValueError⟩
    unfold asInt at rejected
    split at rejected
    next => cases rejected
    next value =>
      simp only at rejected
      split at rejected
      next differs =>
        refine .inr ⟨value, rfl, ?_⟩
        rintro whole rfl
        exact differs (congrArg _ (truncate_intCast whole).symm)
      next => cases rejected
    next =>
      cases rejected
      cases isValueError
    next => exact .inl rfl
  · rintro (rfl | ⟨value, rfl, noInteger⟩)
    · exact ⟨.nanContractSize, rfl, rfl⟩
    · exact ⟨_, if_pos (noInteger _), rfl⟩

/-! ## What the instrument statement changes -/

theorem setTickSize_eq_self_iff {name : Text} {size : Numeric} {rows : List Instrument} :
    setTickSize venueId name size rows = rows ↔
      ∀ row ∈ rows, row.venueId = venueId → row.symbol = name → row.tickSize = size := by
  have pointwise : setTickSize venueId name size rows = rows ↔ ∀ row ∈ rows,
      (if row.venueId = venueId ∧ row.symbol = name then { row with tickSize := size } else row) =
        row := by
    conv_lhs => rhs; rw [← List.map_id rows]
    exact List.map_inj_left
  rw [pointwise]
  refine forall₂_congr fun row _ => ?_
  by_cases same : row.venueId = venueId ∧ row.symbol = name
  · rw [if_pos same]
    constructor
    · intro unchanged _ _
      exact (congrArg Instrument.tickSize unchanged).symm
    · intro isSize
      rw [← isSize same.1 same.2]
  · rw [if_neg same]
    exact ⟨fun _ isVenue isName => absurd ⟨isVenue, isName⟩ same, fun _ => rfl⟩

/-- The statement writes no other table. -/
theorem executeInstrument_subtypes {id : Int}
    (ran : executeInstrument venueId symbol tickSize type before = .ok id after) :
    after.working.option = before.working.option ∧
      after.working.future = before.working.future := by
  obtain ⟨name, size, working, -, placed, rfl⟩ := executeInstrument_ok_iff.mp ran
  cases placed with
  | known => exact ⟨rfl, rfl⟩
  | appended => exact ⟨rfl, rfl⟩

theorem executeInstrument_touches_iff (inTypes : type ∈ instrumentTypes) :
    (∃ id after, executeInstrument venueId symbol tickSize type before = .ok id after ∧
        after.working.instrument ≠ before.working.instrument) ↔
      TouchesInstrument venueId symbol tickSize before := by
  constructor
  · rintro ⟨id, after, ran, changed⟩
    obtain ⟨name, size, working, columns, placed, rfl⟩ := executeInstrument_ok_iff.mp ran
    obtain ⟨-, isName, converted⟩ := instrumentColumns_ok_iff.mp columns
    refine ⟨name, size, isName, converted, ?_⟩
    cases placed with
    | known found =>
        left
        by_contra none
        push Not at none
        exact changed (setTickSize_eq_self_iff.mpr none)
    | appended missing freshId knownVenue =>
        refine .inr ⟨fun row member same => ?_, freshId, knownVenue⟩
        exact List.find?_eq_none.mp missing row member (decide_eq_true same)
  · rintro ⟨name, size, isName, converted, change⟩
    have columns := instrumentColumns_ok_iff.mpr ⟨inTypes, isName, converted⟩
    rcases change with ⟨row, member, isVenue, named, otherSize⟩ | ⟨absent, freshId, knownVenue⟩
    · obtain ⟨existing, found⟩ : ∃ existing, (before.working.instrument.find? fun row =>
          row.venueId = venueId ∧ row.symbol = name) = some existing :=
        exists_find?_of_mem member (decide_eq_true ⟨isVenue, named⟩)
      refine ⟨_, _, executeInstrument_ok_iff.mpr ⟨name, size, _, columns, .known found, rfl⟩, ?_⟩
      intro unchanged
      exact otherSize (setTickSize_eq_self_iff.mp unchanged row member isVenue named)
    · have missing : (before.working.instrument.find? fun row =>
          row.venueId = venueId ∧ row.symbol = name) = none :=
        List.find?_eq_none.mpr fun row member => by simpa using absent row member
      have placed : Placed _ venueId name size type before.working _ _ :=
        .appended missing freshId knownVenue
      refine ⟨_, _, executeInstrument_ok_iff.mpr ⟨name, size, _, columns, placed, rfl⟩, ?_⟩
      simp

/-! ## Where an upsert raises -/

section Upsert

variable {subtype : Int → Option Int → Tables → Except Failure (Unit × Tables)}

/-- A `ValueError` of an upsert is that of the contract size, raised after the
instrument statement. -/
theorem upsertContract_valueError_iff
    (subtypeAborts : ∀ id size tables, Aborts (subtype id size tables)) :
    (upsertContract venueId symbol tickSize type contractSize subtype before =
        .error failure after ∧ failure.isValueError = true) ↔
      asInt contractSize = .error failure ∧ failure.isValueError = true ∧
        ∃ id, executeInstrument venueId symbol tickSize type before = .ok id after := by
  constructor
  · rintro ⟨raised, isValueError⟩
    have notAborting : ¬ failure.aborts = true := by
      intro aborts
      rw [Failure.not_isValueError aborts] at isValueError
      cases isValueError
    unfold upsertContract at raised
    rcases bind_error raised with instrument | ⟨id, middle, instrument, afterInstrument⟩
    · rw [executeInstrument_eq] at instrument
      have aborts := insertInstrument_aborts _ _ _ _ _ _ failure (execute_error instrument)
      exact absurd aborts notAborting
    · rcases bind_error afterInstrument with narrowing | ⟨size, narrowed, narrowing, afterSize⟩
      · obtain ⟨rejected, rfl⟩ := ofExcept_error narrowing
        exact ⟨rejected, isValueError, id, instrument⟩
      · rcases bind_error afterSize with statement | ⟨done, last, -, returned⟩
        · exact absurd (subtypeAborts _ _ _ failure (execute_error statement)) notAborting
        · cases returned
  · rintro ⟨rejected, isValueError, id, instrument⟩
    refine ⟨?_, isValueError⟩
    unfold upsertContract
    rw [bind_of_ok instrument, rejected]
    rfl

/-- It leaves the tables alone unless the instrument statement has changed them. -/
theorem upsertContract_leaves_tables_iff
    (subtypeAborts : ∀ id size tables, Aborts (subtype id size tables))
    (inTypes : type ∈ instrumentTypes) :
    RejectionLeavesTables (upsertContract venueId symbol tickSize type contractSize subtype)
        before ↔
      ¬ (Fractional contractSize ∧ TouchesInstrument venueId symbol tickSize before) := by
  rw [← asInt_valueError_iff, ← executeInstrument_touches_iff inTypes]
  constructor
  · rintro leaves ⟨⟨failure, rejected, isValueError⟩, id, after, ran, changed⟩
    have raised := (upsertContract_valueError_iff subtypeAborts).mpr
      ⟨rejected, isValueError, id, ran⟩
    exact changed (leaves failure after raised.1 raised.2).1
  · intro never failure after raised isValueError
    obtain ⟨rejected, -, id, ran⟩ :=
      (upsertContract_valueError_iff subtypeAborts).mp ⟨raised, isValueError⟩
    refine ⟨?_, executeInstrument_subtypes ran⟩
    by_contra changed
    exact never ⟨⟨failure, rejected, isValueError⟩, id, after, ran, changed⟩

end Upsert

/-- A rejection leaves the tables alone, but for a contract size that is no integer
where the instrument statement has a row to add or a tick size to set. A perpetual
is rejected before any statement. -/
theorem rejection_leaves_tables_iff (venueId : Int) (before : Session) :
    (∀ contract : OptionContract,
      RejectionLeavesTables (upsertOptionContract venueId contract) before ↔
        ¬ (Fractional contract.contractSize ∧
          TouchesInstrument venueId contract.venueSymbol contract.tickSize before)) ∧
    ∀ contract : FutureContract,
      RejectionLeavesTables (upsertFutureContract venueId contract) before ↔
        ¬ (contract.isPerpetual = false ∧ Fractional contract.contractSize ∧
          TouchesInstrument venueId contract.venueSymbol contract.tickSize before) := by
  constructor
  · intro contract
    refine upsertContract_leaves_tables_iff (fun id size tables => ?_) (by decide)
    exact insertOption_aborts _ _ _ _ _ _ _
  · intro contract
    unfold upsertFutureContract
    split
    next perpetual =>
      rw [perpetual]
      refine iff_of_true ?_ (by simp)
      intro failure after raised _
      cases raised
      exact ⟨rfl, rfl, rfl⟩
    next dated =>
      rw [Bool.not_eq_true] at dated
      rw [dated, upsertContract_leaves_tables_iff _ (by decide)]
      · simp
      · intro id size tables
        exact insertFuture_aborts _ _ _ _ _ _

/-- An option with half a contract. -/
def fractionalOption : OptionContract where
  venueSymbol := some "BTC-19AUG26-56000-C".toList
  venueInstrumentId := some 674989
  baseCurrency := some "BTC".toList
  quoteCurrency := some "BTC".toList
  counterCurrency := some "USD".toList
  settlementCurrency := some "BTC".toList
  priceIndex := some "btc_usd".toList
  tickSize := .finite (1 / 10000)
  contractSize := some (.finite (1 / 2))
  minTradeAmount := some (.finite (1 / 10))
  expirationTimestamp := some (.instant 1787126400000000)
  creationTimestamp := some (.instant 1786780817000000)
  isActive := some true
  optionType := some "call".toList
  strike := .finite 56000

/-- Its instrument stays without an option row. -/
theorem fractional_option_leaves_instrument :
    ¬ RejectionLeavesTables (upsertOptionContract 1 fractionalOption) Store.seeded.connect := by
  intro leaves
  have raised : raised (upsertOptionContract 1 fractionalOption Store.seeded.connect) =
      some (.nonIntegralContractSize (.finite (1 / 2))) := by decide +kernel
  have unchanged := (leaves _ _ (eq_error_of_raised raised) rfl).1
  have changed : (finalState
      (upsertOptionContract 1 fractionalOption Store.seeded.connect)).working.instrument ≠
        Store.seeded.connect.working.instrument := by decide +kernel
  exact changed unchanged

end QuantGateway.Ingest
