import QuantGateway.Ingest.Statements

/-!
Owns what the statements preserve: every constraint of the schema, and the
identities of the stored instruments, which a statement can only add to.

A tick size is no part of an identity, so an upsert of a known instrument leaves
the identities as they are. Does not own whether an instrument's type agrees with
its subtype rows.
-/

namespace QuantGateway.Ingest

open QuantGateway.Foundation
open QuantGateway.SecurityMaster

/-- The columns of `instrument` that no statement updates. -/
structure Identity where
  venueId : Int
  symbol : Text
  instrumentId : Int
  instrumentType : Text
deriving DecidableEq, Repr

def Identity.of (row : Instrument) : Identity where
  venueId := row.venueId
  symbol := row.symbol
  instrumentId := row.instrumentId
  instrumentType := row.instrumentType

/-- The identities of the stored instruments, oldest first. -/
def identities (tables : Tables) : List Identity :=
  tables.instrument.map Identity.of

variable {tables after : Tables}

theorem identities_setTickSize (venueId : Int) (symbol : Text) (tickSize : Numeric)
    (rows : List Instrument) :
    (setTickSize venueId symbol tickSize rows).map Identity.of = rows.map Identity.of := by
  unfold setTickSize
  rw [List.map_map]
  apply List.map_congr_left
  intro row _
  simp only [Function.comp_apply]
  split
  · rfl
  · rfl

theorem hasInstrument_iff (id : Int) :
    tables.HasInstrument id ↔ id ∈ (identities tables).map Identity.instrumentId := by
  unfold Tables.HasInstrument identities
  rw [List.map_map]
  rfl

/-- No row is lost, though its other columns may change. -/
structure Grows (before after : Tables) : Prop where
  venue : before.venue ⊆ after.venue
  instrument : identities before ⊆ identities after
  keys : ∀ table : SubtypeTable, table.keys before ⊆ table.keys after

theorem Grows.refl (tables : Tables) : Grows tables tables where
  venue := List.Subset.refl _
  instrument := List.Subset.refl _
  keys _ := List.Subset.refl _

theorem Grows.trans {first second third : Tables} (here : Grows first second)
    (there : Grows second third) : Grows first third where
  venue := List.Subset.trans here.venue there.venue
  instrument := List.Subset.trans here.instrument there.instrument
  keys table := List.Subset.trans (here.keys table) (there.keys table)

/-! ## Constraints on instruments -/

/-- The constraints on the table `instrument`. -/
structure ValidIdentities (venueIds : List Int) (stored : List Identity) : Prop where
  key : (stored.map Identity.instrumentId).Nodup
  name : (stored.map fun identity => (identity.venueId, identity.symbol)).Nodup
  venue : ∀ identity ∈ stored, identity.venueId ∈ venueIds
  type : ∀ identity ∈ stored, identity.instrumentType ∈ instrumentTypes
  positive : ∀ identity ∈ stored, 0 < identity.instrumentId

theorem validIdentities (valid : tables.Valid) :
    ValidIdentities (tables.venue.map Venue.venueId) (identities tables) := by
  have ofRows {holds : Identity → Prop}
      (rows : ∀ row ∈ tables.instrument, holds (Identity.of row)) :
      ∀ identity ∈ identities tables, holds identity := by
    intro identity member
    obtain ⟨row, inRows, rfl⟩ := List.mem_map.mp member
    exact rows row inRows
  constructor
  · unfold identities
    rw [List.map_map]
    exact valid.instrumentKey
  · unfold identities
    rw [List.map_map]
    exact valid.instrumentName
  · exact ofRows valid.instrumentVenue
  · exact ofRows valid.instrumentType
  · exact ofRows valid.instrumentPositive

/-- A symbol of a venue tells its instrument. -/
theorem identity_of_name (valid : tables.Valid) {first second : Identity}
    (firstMember : first ∈ identities tables) (secondMember : second ∈ identities tables)
    (sameVenue : first.venueId = second.venueId) (sameSymbol : first.symbol = second.symbol) :
    first = second :=
  eq_of_key_eq (validIdentities valid).name firstMember secondMember
    (Prod.ext sameVenue sameSymbol)

theorem ValidIdentities.append {venueIds : List Int} {stored : List Identity}
    (valid : ValidIdentities venueIds stored) {added : Identity}
    (freshId : added.instrumentId ∉ stored.map Identity.instrumentId)
    (freshName : ∀ identity ∈ stored,
      ¬ (identity.venueId = added.venueId ∧ identity.symbol = added.symbol))
    (knownVenue : added.venueId ∈ venueIds) (typed : added.instrumentType ∈ instrumentTypes)
    (positive : 0 < added.instrumentId) : ValidIdentities venueIds (stored ++ [added]) := by
  have ofBoth {holds : Identity → Prop} (old : ∀ identity ∈ stored, holds identity)
      (new : holds added) : ∀ identity ∈ stored ++ [added], holds identity := by
    intro identity member
    rcases List.mem_append.mp member with inStored | last
    · exact old identity inStored
    · exact List.mem_singleton.mp last ▸ new
  constructor
  · exact append_keys_nodup valid.key freshId
  · apply append_keys_nodup valid.name
    intro taken
    obtain ⟨identity, inStored, same⟩ := List.mem_map.mp taken
    exact freshName identity inStored ⟨congrArg Prod.fst same, congrArg Prod.snd same⟩
  · exact ofBoth valid.venue knownVenue
  · exact ofBoth valid.type typed
  · exact ofBoth valid.positive positive

/-- Instruments may be rewritten as long as no identity is lost and the new
identities are valid. -/
theorem valid_withInstruments (valid : tables.Valid) {rows : List Instrument}
    (validRows : ValidIdentities (tables.venue.map Venue.venueId) (rows.map Identity.of))
    (kept : identities tables ⊆ rows.map Identity.of) :
    { tables with instrument := rows }.Valid := by
  have toRows {holds : Identity → Prop}
      (all : ∀ identity ∈ rows.map Identity.of, holds identity) :
      ∀ row ∈ rows, holds (Identity.of row) :=
    fun row inRows => all _ (List.mem_map_of_mem inRows)
  have parents (id : Int) (parent : tables.HasInstrument id) :
      { tables with instrument := rows }.HasInstrument id := by
    rw [hasInstrument_iff] at parent ⊢
    exact List.map_subset _ kept parent
  exact {
    valid with
    instrumentKey := by
      have keys := validRows.key
      rwa [List.map_map] at keys
    instrumentName := by
      have names := validRows.name
      rwa [List.map_map] at names
    instrumentVenue := toRows validRows.venue
    instrumentType := toRows validRows.type
    instrumentPositive := toRows validRows.positive
    optionParent := fun row member => parents _ (valid.optionParent row member)
    futureParent := fun row member => parents _ (valid.futureParent row member)
    currencyParent := fun row member => parents _ (valid.currencyParent row member) }

/-! ## Statements keep the constraints -/

theorem insertVenue_valid {newId : Int} {code : Text} {done : Unit} (valid : tables.Valid)
    (ran : insertVenue newId code tables = .ok (done, after)) : after.Valid := by
  rcases insertVenue_ok_iff.mp ran with ⟨-, rfl⟩ | ⟨freshCode, freshId, rfl⟩
  · exact valid
  · refine {
      valid with
      venueKey := ?_
      venueCode := ?_
      instrumentVenue := ?_ }
    · exact append_keys_nodup valid.venueKey freshId
    · apply append_keys_nodup valid.venueCode
      rw [List.mem_map]
      exact freshCode
    · intro row member
      rw [List.map_append]
      exact List.mem_append_left _ (valid.instrumentVenue row member)

theorem insertVenue_ok {newId : Int} {code : Text} {done : Unit}
    (ran : insertVenue newId code tables = .ok (done, after)) :
    after.instrument = tables.instrument ∧
      ∀ venue ∈ after.venue, venue ∈ tables.venue ∨ venue.code = code := by
  rcases insertVenue_ok_iff.mp ran with ⟨-, rfl⟩ | ⟨-, -, rfl⟩
  · exact ⟨rfl, fun venue member => .inl member⟩
  · refine ⟨rfl, fun venue member => ?_⟩
    rcases List.mem_append.mp member with old | new
    · exact .inl old
    · exact .inr (List.mem_singleton.mp new ▸ rfl)

theorem insertVenue_grows {newId : Int} {code : Text} {done : Unit}
    (ran : insertVenue newId code tables = .ok (done, after)) : Grows tables after := by
  rcases insertVenue_ok_iff.mp ran with ⟨-, rfl⟩ | ⟨-, -, rfl⟩
  · exact .refl _
  · exact {
      venue := List.subset_append_left _ _
      instrument := List.Subset.refl _
      keys := fun _ => List.Subset.refl _ }

/-- The instrument was stored under the returned id, or it is stored now under the
next one. -/
theorem insertInstrument_identities {newId venueId id : Int} {symbol : Option Text}
    {tickSize : Numeric} {instrumentType : Text}
    (ran : insertInstrument newId venueId symbol tickSize instrumentType tables = .ok (id, after)) :
    ∃ name, symbol = some name ∧
      ((∃ type, ⟨venueId, name, id, type⟩ ∈ identities tables ∧
          identities after = identities tables) ∨
        ((∀ identity ∈ identities tables,
            ¬ (identity.venueId = venueId ∧ identity.symbol = name)) ∧
          id = newId ∧
          identities after = identities tables ++ [⟨venueId, name, newId, instrumentType⟩])) := by
  obtain ⟨-, name, size, named, known | ⟨absent, isNew, -, -, rfl⟩⟩ := insertInstrument_ok ran
  · obtain ⟨existing, inRows, rfl, rfl, rfl, rfl⟩ := known
    refine ⟨_, named, .inl ⟨existing.instrumentType, ?_, identities_setTickSize _ _ _ _⟩⟩
    exact List.mem_map.mpr ⟨existing, inRows, rfl⟩
  · refine ⟨name, named, .inr ⟨?_, isNew, ?_⟩⟩
    · intro identity member
      obtain ⟨row, inRows, rfl⟩ := List.mem_map.mp member
      exact absent row inRows
    · unfold identities
      rw [List.map_append]
      rfl

theorem insertInstrument_venue {newId venueId id : Int} {symbol : Option Text} {tickSize : Numeric}
    {instrumentType : Text}
    (ran : insertInstrument newId venueId symbol tickSize instrumentType tables = .ok (id, after)) :
    after.venue = tables.venue := by
  obtain ⟨-, name, size, -, known | ⟨-, -, -, -, rfl⟩⟩ := insertInstrument_ok ran
  · obtain ⟨existing, -, -, -, -, rfl⟩ := known
    rfl
  · rfl

theorem insertInstrument_keys {newId venueId id : Int} {symbol : Option Text} {tickSize : Numeric}
    {instrumentType : Text}
    (ran : insertInstrument newId venueId symbol tickSize instrumentType tables = .ok (id, after))
    (table : SubtypeTable) : table.keys after = table.keys tables := by
  obtain ⟨-, name, size, -, known | ⟨-, -, -, -, rfl⟩⟩ := insertInstrument_ok ran
  · obtain ⟨existing, -, -, -, -, rfl⟩ := known
    rfl
  · rfl

theorem insertInstrument_grows {newId venueId id : Int} {symbol : Option Text} {tickSize : Numeric}
    {instrumentType : Text}
    (ran : insertInstrument newId venueId symbol tickSize instrumentType tables = .ok (id, after)) :
    Grows tables after where
  venue := by
    rw [insertInstrument_venue ran]
    exact List.Subset.refl _
  instrument := by
    obtain ⟨name, -, ⟨type, -, same⟩ | ⟨-, -, appended⟩⟩ := insertInstrument_identities ran
    · rw [same]
      exact List.Subset.refl _
    · rw [appended]
      exact List.subset_append_left _ _
  keys table := by
    rw [insertInstrument_keys ran]
    exact List.Subset.refl _

theorem insertInstrument_valid {newId venueId id : Int} {symbol : Option Text}
    {tickSize : Numeric} {instrumentType : Text} (valid : tables.Valid) (positive : 0 < newId)
    (ran : insertInstrument newId venueId symbol tickSize instrumentType tables = .ok (id, after)) :
    after.Valid := by
  have before := validIdentities valid
  obtain ⟨typed, name, size, -, known | ⟨absent, -, freshId, knownVenue, rfl⟩⟩ :=
    insertInstrument_ok ran
  · obtain ⟨existing, -, -, -, -, rfl⟩ := known
    apply valid_withInstruments valid
    · rw [identities_setTickSize]
      exact before
    · rw [identities_setTickSize]
      exact List.Subset.refl _
  · apply valid_withInstruments valid
    · rw [List.map_append, List.map_singleton]
      refine before.append ?_ ?_ knownVenue typed positive
      · rw [← hasInstrument_iff]
        exact freshId
      · intro identity member
        obtain ⟨row, inRows, rfl⟩ := List.mem_map.mp member
        exact absent row inRows
    · rw [List.map_append]
      exact List.subset_append_left _ _

/-- Upserting a row whose parent is known, or which is there already, keeps every
row's parent known. -/
theorem upsert_parents {Row : Type} {key : Row → Int} {rows : List Row} {row : Row}
    (parents : ∀ other ∈ rows, tables.HasInstrument (key other))
    (parent : key row ∈ rows.map key ∨ tables.HasInstrument (key row)) :
    ∀ other ∈ upsert key row rows, tables.HasInstrument (key other) := by
  intro other member
  rcases mem_upsert member with rfl | inRows
  · rcases parent with present | known
    · obtain ⟨old, inRows, same⟩ := List.mem_map.mp present
      exact same ▸ parents old inRows
    · exact known
  · exact parents other inRows

/-- A row with an id is in a subtype table, which is all that has changed. -/
structure RowWritten (table : SubtypeTable) (id : Int) (tables after : Tables) : Prop where
  valid : after.Valid
  instrument : after.instrument = tables.instrument
  venue : after.venue = tables.venue
  keys : ∀ other key, key ∈ other.keys after ↔ key ∈ other.keys tables ∨ other = table ∧ key = id

theorem RowWritten.grows {table : SubtypeTable} {id : Int}
    (written : RowWritten table id tables after) : Grows tables after where
  venue := by
    rw [written.venue]
    exact List.Subset.refl _
  instrument := by
    unfold identities
    rw [written.instrument]
    exact List.Subset.refl _
  keys other key member := (written.keys other key).mpr (.inl member)

theorem insertOption_writes {instrumentId : Int} {optionType : Option Text} {strike : Numeric}
    {expiration creation : Option Timestamp} {size : Option Int} {done : Unit}
    (valid : tables.Valid)
    (ran : insertOption instrumentId optionType strike expiration size creation tables =
      .ok (done, after)) : RowWritten .option instrumentId tables after := by
  obtain ⟨row, rfl, -, typed, parent, rfl⟩ := insertOption_ok ran
  constructor
  · refine {
      valid with
      optionKey := upsert_keys_nodup valid.optionKey row
      optionParent := upsert_parents valid.optionParent parent
      optionType := ?_ }
    intro other member
    rcases mem_upsert member with rfl | inRows
    · exact typed
    · exact valid.optionType other inRows
  · rfl
  · rfl
  · intro other key
    cases other with
    | option => simp [SubtypeTable.keys, mem_upsert_keys]
    | future => simp [SubtypeTable.keys]
    | currencies => simp [SubtypeTable.keys]

theorem insertFuture_writes {instrumentId : Int} {settlementPeriod : Option Text}
    {expiration creation : Option Timestamp} {size : Option Int} {done : Unit}
    (valid : tables.Valid)
    (ran : insertFuture instrumentId settlementPeriod expiration size creation tables =
      .ok (done, after)) : RowWritten .future instrumentId tables after := by
  obtain ⟨row, rfl, dated, parent, rfl⟩ := insertFuture_ok ran
  constructor
  · refine {
      valid with
      futureKey := upsert_keys_nodup valid.futureKey row
      futureParent := upsert_parents valid.futureParent parent
      futurePeriod := ?_ }
    intro other member
    rcases mem_upsert member with rfl | inRows
    · exact dated
    · exact valid.futurePeriod other inRows
  · rfl
  · rfl
  · intro other key
    cases other with
    | option => simp [SubtypeTable.keys]
    | future => simp [SubtypeTable.keys, mem_upsert_keys]
    | currencies => simp [SubtypeTable.keys]

theorem insertCurrency_writes {instrumentId : Int} {done : Unit} (valid : tables.Valid)
    (ran : insertCurrency instrumentId tables = .ok (done, after)) :
    RowWritten .currencies instrumentId tables after := by
  obtain ⟨parent, rfl⟩ := insertCurrency_ok_iff.mp ran
  constructor
  · exact {
      valid with
      currencyKey := upsert_keys_nodup valid.currencyKey ⟨instrumentId⟩
      currencyParent := upsert_parents valid.currencyParent parent }
  · rfl
  · rfl
  · intro other key
    cases other with
    | option => simp [SubtypeTable.keys]
    | future => simp [SubtypeTable.keys]
    | currencies => simp [SubtypeTable.keys, mem_upsert_keys]

end QuantGateway.Ingest
