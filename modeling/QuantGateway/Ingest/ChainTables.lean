import QuantGateway.Ingest.Chain

/-!
Owns the chain a state of the tables stores, and what the statements of an upsert do
to it: an instrument statement places a symbol, a subtype statement attaches its
terms to the symbol with its id.

Does not own the programs the statements are part of.
-/

namespace QuantGateway.Ingest

open QuantGateway.Foundation
open QuantGateway.SecurityMaster

/-! ## Rows with and without ids -/

def optionTermsOf (row : OptionRow) : OptionTerms :=
  ⟨row.optionType, row.strike, row.expirationTimestamp, row.contractSize, row.creationTimestamp⟩

def futureTermsOf (row : FutureRow) : FutureTerms :=
  ⟨row.settlementPeriod, row.expirationTimestamp, row.contractSize, row.creationTimestamp⟩

def OptionTerms.row (terms : OptionTerms) (id : Int) : OptionRow :=
  ⟨id, terms.optionType, terms.strike, terms.expirationTimestamp, terms.contractSize,
    terms.creationTimestamp⟩

def FutureTerms.row (terms : FutureTerms) (id : Int) : FutureRow :=
  ⟨id, terms.settlementPeriod, terms.expirationTimestamp, terms.contractSize,
    terms.creationTimestamp⟩

/-- The tables with the terms of an id. -/
def Terms.write (id : Int) (tables : Tables) : Terms → Tables
  | .option terms =>
      { tables with option := upsert OptionRow.instrumentId (terms.row id) tables.option }
  | .future terms =>
      { tables with future := upsert FutureRow.instrumentId (terms.row id) tables.future }
  | .currency =>
      { tables with currencies := upsert CurrencyRow.instrumentId ⟨id⟩ tables.currencies }

/-- An instrument with its rows of the subtype tables. -/
def entryOf (tables : Tables) (row : Instrument) : ChainEntry where
  symbol := row.symbol
  instrumentType := row.instrumentType
  tickSize := row.tickSize
  option := (tables.option.find? fun option => option.instrumentId = row.instrumentId).map
    optionTermsOf
  future := (tables.future.find? fun future => future.instrumentId = row.instrumentId).map
    futureTermsOf
  currency := (tables.currencies.find? fun currency =>
    currency.instrumentId = row.instrumentId).isSome

def chainOf (tables : Tables) : Chain :=
  tables.instrument.map (entryOf tables)

/-! ## Placing an instrument -/

variable {tables after : Tables} {venueId id : Int} {name : Text} {size : Numeric}

theorem symbols_chainOf (tables : Tables) :
    (chainOf tables).map ChainEntry.symbol = tables.instrument.map Instrument.symbol := by
  unfold chainOf
  rw [List.map_map]
  rfl

theorem find?_key_eq_none {Row : Type} {key : Row → Int} {rows : List Row}
    (parents : ∀ row ∈ rows, tables.HasInstrument (key row)) (fresh : ¬ tables.HasInstrument id) :
    (rows.find? fun row => key row = id) = none := by
  rw [List.find?_eq_none]
  intro row member same
  have isId : key row = id := by simpa using same
  exact fresh (isId ▸ parents row member)

/-- A new instrument has no rows in the subtype tables. -/
theorem entryOf_fresh (valid : tables.Valid) (row : Instrument)
    (fresh : ¬ tables.HasInstrument row.instrumentId) :
    entryOf tables row = ⟨row.symbol, row.instrumentType, row.tickSize, none, none, false⟩ := by
  unfold entryOf
  rw [find?_key_eq_none valid.optionParent fresh, find?_key_eq_none valid.futureParent fresh,
    find?_key_eq_none valid.currencyParent fresh]
  rfl

/-- The row of a placed symbol, under the id the statement returns. -/
theorem Placed.stored {newId : Int} {type : Text}
    (placed : Placed newId venueId name size type tables id after) :
    ∃ row ∈ after.instrument, row.instrumentId = id ∧ row.venueId = venueId ∧
      row.symbol = name ∧ row.tickSize = size := by
  cases placed with
  | @known existing found =>
      have named := List.find?_some found
      simp only [decide_eq_true_eq] at named
      exact ⟨_, List.mem_map.mpr ⟨existing, List.mem_of_find?_eq_some found, if_pos named⟩,
        rfl, named.1, named.2, rfl⟩
  | appended =>
      exact ⟨_, List.mem_append_right _ (List.mem_singleton_self _), rfl, rfl, rfl, rfl⟩

theorem Placed.hasInstrument {newId : Int} {type : Text}
    (placed : Placed newId venueId name size type tables id after) : after.HasInstrument id := by
  obtain ⟨row, member, isId, -⟩ := placed.stored
  exact List.mem_map.mpr ⟨row, member, isId⟩

/-- An instrument statement places its symbol in the chain. -/
theorem chainOf_placed {newId : Int} {type : Text} (valid : tables.Valid)
    (ofVenue : ∀ row ∈ tables.instrument, row.venueId = venueId)
    (placed : Placed newId venueId name size type tables id after) :
    chainOf after = (chainOf tables).place name size type := by
  have known : (∃ entry ∈ chainOf tables, entry.symbol = name) ↔
      name ∈ tables.instrument.map Instrument.symbol := by
    rw [← symbols_chainOf, List.mem_map]
  unfold Chain.place
  cases placed with
  | @known existing found =>
      have holds := List.find?_some found
      simp only [decide_eq_true_eq] at holds
      have member := List.mem_of_find?_eq_some found
      rw [if_pos (known.mpr (List.mem_map.mpr ⟨existing, member, holds.2⟩))]
      unfold chainOf setTickSize
      rw [List.map_map, List.map_map]
      apply List.map_congr_left
      intro row inRows
      simp only [Function.comp_apply, ofVenue row inRows, true_and]
      by_cases same : row.symbol = name
      · simp [entryOf, same]
      · simp [entryOf, same]
  | appended missing freshId knownVenue =>
      have absent : name ∉ tables.instrument.map Instrument.symbol := by
        intro taken
        obtain ⟨row, inRows, same⟩ := List.mem_map.mp taken
        have missed := List.find?_eq_none.mp missing row inRows
        simp [ofVenue row inRows, same] at missed
      rw [if_neg (mt known.mp absent)]
      unfold chainOf
      rw [List.map_append, List.map_singleton]
      congr 2
      exact entryOf_fresh valid ⟨id, venueId, size, type, name⟩ freshId

/-! ## Attaching terms -/

/-- Within the one venue an id is a symbol. -/
theorem id_eq_iff (valid : tables.Valid)
    (ofVenue : ∀ row ∈ tables.instrument, row.venueId = venueId) {first second : Instrument}
    (firstMember : first ∈ tables.instrument) (secondMember : second ∈ tables.instrument) :
    first.instrumentId = second.instrumentId ↔ first.symbol = second.symbol := by
  constructor
  · intro same
    rw [eq_of_key_eq valid.instrumentKey firstMember secondMember same]
  · intro same
    have sameName : (first.venueId, first.symbol) = (second.venueId, second.symbol) := by
      rw [ofVenue first firstMember, ofVenue second secondMember, same]
    rw [eq_of_key_eq valid.instrumentName firstMember secondMember sameName]

/-- Terms written under an id are the terms of its symbol. -/
theorem chainOf_write (valid : tables.Valid)
    (ofVenue : ∀ row ∈ tables.instrument, row.venueId = venueId)
    (stored : ∃ row ∈ tables.instrument, row.instrumentId = id ∧ row.symbol = name)
    (terms : Terms) : chainOf (terms.write id tables) = (chainOf tables).attach name terms := by
  obtain ⟨row, member, rfl, rfl⟩ := stored
  have sameRows : (terms.write row.instrumentId tables).instrument = tables.instrument := by
    cases terms <;> rfl
  unfold chainOf Chain.attach
  rw [sameRows, List.map_map]
  apply List.map_congr_left
  intro other inRows
  have agree := id_eq_iff valid ofVenue member inRows
  simp only [Function.comp_apply]
  have isSymbol : (entryOf tables other).symbol = other.symbol := rfl
  rw [isSymbol]
  by_cases same : other.symbol = row.symbol
  · rw [if_pos same]
    have sameId := agree.mpr same.symm
    cases terms <;>
      simp [entryOf, Terms.write, find?_upsert, ChainEntry.attach, OptionTerms.row,
        FutureTerms.row, optionTermsOf, futureTermsOf, sameId]
  · rw [if_neg same]
    have otherId : row.instrumentId ≠ other.instrumentId := fun isId => same (agree.mp isId).symm
    cases terms <;>
      simp [entryOf, Terms.write, find?_upsert, OptionTerms.row, FutureTerms.row, otherId]

end QuantGateway.Ingest
