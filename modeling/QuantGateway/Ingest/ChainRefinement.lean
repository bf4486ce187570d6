import QuantGateway.Foundation.Updates
import QuantGateway.Ingest.ChainTables

/-!
Owns the refinement of the chain by the database: every upsert makes the update of
its contract whatever the tables hold, so a run is determined by its responses, and a
history of runs leaves the chain that the updates of its successful runs make.

The ids follow the order of the chain. Does not own what the gateway reads back.
-/

namespace QuantGateway.Ingest

open QuantGateway.Foundation
open QuantGateway.Foundation.Program
open QuantGateway.SecurityMaster

/-- Ids in the order they were given, up to the last one. -/
structure Issued (ids : List Int) (last : Int) : Prop where
  bounded : ∀ id ∈ ids, id ≤ last
  increasing : ids.Pairwise (· < ·)

/-- A sequence never falls back, and its next value is the largest id. -/
theorem Issued.next {ids after : List Int} {last : Int} (issued : Issued ids last)
    (grown : after = ids ∨ after = ids ++ [last + 1]) : Issued after (last + 1) := by
  have below : ∀ id ∈ ids, id < last + 1 := fun id member =>
    Int.lt_add_one_of_le (issued.bounded id member)
  rcases grown with rfl | rfl
  · exact ⟨fun id member => (below id member).le, issued.increasing⟩
  · constructor
    · intro id member
      rcases List.mem_append.mp member with old | new
      · exact (below id old).le
      · exact (List.mem_singleton.mp new).le
    · rw [List.pairwise_append]
      refine ⟨issued.increasing, List.pairwise_singleton _ _, ?_⟩
      intro first firstMember second secondMember
      rw [List.mem_singleton.mp secondMember]
      exact below first firstMember

/-- The tables store a chain for the one venue; the sequences are past all ids, and
the ids increase along the chain. -/
structure Stores (tables : Tables) (lastVenueId lastInstrumentId : Int) (chain : Chain) :
    Prop where
  valid : tables.Valid
  positive : 0 ≤ lastInstrumentId
  venuesIssued : ∀ venue ∈ tables.venue, venue.venueId ≤ lastVenueId
  issued : Issued (tables.instrument.map Instrument.instrumentId) lastInstrumentId
  deribit : ∀ venue ∈ tables.venue, venue.code = deribitVenueCode
  chain : chainOf tables = chain

/-- The open transaction of a session stores a chain, and knows the venue. -/
structure Shows (venueId : Int) (session : Session) (chain : Chain) : Prop where
  stores : Stores session.working session.lastVenueId session.lastInstrumentId chain
  venue : ⟨venueId, deribitVenueCode⟩ ∈ session.working.venue

variable {venueId id : Int} {session : Session} {chain : Chain} {symbol : Option Text}
  {tickSize : Numeric}

theorem Shows.ofVenue (shows : Shows venueId session chain) :
    ∀ row ∈ session.working.instrument, row.venueId = venueId := by
  intro row member
  obtain ⟨other, inVenues, sameId⟩ :=
    List.mem_map.mp (shows.stores.valid.instrumentVenue row member)
  have sameVenue := eq_of_key_eq shows.stores.valid.venueCode inVenues shows.venue
    (shows.stores.deribit other inVenues)
  rw [← sameId, sameVenue]

/-! ## The instrument statement -/

theorem execute_of_error {A : Type} {statement : Tables → Except Failure (A × Tables)}
    {failure : Failure} (failed : statement session.working = .error failure) :
    execute statement session = .error failure session := by
  unfold execute
  rw [failed]

/-- The columns fail before the tables are looked at. -/
theorem insertInstrument_error {newId : Int} {type : Text} {tables : Tables} {failure : Failure}
    (failed : instrumentColumns symbol tickSize type = .error failure) :
    insertInstrument newId venueId symbol tickSize type tables = .error failure := by
  unfold instrumentColumns at failed
  unfold insertInstrument
  rcases except_bind_error failed with here | ⟨size, converted, failed⟩
  · rw [here]
    rfl
  rw [converted]
  rcases except_bind_error failed with here | ⟨name, named, failed⟩
  · simp only [bind, Except.bind, here]
  rcases except_bind_error failed with here | ⟨stored, typed, failed⟩
  · simp only [bind, Except.bind, named, here]
  · cases failed

/-- With a new id and a known venue an instrument can be placed. -/
theorem exists_placed {newId : Int} {tables : Tables} (name : Text) (size : Numeric) (type : Text)
    (fresh : ¬ tables.HasInstrument newId) (known : venueId ∈ tables.venue.map Venue.venueId) :
    ∃ id after, Placed newId venueId name size type tables id after := by
  cases found : tables.instrument.find? fun row => row.venueId = venueId ∧ row.symbol = name with
  | none => exact ⟨newId, _, .appended found fresh known⟩
  | some existing => exact ⟨existing.instrumentId, _, .known found⟩

/-- The rows a placed instrument leaves, by their ids. -/
theorem ids_placed {newId : Int} {name type : Text} {size : Numeric} {tables after : Tables}
    (placed : Placed newId venueId name size type tables id after) :
    after.venue = tables.venue ∧
      (after.instrument.map Instrument.instrumentId =
          tables.instrument.map Instrument.instrumentId ∨
        after.instrument.map Instrument.instrumentId =
          tables.instrument.map Instrument.instrumentId ++ [newId]) := by
  cases placed with
  | known found =>
      refine ⟨rfl, .inl ?_⟩
      unfold setTickSize
      rw [List.map_map]
      apply List.map_congr_left
      intro row _
      simp only [Function.comp_apply]
      split <;> rfl
  | appended => exact ⟨rfl, .inr (by rw [List.map_append, List.map_singleton])⟩

/-- An instrument statement fails with its columns, or places its symbol. -/
theorem Shows.executeInstrument (shows : Shows venueId session chain) (symbol : Option Text)
    (tickSize : Numeric) (type : Text) :
    (∃ failure last, instrumentColumns symbol tickSize type = .error failure ∧
      executeInstrument venueId symbol tickSize type session = .error failure last) ∨
    ∃ name size id next, instrumentColumns symbol tickSize type = .ok (name, size) ∧
      executeInstrument venueId symbol tickSize type session = .ok id next ∧
      Shows venueId next (chain.place name size type) ∧
      ∃ row ∈ next.working.instrument, row.instrumentId = id ∧ row.symbol = name := by
  cases columns : instrumentColumns symbol tickSize type with
  | error failure =>
      refine .inl ⟨failure,
        { session with lastInstrumentId := session.lastInstrumentId + 1 }, rfl, ?_⟩
      exact (bind_of_ok rfl).trans (execute_of_error (insertInstrument_error columns))
  | ok written =>
      obtain ⟨name, size⟩ := written
      have stores := shows.stores
      have positive := stores.positive
      have fresh : ¬ session.working.HasInstrument (session.lastInstrumentId + 1) := by
        intro taken
        have old := stores.issued.bounded _ taken
        omega
      obtain ⟨id, working, placed⟩ := exists_placed name size type fresh
        (List.mem_map_of_mem shows.venue)
      have inserted := insertInstrument_ok_iff.mpr ⟨name, size, columns, placed⟩
      have ran := executeInstrument_ok_iff.mpr ⟨name, size, working, columns, placed, rfl⟩
      have isChain := chainOf_placed stores.valid shows.ofVenue placed
      obtain ⟨row, member, isId, -, named, -⟩ := placed.stored
      obtain ⟨sameVenue, ids⟩ := ids_placed placed
      have venue := shows.venue
      have venuesIssued := stores.venuesIssued
      have deribit := stores.deribit
      rw [← sameVenue] at venue venuesIssued deribit
      refine .inr ⟨name, size, id, _, rfl, ran, ⟨?_, venue⟩, row, member, isId, named⟩
      exact {
        valid := insertInstrument_valid stores.valid (by omega) inserted
        positive := by
          simp only
          omega
        venuesIssued := venuesIssued
        issued := stores.issued.next ids
        deribit := deribit
        chain := isChain.trans (by rw [stores.chain]) }

/-! ## The subtype statements -/

section Subtype

variable {tables : Tables}

theorem insertOption_terms (contract : OptionContract) (contractSize : Option Int)
    (parent : tables.HasInstrument id) :
    insertOption id contract.optionType contract.strike contract.expirationTimestamp contractSize
        contract.creationTimestamp tables =
      (contract.terms contractSize).map fun terms =>
        ((), (Terms.option terms).write id tables) := by
  unfold insertOption OptionContract.terms
  rw [parentKey_of (.inr parent)]
  cases numericColumn "strike".toList contract.strike with
  | error failure => rfl
  | ok strike =>
      cases intColumn "contract_size".toList contractSize with
      | error failure => rfl
      | ok size =>
          cases checkedColumn "option_type".toList optionTypes.contains contract.optionType <;> rfl

theorem insertFuture_terms (contract : FutureContract) (contractSize : Option Int)
    (parent : tables.HasInstrument id) :
    insertFuture id contract.settlementPeriod contract.expirationTimestamp contractSize
        contract.creationTimestamp tables =
      (contract.terms contractSize).map fun terms =>
        ((), (Terms.future terms).write id tables) := by
  unfold insertFuture FutureContract.terms
  rw [parentKey_of (.inr parent)]
  cases intColumn "contract_size".toList contractSize with
  | error failure => rfl
  | ok size =>
      cases checkedColumn "settlement_period".toList (· ≠ perpetualPeriod)
        contract.settlementPeriod <;> rfl

theorem insertCurrency_terms (parent : tables.HasInstrument id) :
    insertCurrency id tables = .ok ((), Terms.currency.write id tables) :=
  insertCurrency_ok_iff.mpr ⟨.inr parent, rfl⟩

/-- The statement of a subtype table fails with its columns, or writes them under the id
of its parent. -/
structure WritesTerms (table : SubtypeTable)
    (subtype : Int → Option Int → Tables → Except Failure (Unit × Tables))
    (terms : Option Int → Except Failure Terms) : Prop where
  statement : ∀ {id tables} size, tables.HasInstrument id →
    subtype id size tables = (terms size).map fun written => ((), written.write id tables)
  typed : ∀ {size written}, terms size = .ok written → written.table = table

theorem OptionContract.writesTerms (contract : OptionContract) :
    WritesTerms .option
      (fun id contractSize =>
        insertOption id contract.optionType contract.strike contract.expirationTimestamp
          contractSize contract.creationTimestamp)
      (fun contractSize => (contract.terms contractSize).map Terms.option) where
  statement size parent := by
    rw [insertOption_terms contract size parent]
    cases contract.terms size <;> rfl
  typed {size written} chosen := by
    obtain ⟨terms, -, rfl⟩ := except_map_ok chosen
    rfl

theorem FutureContract.writesTerms (contract : FutureContract) :
    WritesTerms .future
      (fun id contractSize =>
        insertFuture id contract.settlementPeriod contract.expirationTimestamp contractSize
          contract.creationTimestamp)
      (fun contractSize => (contract.terms contractSize).map Terms.future) where
  statement size parent := by
    rw [insertFuture_terms contract size parent]
    cases contract.terms size <;> rfl
  typed {size written} chosen := by
    obtain ⟨terms, -, rfl⟩ := except_map_ok chosen
    rfl

end Subtype

theorem hasInstrument_of_stored {tables : Tables} {name : Text}
    (stored : ∃ row ∈ tables.instrument, row.instrumentId = id ∧ row.symbol = name) :
    tables.HasInstrument id := by
  obtain ⟨row, member, isId, -⟩ := stored
  exact List.mem_map.mpr ⟨row, member, isId⟩

/-- Terms written under the id of a symbol are attached to it. -/
theorem Shows.attach {name : Text} (shows : Shows venueId session chain)
    (stored : ∃ row ∈ session.working.instrument, row.instrumentId = id ∧ row.symbol = name)
    (terms : Terms)
    (written : RowWritten terms.table id session.working (terms.write id session.working)) :
    Shows venueId { session with working := terms.write id session.working }
      (chain.attach name terms) := by
  have stores := shows.stores
  refine ⟨⟨written.valid, stores.positive, ?_, ?_, ?_, ?_⟩, ?_⟩
  · simp only [written.venue]
    exact stores.venuesIssued
  · simp only [written.instrument]
    exact stores.issued
  · simp only [written.venue]
    exact stores.deribit
  · rw [chainOf_write stores.valid shows.ofVenue stored, stores.chain]
  · simp only [written.venue]
    exact shows.venue

/-! ## The upserts -/

theorem contractUpdate_of_columns {table : SubtypeTable} {contractSize : Option Numeric}
    {terms : Option Int → Except Failure Terms} {name : Text} {size : Numeric}
    {narrowed : Option Int}
    (columns : instrumentColumns symbol tickSize table.instrumentType = .ok (name, size))
    (narrowing : asInt contractSize = .ok narrowed) :
    contractUpdate symbol tickSize table contractSize terms =
      (terms narrowed).map fun written => ⟨name, size, written⟩ := by
  unfold contractUpdate
  rw [columns, narrowing]
  simp only [bind, Except.bind]
  cases terms narrowed <;> rfl

/-- A contract upsert makes the update of its contract. -/
theorem performs_upsertContract (table : SubtypeTable) {contractSize : Option Numeric}
    {subtype : Int → Option Int → Tables → Except Failure (Unit × Tables)}
    {terms : Option Int → Except Failure Terms} (writing : WritesTerms table subtype terms)
    (writes : ∀ {id size done} {tables after : Tables}, tables.Valid →
      subtype id size tables = .ok (done, after) → RowWritten table id tables after) :
    Performs (Shows venueId) Chain.apply
      (upsertContract venueId symbol tickSize table.instrumentType contractSize subtype)
      (contractUpdate symbol tickSize table contractSize terms >>= fun chosen => .ok [chosen]) := by
  intro session chain shows
  unfold upsertContract
  rcases shows.executeInstrument symbol tickSize table.instrumentType with
    ⟨failure, last, columns, failed⟩ | ⟨name, size, id, next, columns, ran, showsNext, stored⟩
  · unfold contractUpdate
    rw [columns]
    exact ⟨last, bind_of_error failed⟩
  cases narrowing : asInt contractSize with
  | error failure =>
      unfold contractUpdate
      rw [columns, narrowing]
      exact ⟨next, (bind_of_ok ran).trans rfl⟩
  | ok narrowed =>
      have ends := writing.statement narrowed (hasInstrument_of_stored stored)
      rw [contractUpdate_of_columns columns narrowing]
      cases chosen : terms narrowed with
      | error failure =>
          rw [chosen] at ends
          exact ⟨next, (bind_of_ok ran).trans
            ((bind_of_ok rfl).trans (bind_of_error (execute_of_error ends)))⟩
      | ok written =>
          rw [chosen] at ends
          obtain rfl := writing.typed chosen
          have attached := showsNext.attach stored written (writes showsNext.stores.valid ends)
          exact ⟨id, _, (bind_of_ok ran).trans
            ((bind_of_ok rfl).trans ((bind_of_ok (execute_of_ok ends)).trans rfl)), attached⟩

theorem performs_upsertOptionContract (contract : OptionContract) :
    Performs (Shows venueId) Chain.apply (upsertOptionContract venueId contract)
      (contract.update >>= fun chosen => .ok [chosen]) :=
  performs_upsertContract .option contract.writesTerms insertOption_writes

theorem performs_upsertFutureContract (contract : FutureContract) :
    Performs (Shows venueId) Chain.apply (upsertFutureContract venueId contract)
      (contract.update >>= fun chosen => .ok [chosen]) := by
  unfold upsertFutureContract FutureContract.update
  split
  · exact .throw _
  · exact performs_upsertContract .future contract.writesTerms insertFuture_writes

/-- The columns of the index convert. -/
theorem btcUsd_columns :
    instrumentColumns (some btcUsdSymbol) btcUsdPlaceholderTickSize "currency".toList =
      .ok (btcUsdSymbol, btcUsdPlaceholderTickSize) := by
  decide +kernel

/-- The index is listed with its placeholder tick size. -/
theorem performs_ensureCurrencyInstrument :
    Performs (Shows venueId) Chain.apply
      (ensureCurrencyInstrument venueId btcUsdSymbol btcUsdPlaceholderTickSize)
      (.ok [currencyUpdate]) := by
  intro session chain shows
  rcases shows.executeInstrument (some btcUsdSymbol) btcUsdPlaceholderTickSize
      "currency".toList with ⟨failure, last, failed, -⟩ | ⟨name, size, id, next, isOk, ran,
        showsNext, stored⟩
  · rw [btcUsd_columns] at failed
    cases failed
  rw [btcUsd_columns] at isOk
  cases isOk
  have ends := insertCurrency_terms (hasInstrument_of_stored stored)
  have attached :=
    showsNext.attach stored .currency (insertCurrency_writes showsNext.stores.valid ends)
  exact ⟨id, _, (bind_of_ok ran).trans ((bind_of_ok (execute_of_ok ends)).trans rfl), attached⟩

/-- The upserts of a run make the updates its responses choose. -/
theorem performs_upsertAll (venueId : Int) (responses : Responses) :
    Performs (Shows venueId) Chain.apply (upsertAll responses venueId) responses.updates := by
  unfold upsertAll Responses.updates
  refine .ofExcept_bind fun rawOptions => .ofExcept_bind fun contracts => ?_
  have futures : ∀ options, Performs (Shows venueId) Chain.apply
      (do
        let rawFutures ← Program.ofExcept responses.futures.get
        let allFutures ← Program.ofExcept (rawFutures.mapM FutureContract.fromApi)
        let futures ← each (upsertFutureContract venueId)
          (allFutures.filter fun future => !future.isPerpetual)
        let currency ←
          ensureCurrencyInstrument venueId btcUsdSymbol btcUsdPlaceholderTickSize
        return (⟨options, futures, currency⟩ : Ingested))
      (responses.futures.get >>= fun rawFutures =>
        rawFutures.mapM FutureContract.fromApi >>= fun allFutures =>
          (allFutures.filter fun future => !future.isPerpetual).mapM FutureContract.update >>=
            fun futures => .ok (futures ++ [currencyUpdate])) := by
    intro options
    refine .ofExcept_bind fun rawFutures => .ofExcept_bind fun allFutures => ?_
    exact (Performs.each performs_upsertFutureContract _).bind fun futures =>
      performs_ensureCurrencyInstrument.bind fun currency => .pure _
  have sequence := (Performs.each performs_upsertOptionContract contracts).bind futures
  simp only [bind_assoc] at sequence
  simp only [List.append_assoc]
  exact sequence

end QuantGateway.Ingest
