import QuantGateway.Ingest.Calls
import QuantGateway.Ingest.ChainRefinement

/-!
Owns what the rows say after upserts: an upsert returns exactly when its columns
convert and its instrument can be placed, and then it has written the converted
columns under the id it returns.

From this follows what a log of upserts leaves in the rows of its venue, over
tables that hold anything else. Does not own which log a run makes.
-/

namespace QuantGateway.Ingest

open QuantGateway.Foundation
open QuantGateway.Foundation.Program
open QuantGateway.SecurityMaster

variable {venueId id : Int} {before after : Session}

/-! ## When an upsert returns -/

/-- An update of a venue was made: its symbol is placed with the next id of the
sequence at hand, and its terms are written under the id returned. -/
def Made (venueId : Int) (update : Update) (id : Int) (before after : Session) : Prop :=
  ∃ placed, Placed (before.lastInstrumentId + 1) venueId update.symbol update.tickSize
      update.terms.table.instrumentType before.working id placed ∧
    after =
      { before with
        working := update.terms.write id placed
        lastInstrumentId := before.lastInstrumentId + 1 }

theorem upsertContract_ok_iff {table : SubtypeTable} {symbol : Option Text} {tickSize : Numeric}
    {contractSize : Option Numeric}
    {subtype : Int → Option Int → Tables → Except Failure (Unit × Tables)}
    {terms : Option Int → Except Failure Terms} (writing : WritesTerms table subtype terms) :
    upsertContract venueId symbol tickSize table.instrumentType contractSize subtype before =
        .ok id after ↔
      ∃ update, contractUpdate symbol tickSize table contractSize terms = .ok update ∧
        Made venueId update id before after := by
  unfold upsertContract
  constructor
  · intro ran
    obtain ⟨instrumentId, middle, instrument, ran⟩ := bind_ok ran
    obtain ⟨narrowed, same, narrowing, ran⟩ := bind_ok ran
    obtain ⟨done, last, statement, ran⟩ := bind_ok ran
    obtain ⟨rfl, rfl⟩ := pure_ok ran
    obtain ⟨isNarrowed, rfl⟩ := ofExcept_ok narrowing
    obtain ⟨name, size, placed, columns, isPlaced, rfl⟩ := executeInstrument_ok_iff.mp instrument
    obtain ⟨working, written, rfl⟩ := execute_ok statement
    rw [writing.statement narrowed isPlaced.hasInstrument] at written
    obtain ⟨chosen, isChosen, isWritten⟩ := except_map_ok written
    obtain rfl := writing.typed isChosen
    cases isWritten
    refine ⟨⟨name, size, chosen⟩, ?_, placed, isPlaced, rfl⟩
    rw [contractUpdate_of_columns columns isNarrowed, isChosen]
    rfl
  · rintro ⟨update, chosen, placed, isPlaced, rfl⟩
    unfold contractUpdate at chosen
    obtain ⟨⟨name, size⟩, columns, chosen⟩ := except_bind_ok chosen
    obtain ⟨narrowed, narrowing, chosen⟩ := except_bind_ok chosen
    obtain ⟨written, isWritten, chosen⟩ := except_bind_ok chosen
    cases chosen
    obtain rfl := writing.typed isWritten
    have instrument :=
      executeInstrument_ok_iff.mpr ⟨name, size, placed, columns, isPlaced, rfl⟩
    have statement := writing.statement narrowed isPlaced.hasInstrument
    rw [isWritten] at statement
    rw [bind_of_ok instrument, narrowing]
    exact (bind_of_ok rfl).trans ((bind_of_ok (execute_of_ok statement)).trans rfl)

theorem ensureCurrencyInstrument_ok_iff {symbol : Text} {tickSize : Numeric} :
    ensureCurrencyInstrument venueId symbol tickSize before = .ok id after ↔
      ∃ name size, instrumentColumns (some symbol) tickSize "currency".toList = .ok (name, size) ∧
        Made venueId ⟨name, size, .currency⟩ id before after := by
  unfold ensureCurrencyInstrument
  constructor
  · intro ran
    obtain ⟨instrumentId, middle, instrument, ran⟩ := bind_ok ran
    obtain ⟨done, last, statement, ran⟩ := bind_ok ran
    obtain ⟨rfl, rfl⟩ := pure_ok ran
    obtain ⟨name, size, placed, columns, isPlaced, rfl⟩ := executeInstrument_ok_iff.mp instrument
    obtain ⟨working, written, rfl⟩ := execute_ok statement
    rw [insertCurrency_terms isPlaced.hasInstrument] at written
    cases written
    exact ⟨name, size, columns, placed, isPlaced, rfl⟩
  · rintro ⟨name, size, columns, placed, isPlaced, rfl⟩
    have instrument :=
      executeInstrument_ok_iff.mpr ⟨name, size, placed, columns, isPlaced, rfl⟩
    have statement := insertCurrency_terms isPlaced.hasInstrument
    exact (bind_of_ok instrument).trans ((bind_of_ok (execute_of_ok statement)).trans rfl)

/-! ## The update of a call -/

theorem contractUpdate_ok {symbol : Option Text} {tickSize : Numeric} {table : SubtypeTable}
    {contractSize : Option Numeric} {terms : Option Int → Except Failure Terms} {update : Update}
    (ran : contractUpdate symbol tickSize table contractSize terms = .ok update) :
    symbol = some update.symbol ∧ ∃ size, terms size = .ok update.terms := by
  unfold contractUpdate at ran
  obtain ⟨⟨name, size⟩, columns, ran⟩ := except_bind_ok ran
  obtain ⟨narrowed, -, ran⟩ := except_bind_ok ran
  obtain ⟨written, chosen, ran⟩ := except_bind_ok ran
  cases ran
  obtain ⟨-, named, -⟩ := instrumentColumns_ok_iff.mp columns
  exact ⟨named, narrowed, chosen⟩

theorem OptionContract.update_ok {contract : OptionContract} {update : Update}
    (ran : contract.update = .ok update) :
    contract.venueSymbol = some update.symbol ∧
      ∃ size terms, contract.terms size = .ok terms ∧ update.terms = .option terms := by
  obtain ⟨named, size, chosen⟩ := contractUpdate_ok ran
  obtain ⟨terms, written, isTerms⟩ := except_map_ok chosen
  exact ⟨named, size, terms, written, isTerms.symm⟩

theorem FutureContract.update_ok {contract : FutureContract} {update : Update}
    (ran : contract.update = .ok update) :
    contract.venueSymbol = some update.symbol ∧
      ∃ size terms, contract.terms size = .ok terms ∧ update.terms = .future terms := by
  unfold FutureContract.update at ran
  split at ran
  · cases ran
  · obtain ⟨named, size, chosen⟩ := contractUpdate_ok ran
    obtain ⟨terms, written, isTerms⟩ := except_map_ok chosen
    exact ⟨named, size, terms, written, isTerms.symm⟩

namespace Call

/-- The update of a call, when its columns convert. -/
def update : Call → Except Failure Update
  | .upsertOptionContract _ contract => contract.update
  | .upsertFutureContract _ contract => contract.update
  | .ensureCurrencyInstrument _ symbol tickSize =>
      (instrumentColumns (some symbol) tickSize "currency".toList).map
        fun (name, size) => ⟨name, size, .currency⟩

/-- An update has the name and the table of its call. -/
theorem update_ok {call : Call} {update : Update} (chosen : call.update = .ok update) :
    call.symbol = some update.symbol ∧ update.terms.table = call.table := by
  cases call with
  | upsertOptionContract venueId contract =>
      obtain ⟨named, size, terms, -, isTerms⟩ := OptionContract.update_ok chosen
      exact ⟨named, by rw [isTerms]; rfl⟩
  | upsertFutureContract venueId contract =>
      obtain ⟨named, size, terms, -, isTerms⟩ := FutureContract.update_ok chosen
      exact ⟨named, by rw [isTerms]; rfl⟩
  | ensureCurrencyInstrument venueId symbol tickSize =>
      obtain ⟨⟨name, size⟩, columns, rfl⟩ := except_map_ok chosen
      obtain ⟨-, named, -⟩ := instrumentColumns_ok_iff.mp columns
      exact ⟨named, rfl⟩

/-- A call returns exactly when its columns convert and its instrument can be placed. -/
theorem run_ok_iff {call : Call} :
    call.run before = .ok id after ↔
      ∃ update, call.update = .ok update ∧ Made call.venueId update id before after := by
  cases call with
  | upsertOptionContract venueId contract =>
      exact @upsertContract_ok_iff venueId id before after .option contract.venueSymbol
        contract.tickSize contract.contractSize _ _ contract.writesTerms
  | upsertFutureContract venueId contract =>
      unfold run Ingest.upsertFutureContract update FutureContract.update
      dsimp only
      split
      · constructor
        · intro ran
          cases ran
        · rintro ⟨update, chosen, -⟩
          cases chosen
      · exact @upsertContract_ok_iff venueId id before after .future contract.venueSymbol
          contract.tickSize contract.contractSize _ _ contract.writesTerms
  | ensureCurrencyInstrument venueId symbol tickSize =>
      refine ensureCurrencyInstrument_ok_iff.trans ⟨?_, ?_⟩
      · rintro ⟨name, size, columns, made⟩
        refine ⟨⟨name, size, .currency⟩, ?_, made⟩
        change Except.map _ (instrumentColumns (some symbol) tickSize "currency".toList) = _
        rw [columns]
        rfl
      · rintro ⟨update, chosen, made⟩
        obtain ⟨⟨name, size⟩, columns, rfl⟩ := except_map_ok chosen
        exact ⟨name, size, columns, made⟩

/-- What a call that returns has done, with its update. -/
theorem made {call : Call} (valid : before.working.Valid) (issued : 0 ≤ before.lastInstrumentId)
    (ran : call.run before = .ok id after) :
    ∃ update, call.update = .ok update ∧ Made call.venueId update id before after ∧
      UpsertedInto update.terms.table call.venueId update.symbol id before after := by
  obtain ⟨update, chosen, made⟩ := run_ok_iff.mp ran
  obtain ⟨named, isTable⟩ := update_ok chosen
  obtain ⟨name, isName, upserted⟩ := run_ok valid issued ran
  rw [named] at isName
  cases isName
  rw [← isTable] at upserted
  exact ⟨update, chosen, made, upserted⟩

/-- A call whose instrument is stored returns its id, if the columns convert. -/
theorem returns_of_stored {call : Call} {update : Update} (valid : before.working.Valid)
    (converts : call.update = .ok update) {identity : Identity}
    (stored : identity ∈ identities before.working) (named : call.Names identity) :
    ∃ after, call.run before = .ok identity.instrumentId after := by
  obtain ⟨row, inRows, rfl⟩ := List.mem_map.mp stored
  obtain ⟨ofVenue, isName⟩ := named
  have isSymbol : row.symbol = update.symbol :=
    Option.some.inj (isName.symm.trans (update_ok converts).1)
  obtain ⟨existing, found⟩ : ∃ existing, (before.working.instrument.find? fun other =>
      other.venueId = call.venueId ∧ other.symbol = update.symbol) = some existing :=
    exists_find?_of_mem inRows (decide_eq_true ⟨ofVenue, isSymbol⟩)
  have holds := List.find?_some found
  simp only [decide_eq_true_eq] at holds
  have sameName : (existing.venueId, existing.symbol) = (row.venueId, row.symbol) :=
    Prod.ext (holds.1.trans ofVenue.symm) (holds.2.trans isSymbol.symm)
  obtain rfl := eq_of_key_eq valid.instrumentName (List.mem_of_find?_eq_some found) inRows sameName
  exact ⟨_, run_ok_iff.mpr ⟨update, converts, _, .known found, rfl⟩⟩

end Call

/-! ## What one update leaves in the rows -/

/-- A row of a subtype table says the terms of an id. -/
def Terms.StoredUnder (id : Int) (tables : Tables) : Terms → Prop
  | .option terms => terms.row id ∈ tables.option
  | .future terms => terms.row id ∈ tables.future
  | .currency => ⟨id⟩ ∈ tables.currencies

section Rows

variable {newId : Int} {symbol type : Text} {tickSize : Numeric} {tables placed : Tables}
  {terms other : Terms}

theorem Terms.StoredUnder.self (id : Int) (tables : Tables) (terms : Terms) :
    terms.StoredUnder id (terms.write id tables) := by
  cases terms <;> exact self_mem_upsert _ _

theorem Terms.StoredUnder.key (stored : terms.StoredUnder id tables) :
    id ∈ terms.table.keys tables := by
  cases terms <;> exact List.mem_map.mpr ⟨_, stored, rfl⟩

/-- Terms written to another table, or under another id, leave a row as it is. -/
theorem Terms.StoredUnder.write {otherId : Int} (stored : terms.StoredUnder id tables)
    (apart : other.table ≠ terms.table ∨ otherId ≠ id) :
    terms.StoredUnder id (other.write otherId tables) := by
  have sameTable (same : other.table = terms.table) : id ≠ otherId := by
    rcases apart with apart | apart
    · exact absurd same apart
    · exact apart.symm
  cases terms with
  | option terms =>
      cases other with
      | option => exact mem_upsert_of_ne stored (sameTable rfl)
      | future => exact stored
      | currency => exact stored
  | future terms =>
      cases other with
      | option => exact stored
      | future => exact mem_upsert_of_ne stored (sameTable rfl)
      | currency => exact stored
  | currency =>
      cases other with
      | option => exact stored
      | future => exact stored
      | currency => exact mem_upsert_of_ne stored (sameTable rfl)

theorem Terms.StoredUnder.afterPlaced {placedId : Int} (stored : terms.StoredUnder id tables)
    (isPlaced : Placed newId venueId symbol tickSize type tables placedId placed) :
    terms.StoredUnder id placed := by
  cases isPlaced <;> cases terms <;> exact stored

@[simp] theorem Terms.write_instrument (terms : Terms) (id : Int) (tables : Tables) :
    (terms.write id tables).instrument = tables.instrument := by
  cases terms <;> rfl

/-- Placing a symbol keeps the instruments, and the tick sizes of the other ones. -/
theorem Placed.kept (isPlaced : Placed newId venueId symbol tickSize type tables id placed)
    {row : Instrument} (member : row ∈ tables.instrument) :
    ∃ kept ∈ placed.instrument, Identity.of kept = Identity.of row ∧
      (¬ (row.venueId = venueId ∧ row.symbol = symbol) → kept.tickSize = row.tickSize) := by
  cases isPlaced with
  | known =>
      refine ⟨_, List.mem_map_of_mem member, ?_, ?_⟩
      · split <;> rfl
      · intro apart
        rw [if_neg apart]
  | appended => exact ⟨row, List.mem_append_left _ member, rfl, fun _ => rfl⟩

end Rows

variable {update : Update}

/-- The rows of the update itself. -/
theorem Made.stored (made : Made venueId update id before after) :
    ∃ row ∈ after.working.instrument, row.instrumentId = id ∧ row.venueId = venueId ∧
      row.symbol = update.symbol ∧ row.tickSize = update.tickSize ∧
      update.terms.StoredUnder id after.working := by
  obtain ⟨placed, isPlaced, rfl⟩ := made
  obtain ⟨row, member, isId, ofVenue, named, sized⟩ := isPlaced.stored
  refine ⟨row, ?_, isId, ofVenue, named, sized, .self id placed update.terms⟩
  rw [Terms.write_instrument]
  exact member

/-! ## What a log of updates leaves in the rows -/

/-- The instrument of an update, after later ones: it has its row in the subtype table,
the tick size is the update's until the symbol is updated again, and the terms are the
update's until the symbol is updated again in the same table. -/
def Update.ShownAfter (venueId : Int) (later : List Update) (tables : Tables) (update : Update) :
    Prop :=
  ∃ row ∈ tables.instrument, row.venueId = venueId ∧ row.symbol = update.symbol ∧
    row.instrumentId ∈ update.terms.table.keys tables ∧
    ((∀ other ∈ later, other.symbol ≠ update.symbol) → row.tickSize = update.tickSize) ∧
    ((∀ other ∈ later, other.symbol = update.symbol → other.terms.table ≠ update.terms.table) →
      update.terms.StoredUnder row.instrumentId tables)

/-- The rows of a venue show a log of updates, and no instrument is new but those of the
log, each with the type of its first update. -/
structure Recorded (venueId : Int) (start : Tables) (updates : List Update) (tables : Tables) :
    Prop where
  rows : ∀ earlier update later, updates = earlier ++ update :: later →
    update.ShownAfter venueId later tables
  added : ∀ identity ∈ identities tables, identity ∈ identities start ∨
    identity.venueId = venueId ∧ ∃ update,
      (updates.find? fun update => update.symbol = identity.symbol) = some update ∧
        identity.instrumentType = update.terms.table.instrumentType

theorem Recorded.refl (venueId : Int) (start : Tables) : Recorded venueId start [] start where
  rows earlier update later same := by simp at same
  added identity member := .inl member

/-- A new update is shown. -/
theorem Made.shown (made : Made venueId update id before after) :
    update.ShownAfter venueId [] after.working := by
  obtain ⟨row, member, rfl, ofVenue, named, sized, stored⟩ := made.stored
  exact ⟨row, member, ofVenue, named, stored.key, fun _ => sized, fun _ => stored⟩

/-- An earlier update is shown as long as it is the last one of its columns. -/
theorem Update.ShownAfter.made {written : Update} {later : List Update}
    (shown : written.ShownAfter venueId later before.working)
    (made : Made venueId update id before after) (valid : after.working.Valid)
    (grows : Grows before.working after.working) :
    written.ShownAfter venueId (later ++ [update]) after.working := by
  obtain ⟨row, member, ofVenue, named, key, sized, said⟩ := shown
  obtain ⟨placed, isPlaced, rfl⟩ := made
  obtain ⟨kept, inPlaced, same, sameSize⟩ := isPlaced.kept member
  have sameId : kept.instrumentId = row.instrumentId := congrArg Identity.instrumentId same
  have sameVenue : kept.venueId = row.venueId := congrArg Identity.venueId same
  have sameSymbol : kept.symbol = row.symbol := congrArg Identity.symbol same
  have isLast : update ∈ later ++ [update] :=
    List.mem_append_right _ (List.mem_singleton_self _)
  refine ⟨kept, ?_, sameVenue.trans ofVenue, sameSymbol.trans named, ?_, ?_, ?_⟩
  · rw [Terms.write_instrument]
    exact inPlaced
  · rw [sameId]
    exact grows.keys _ key
  · intro last
    have apart : ¬ (row.venueId = venueId ∧ row.symbol = update.symbol) := by
      rintro ⟨-, isUpdate⟩
      exact last update isLast (isUpdate.symm.trans named)
    rw [sameSize apart]
    exact sized fun other inLater => last other (List.mem_append_left _ inLater)
  · intro last
    have stored := said fun other inLater => last other (List.mem_append_left _ inLater)
    rw [sameId]
    apply (stored.afterPlaced isPlaced).write
    by_cases sameName : update.symbol = written.symbol
    · exact .inl (last update isLast sameName)
    · -- Another symbol has another id.
      refine .inr fun isRow => sameName ?_
      obtain ⟨own, inOwn, isId, -, ownName, -⟩ := isPlaced.stored
      have keys := valid.instrumentKey
      rw [Terms.write_instrument] at keys
      have isOwn := eq_of_key_eq keys inOwn inPlaced (isId.trans (isRow.trans sameId.symm))
      rw [← ownName, isOwn, sameSymbol, named]

/-- One more update. -/
theorem Recorded.made {start : Tables} {updates : List Update}
    (recorded : Recorded venueId start updates before.working)
    (made : Made venueId update id before after)
    (upserted : UpsertedInto update.terms.table venueId update.symbol id before after) :
    Recorded venueId start (updates ++ [update]) after.working := by
  constructor
  · intro earlier written later split
    rcases List.eq_nil_or_concat' later with rfl | ⟨between, last, rfl⟩
    · obtain ⟨-, isUpdate⟩ := List.append_inj' split rfl
      cases isUpdate
      exact made.shown
    · rw [← List.cons_append, ← List.append_assoc] at split
      obtain ⟨old, isLast⟩ := List.append_inj' split rfl
      cases isLast
      exact (recorded.rows earlier written between old).made made upserted.valid upserted.rows
  · have old : ∀ identity ∈ identities before.working, identity ∈ identities start ∨
        identity.venueId = venueId ∧ ∃ first,
          ((updates ++ [update]).find? fun other => other.symbol = identity.symbol) =
            some first ∧ identity.instrumentType = first.terms.table.instrumentType := by
      intro identity member
      rcases recorded.added identity member with known | ⟨ofVenue, first, found, typed⟩
      · exact .inl known
      · exact .inr ⟨ofVenue, first, by rw [List.find?_append, found, Option.some_or], typed⟩
    intro identity member
    rcases upserted.identity with ⟨stored, -, same⟩ | ⟨absent, appended⟩
    · exact old identity (same ▸ member)
    · rw [appended] at member
      rcases List.mem_append.mp member with inBefore | isNew
      · exact old identity inBefore
      · rw [List.mem_singleton.mp isNew]
        refine .inr ⟨rfl, update, ?_, rfl⟩
        -- An earlier update of the symbol would have left its instrument.
        have none : (updates.find? fun other => other.symbol = update.symbol) = none := by
          rw [List.find?_eq_none]
          intro other inUpdates isSymbol
          obtain ⟨earlier, later, split⟩ := List.append_of_mem inUpdates
          obtain ⟨row, inRows, ofVenue, named, -⟩ := recorded.rows earlier other later split
          exact absent _ (List.mem_map_of_mem inRows)
            ⟨ofVenue, named.trans (of_decide_eq_true isSymbol)⟩
        rw [List.find?_append, none, Option.none_or, List.find?_singleton]
        simp

end QuantGateway.Ingest
