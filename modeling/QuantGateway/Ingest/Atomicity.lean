import QuantGateway.Ingest.RunUpdates
import QuantGateway.Ingest.Universe

/-!
Owns the all-or-nothing law of an ingest run over a schema that is in place: the
one early commit, that of the seeding, then commits nothing new, so a run that
raises leaves the tables as they were, and a run that returns has stored every
option, every dated future and `btc_usd` with their subtype rows.

Does not own the sequences, which a failed run advances.
-/

namespace QuantGateway.Ingest

open QuantGateway.Foundation
open QuantGateway.Foundation.Program
open QuantGateway.SecurityMaster

/-- The schema is in place and the venue seeded. -/
structure InPlace (store : Store) : Prop where
  valid : store.tables.Valid
  issued : 0 ≤ store.lastInstrumentId
  venue : ∃ venue ∈ store.tables.venue, venue.code = deribitVenueCode

/-- An instrument of a venue is stored, with its row of a subtype table. -/
def Stored (table : SubtypeTable) (venueId : Int) (tables : Tables) (name : Text) : Prop :=
  ∃ row ∈ tables.instrument, row.venueId = venueId ∧ row.symbol = name ∧
    row.instrumentId ∈ table.keys tables

/-- Both responses arrived, the rows show the updates of what they list, and each
instrument they list is stored. -/
structure Complete (responses : Responses) (venueId : Int) (before after : Tables) : Prop where
  answered : ∃ options futures, responses = ⟨.result options, .result futures⟩
  recorded : ∃ updates, responses.updates = .ok updates ∧ Recorded venueId before updates after
  options : ∀ payload ∈ responses.options.payloads, ∃ name,
    payload.instrumentName.get = some name ∧ Stored .option venueId after name
  futures : ∀ payload ∈ responses.datedFutures, ∃ name,
    payload.instrumentName.get = some name ∧ Stored .future venueId after name
  currency : Stored .currencies venueId after btcUsdSymbol

/-! ## The loop over the contracts of one kind -/

section Loop

variable {venueId : Int} {Contract : Type} {call : Contract → Call} {origin : Tables}
  {past : List Update} {start last : Session}

/-- The loop has come so far: the rows show the updates of the contracts done. -/
structure RecordedSoFar (venueId : Int) (call : Contract → Call) (origin : Tables)
    (past : List Update) (done : List (Contract × Int)) (session : Session) : Prop where
  valid : session.working.Valid
  issued : 0 ≤ session.lastInstrumentId
  recorded : ∃ updates, List.Forall₂ (fun pair update => (call pair.1).update = .ok update)
    done updates ∧ Recorded venueId origin (past ++ updates) session.working

theorem RecordedSoFar.step {done : List (Contract × Int)} {contract : Contract} {id : Int}
    {before after : Session} (soFar : RecordedSoFar venueId call origin past done before)
    (ofVenue : (call contract).venueId = venueId)
    (ran : (call contract).run before = .ok id after) :
    RecordedSoFar venueId call origin past (done ++ [(contract, id)]) after := by
  obtain ⟨update, chosen, made, upserted⟩ := Call.made soFar.valid soFar.issued ran
  rw [ofVenue] at made upserted
  obtain ⟨updates, pointwise, recorded⟩ := soFar.recorded
  refine ⟨upserted.valid, ?_, updates ++ [update], ?_, ?_⟩
  · have issued := upserted.issued
    have positive := soFar.issued
    omega
  · exact List.rel_append pointwise (.cons chosen .nil)
  · rw [← List.append_assoc]
    exact recorded.made made upserted

/-- The loop makes the update of every contract. -/
theorem each_recorded {contracts : List Contract} {ids : List Int}
    (ran : each (fun contract => (call contract).run) contracts start = .ok ids last)
    (ofVenue : ∀ contract, (call contract).venueId = venueId) (valid : start.working.Valid)
    (issued : 0 ≤ start.lastInstrumentId)
    (recorded : Recorded venueId origin past start.working) :
    ∃ updates, (contracts.mapM fun contract => (call contract).update) = .ok updates ∧
      last.working.Valid ∧ 0 ≤ last.lastInstrumentId ∧
      Recorded venueId origin (past ++ updates) last.working := by
  have base : RecordedSoFar venueId call origin past [] start :=
    ⟨valid, issued, [], .nil, by rwa [List.append_nil]⟩
  obtain ⟨pairs, rfl, -, soFar⟩ := each_ok ran
    (fun _ contract _ _ _ _ soFar stepped => soFar.step (ofVenue contract) stepped) base
  obtain ⟨updates, pointwise, whole⟩ := soFar.recorded
  refine ⟨updates, ?_, soFar.valid, soFar.issued, whole⟩
  apply except_mapM_of_forall₂
  rw [List.forall₂_map_left_iff]
  exact pointwise

end Loop

/-! ## A run that returns -/

variable {venueId : Int} {responses : Responses}

/-- The upserts of a run make the updates of its responses. -/
theorem upsertAll_recorded {ingested : Ingested} {start last : Session}
    (valid : start.working.Valid) (issued : 0 ≤ start.lastInstrumentId)
    (ran : upsertAll responses venueId start = .ok ingested last) :
    ∃ updates, responses.updates = .ok updates ∧
      Recorded venueId start.working updates last.working := by
  obtain ⟨⟨rawOptions, rawFutures, rfl⟩, contracts, allFutures, afterOptions, afterFutures,
    optionsParsed, optionsRan, futuresParsed, futuresRan, currencyRan⟩ := upsertAll_ok ran
  have optionCalls : each (fun contract => (Call.upsertOptionContract venueId contract).run)
      contracts start = .ok ingested.options afterOptions := optionsRan
  obtain ⟨options, optionUpdates, validOptions, issuedOptions, optionsRecorded⟩ :=
    each_recorded optionCalls (fun _ => rfl) valid issued (.refl venueId start.working)
  have futureCalls : each (fun contract => (Call.upsertFutureContract venueId contract).run)
      (allFutures.filter fun future => !future.isPerpetual) afterOptions =
        .ok ingested.futures afterFutures := futuresRan
  obtain ⟨futures, futureUpdates, validFutures, issuedFutures, futuresRecorded⟩ :=
    each_recorded futureCalls (fun _ => rfl) validOptions issuedOptions optionsRecorded
  have currencyCall : (Call.ensureCurrencyInstrument venueId btcUsdSymbol
      btcUsdPlaceholderTickSize).run afterFutures = .ok ingested.currency last := currencyRan
  obtain ⟨update, chosen, made, upserted⟩ := Call.made validFutures issuedFutures currencyCall
  have isCurrency : (Call.ensureCurrencyInstrument venueId btcUsdSymbol
      btcUsdPlaceholderTickSize).update = .ok currencyUpdate := by
    change Except.map _ (instrumentColumns _ _ _) = _
    rw [btcUsd_columns]
    rfl
  obtain rfl := Except.ok.inj (chosen.symm.trans isCurrency)
  refine ⟨options ++ futures ++ [currencyUpdate], ?_, futuresRecorded.made made upserted⟩
  have optionsMade : contracts.mapM OptionContract.update = .ok options := optionUpdates
  have futuresMade : (allFutures.filter fun future => !future.isPerpetual).mapM
      FutureContract.update = .ok futures := futureUpdates
  have optionsRead : rawOptions.mapM OptionContract.fromApi = .ok contracts := optionsParsed
  have futuresRead : rawFutures.mapM FutureContract.fromApi = .ok allFutures := futuresParsed
  simp only [Responses.updates, Response.get, bind, Except.bind, optionsRead, optionsMade,
    futuresRead, futuresMade]
  rfl

theorem Terms.table_of_option {terms : Terms} (kind : terms.kind = .option) :
    terms.table = .option := by
  cases terms with
  | option => rfl
  | future => cases kind
  | currency => cases kind

theorem Terms.table_of_future {terms : Terms} (kind : terms.kind = .future) :
    terms.table = .future := by
  cases terms with
  | option => cases kind
  | future => rfl
  | currency => cases kind

/-- The instrument of an update is stored. -/
theorem Recorded.stored {start tables : Tables} {updates : List Update} {update : Update}
    (recorded : Recorded venueId start updates tables) (member : update ∈ updates) :
    Stored update.terms.table venueId tables update.symbol := by
  obtain ⟨earlier, later, split⟩ := List.append_of_mem member
  obtain ⟨row, inRows, ofVenue, named, key, -⟩ := recorded.rows earlier update later split
  exact ⟨row, inRows, ofVenue, named, key⟩

theorem upsertAll_complete {ingested : Ingested} {start last : Session}
    (valid : start.working.Valid) (issued : 0 ≤ start.lastInstrumentId)
    (ran : upsertAll responses venueId start = .ok ingested last) :
    Complete responses venueId start.working last.working := by
  obtain ⟨updates, isUpdates, recorded⟩ := upsertAll_recorded valid issued ran
  obtain ⟨options, futures, rfl, optionUpdates, futureUpdates⟩ := Responses.updates_ok isUpdates
  refine ⟨(upsertAll_ok ran).1, ⟨_, isUpdates, recorded⟩, ?_, ?_, ?_⟩
  · intro payload member
    obtain ⟨update, inOptions, updated⟩ := exists_of_forall₂ optionUpdates member
    have stored := recorded.stored
      (List.mem_append_left [currencyUpdate] (List.mem_append_left futures inOptions))
    obtain ⟨named, kind⟩ := option_updated updated
    rw [Terms.table_of_option kind] at stored
    exact ⟨update.symbol, named, stored⟩
  · intro payload member
    obtain ⟨update, inFutures, updated⟩ := exists_of_forall₂ futureUpdates member
    have stored := recorded.stored
      (List.mem_append_left [currencyUpdate] (List.mem_append_right options inFutures))
    obtain ⟨named, kind⟩ := future_updated updated
    rw [Terms.table_of_future kind] at stored
    exact ⟨update.symbol, named, stored⟩
  · exact recorded.stored (List.mem_append_right _ (List.mem_singleton_self _))

/-! ## All or nothing -/

variable {store next : Store}

/-- Over a schema in place the seeding commits what was there. -/
theorem InPlace.seeding (inPlace : InPlace store) {done : Unit} {seeded : Session}
    (ran : ensureSchema store.connect = .ok done seeded) :
    seeded.working = store.tables ∧ seeded.committed = store.tables ∧
      seeded.lastInstrumentId = store.lastInstrumentId := by
  unfold ensureSchema at ran
  obtain ⟨newId, middle, next, afterNext⟩ := bind_ok ran
  cases next
  obtain ⟨_, inserted, insertion, committing⟩ := bind_ok afterNext
  obtain ⟨working, seeding, rfl⟩ := execute_ok insertion
  cases committing
  change insertVenue _ deribitVenueCode store.tables = _ at seeding
  unfold insertVenue at seeding
  rw [if_pos inPlace.venue] at seeding
  cases seeding
  exact ⟨rfl, rfl, rfl⟩

/-- A run that raises leaves the tables as they were. -/
theorem InPlace.failed (inPlace : InPlace store) {failure : Failure}
    (ran : referenceIngest responses store = (.error failure, next)) :
    next.tables = store.tables := by
  rcases referenceIngest_error ran with ⟨same, -⟩ | ⟨seeded, schema, committed, -⟩
  · exact same
  · exact committed.trans (inPlace.seeding schema).2.1

/-- A run that returns has stored everything for the venue. -/
theorem InPlace.succeeded (inPlace : InPlace store) {ingested : Ingested}
    (ran : referenceIngest responses store = (.ok ingested, next)) :
    ∃ venueId, ⟨venueId, deribitVenueCode⟩ ∈ store.tables.venue ∧
      Complete responses venueId store.tables next.tables := by
  obtain ⟨seeded, venueId, last, schema, venue, upserts, committed, -⟩ := referenceIngest_ok ran
  obtain ⟨working, -, sequence⟩ := inPlace.seeding schema
  rw [working] at venue
  have valid : seeded.working.Valid := working ▸ inPlace.valid
  have issued : 0 ≤ seeded.lastInstrumentId := sequence ▸ inPlace.issued
  have complete := upsertAll_complete valid issued upserts
  rw [working] at complete
  rw [committed]
  exact ⟨venueId, venue, complete⟩

/-- Over a schema in place a run is all or nothing. -/
theorem ingest_all_or_nothing (inPlace : InPlace store) {outcome : Except Failure Ingested}
    (ran : referenceIngest responses store = (outcome, next)) :
    (∀ failure, outcome = .error failure → next.tables = store.tables) ∧
      ∀ ingested, outcome = .ok ingested →
        ∃ venueId, ⟨venueId, deribitVenueCode⟩ ∈ store.tables.venue ∧
          Complete responses venueId store.tables next.tables := by
  constructor
  · rintro failure rfl
    exact inPlace.failed ran
  · rintro ingested rfl
    exact inPlace.succeeded ran

theorem seeded_inPlace : InPlace Store.seeded where
  valid := Store.seeded_valid
  issued := le_refl 0
  venue := ⟨_, List.mem_singleton_self _, rfl⟩

/-- The options were upserted when the futures cannot be fetched. -/
def brokenChain : Responses where
  options := .result [listedOption]
  futures := .httpError

/-- A broken run leaves nothing behind; the full one stores its rows. -/
theorem ingest_all_or_nothing_sample :
    (referenceIngest brokenChain Store.seeded).2.tables = Store.seeded.tables ∧
      ∃ venueId, ⟨venueId, deribitVenueCode⟩ ∈ Store.seeded.tables.venue ∧
        Complete fullChain venueId Store.seeded.tables
          (referenceIngest fullChain Store.seeded).2.tables := by
  have broken : (referenceIngest brokenChain Store.seeded).1 = .error .httpStatus := by
    decide +kernel
  have full : (referenceIngest fullChain Store.seeded).1 = .ok ⟨[1], [2], 3⟩ := by
    decide +kernel
  exact ⟨(ingest_all_or_nothing seeded_inPlace rfl).1 _ broken,
    (ingest_all_or_nothing seeded_inPlace rfl).2 _ full⟩

end QuantGateway.Ingest
