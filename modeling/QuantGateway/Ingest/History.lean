import QuantGateway.Ingest.Catalogue

/-!
Owns the listing of a history of invocations, and the invariant over every
history: a successful invocation lists its options, its dated futures and
`btc_usd`, a failed one lists nothing.
-/

namespace QuantGateway.Ingest

open QuantGateway.Foundation
open QuantGateway.Foundation.Program
open QuantGateway.MarketData
open QuantGateway.SecurityMaster

/-! ## What a run lists -/

namespace Responses

def optionNames (responses : Responses) : List Text :=
  responses.options.payloads.filterMap fun payload => payload.instrumentName.get

/-- The payloads of `kind=future` but for the perpetual ones. -/
def datedFutures (responses : Responses) : List FuturePayload :=
  responses.futures.payloads.filter fun payload =>
    payload.settlementPeriod.get ≠ some perpetualPeriod

def datedFutureNames (responses : Responses) : List Text :=
  responses.datedFutures.filterMap fun payload => payload.instrumentName.get

/-- The names a run writes, in the order it writes them. -/
def listing (responses : Responses) : Listing :=
  responses.optionNames.map (·, .option) ++ responses.datedFutureNames.map (·, .future) ++
    [(btcUsdSymbol, .index)]

end Responses

def Invocation.listing (invocation : Invocation) : Listing :=
  match invocation.outcome with
  | .ok _ => invocation.responses.listing
  | .error _ => []

/-- The names the successful invocations of a history listed. -/
def listing (history : List Invocation) : Listing :=
  history.flatMap Invocation.listing

/-! ## One invocation -/

/-- The ids a run returns hold the names of its payloads. -/
structure Reported (responses : Responses) (ingested : Ingested) (tables : Tables) : Prop where
  options : List.Forall₂ (fun payload id => ∃ name, payload.instrumentName.get = some name ∧
    Held tables name id) responses.options.payloads ingested.options
  futures : List.Forall₂ (fun payload id => ∃ name, payload.instrumentName.get = some name ∧
    Held tables name id) responses.datedFutures ingested.futures
  currency : Held tables btcUsdSymbol ingested.currency

variable {listed : Listing} {responses : Responses} {ingested : Ingested}

theorem Catalogued.seeded {store : Store} {seeded : Session}
    (catalogued : Catalogued listed store.tables store.lastInstrumentId)
    (ran : ensureSchema store.connect = .ok () seeded) :
    Catalogued listed seeded.working seeded.lastInstrumentId ∧
      seeded.committed = seeded.working := by
  obtain ⟨committed, valid, sequence, instruments, venues⟩ := ensureSchema_ok catalogued.valid ran
  have same : identities seeded.working = identities store.tables :=
    congrArg (List.map Identity.of) instruments
  refine ⟨⟨valid, ?_, ?_, ?_, ?_⟩, committed⟩
  · rw [sequence]
    exact catalogued.issued
  · intro venue member
    rcases venues venue member with old | new
    · exact catalogued.deribit venue old
    · exact new
  · rw [same]
    exact catalogued.types
  · intro entry member
    obtain ⟨id, held⟩ := catalogued.complete entry member
    exact ⟨id, held.mono (same ▸ List.Subset.refl _)⟩

/-! ### From payloads to contracts -/

theorem Responses.optionNames_eq {contracts : List OptionContract}
    (parsed : responses.options.payloads.mapM OptionContract.fromApi = .ok contracts) :
    responses.optionNames = contracts.filterMap OptionContract.venueSymbol :=
  filterMap_eq_of_forall₂ (except_mapM_ok parsed) fun _ _ here =>
    (OptionContract.fromApi_venueSymbol here).symm

/-- The contracts kept are those of the dated payloads. -/
theorem Responses.datedFutures_parsed {allFutures : List FutureContract}
    (parsed : responses.futures.payloads.mapM FutureContract.fromApi = .ok allFutures) :
    List.Forall₂ (fun payload contract => FutureContract.fromApi payload = .ok contract)
      responses.datedFutures (allFutures.filter fun future => !future.isPerpetual) := by
  apply List.rel_filter _ (except_mapM_ok parsed)
  intro payload contract here
  obtain ⟨-, period⟩ := FutureContract.fromApi_fields here
  simp [FutureContract.isPerpetual, period]

theorem Responses.datedFutureNames_eq {allFutures : List FutureContract}
    (parsed : responses.futures.payloads.mapM FutureContract.fromApi = .ok allFutures) :
    responses.datedFutureNames =
      (allFutures.filter fun future => !future.isPerpetual).filterMap FutureContract.venueSymbol :=
  filterMap_eq_of_forall₂ (datedFutures_parsed parsed) fun _ _ here =>
    (FutureContract.fromApi_fields here).1.symm

/-- Ids that hold the names of the contracts hold the names of their payloads, also
when more has been stored. -/
theorem reported_of_contracts {Payload Contract : Type} {parse : Payload → Except Failure Contract}
    {nameOf : Payload → Option Text} {symbol : Contract → Option Text} {payloads : List Payload}
    {contracts : List Contract} {ids : List Int} {before after : Tables}
    (kept : ∀ {payload contract}, parse payload = .ok contract → symbol contract = nameOf payload)
    (parsed : List.Forall₂ (fun payload contract => parse payload = .ok contract) payloads
      contracts)
    (held : List.Forall₂ (fun contract id => ∃ name, symbol contract = some name ∧
      Held before name id) contracts ids)
    (grows : identities before ⊆ identities after) :
    List.Forall₂ (fun payload id => ∃ name, nameOf payload = some name ∧ Held after name id)
      payloads ids := by
  apply (forall₂_comp parsed held).imp
  rintro payload id ⟨contract, here, name, named, holds⟩
  exact ⟨name, kept here ▸ named, holds.mono grows⟩

/-! ### The upserts of a run -/

/-- The upserts of a run list its payloads. -/
theorem Catalogued.upsertAll {venueId : Int} {start last : Session}
    (catalogued : Catalogued listed start.working start.lastInstrumentId)
    (venue : ⟨venueId, deribitVenueCode⟩ ∈ start.working.venue)
    (ran : upsertAll responses venueId start = .ok ingested last) :
    Catalogued (listed ++ responses.listing) last.working last.lastInstrumentId ∧
      Reported responses ingested last.working := by
  obtain ⟨-, contracts, allFutures, afterOptions, afterFutures, optionsParsed, optionsRan,
    futuresParsed, futuresRan, currencyRan⟩ := upsertAll_ok ran
  have optionType : InstrumentKind.option.instrumentType = some "option".toList := rfl
  have futureType : InstrumentKind.future.instrumentType = some "future".toList := rfl
  have currencyType : InstrumentKind.index.instrumentType = some "currency".toList := rfl
  obtain ⟨listedOptions, venueKept, -, optionIds⟩ :=
    catalogued.each venue optionType optionsRan upsertOptionContract_ok
  rw [← venueKept] at venue
  obtain ⟨listedFutures, venueKeptToo, futuresGrow, futureIds⟩ :=
    listedOptions.each venue futureType futuresRan upsertFutureContract_ok
  rw [← venueKeptToo] at venue
  have upserted :=
    ensureCurrencyInstrument_ok listedFutures.valid listedFutures.issued currencyRan
  refine ⟨?_, ?_, ?_, upserted.held⟩
  · have listedLast := listedFutures.upserted venue currencyType upserted.toUpserted
    rw [← Responses.optionNames_eq optionsParsed,
      ← Responses.datedFutureNames_eq futuresParsed] at listedLast
    simpa [Responses.listing] using listedLast
  · exact reported_of_contracts OptionContract.fromApi_venueSymbol (except_mapM_ok optionsParsed)
      optionIds (List.Subset.trans futuresGrow upserted.grows)
  · exact reported_of_contracts (fun here => (FutureContract.fromApi_fields here).1)
      (Responses.datedFutures_parsed futuresParsed) futureIds upserted.grows

variable {store next : Store}

theorem Catalogued.succeeded
    (catalogued : Catalogued listed store.tables store.lastInstrumentId)
    (ran : referenceIngest responses store = (.ok ingested, next)) :
    Catalogued (listed ++ responses.listing) next.tables next.lastInstrumentId ∧
      Reported responses ingested next.tables := by
  obtain ⟨seeded, venueId, last, schema, venue, upserts, tables, issued⟩ := referenceIngest_ok ran
  rw [tables, issued]
  exact (catalogued.seeded schema).1.upsertAll venue upserts

theorem Catalogued.failed {failure : Failure}
    (catalogued : Catalogued listed store.tables store.lastInstrumentId)
    (ran : referenceIngest responses store = (.error failure, next)) :
    Catalogued listed next.tables next.lastInstrumentId := by
  rcases referenceIngest_error ran with ⟨tables, issued⟩ | ⟨seeded, schema, tables, issued⟩
  · rw [tables]
    exact { catalogued with issued := le_trans catalogued.issued issued }
  · obtain ⟨cataloguedSeeded, committed⟩ := catalogued.seeded schema
    rw [tables, committed]
    exact { cataloguedSeeded with issued := le_trans cataloguedSeeded.issued issued }

/-! ## Histories -/

/-- The database of a store is the catalogue of what a history listed. -/
def CataloguedBy (history : List Invocation) (store : Store) : Prop :=
  Catalogued (listing history) store.tables store.lastInstrumentId

/-- One invocation extends the listing of the history. -/
theorem catalogued_step {past : List Invocation} {invocation : Invocation}
    (step : ingests.Step store invocation next)
    (catalogued : CataloguedBy past store) : CataloguedBy (past ++ [invocation]) next := by
  unfold CataloguedBy at catalogued ⊢
  have extended : listing (past ++ [invocation]) = listing past ++ invocation.listing := by
    simp [listing]
  rw [extended]
  obtain ⟨responses, outcome⟩ := invocation
  cases outcome with
  | ok ingested => exact (catalogued.succeeded step).1
  | error failure =>
      have kept := catalogued.failed step
      simpa [Invocation.listing] using kept

/-- The database after a history is the catalogue of what it listed. -/
theorem catalogued_run {history : List Invocation}
    (run : ingests.Run Store.empty history store) :
    CataloguedBy history store := by
  have base : CataloguedBy [] Store.empty := Catalogued.empty
  exact run.history catalogued_step base

end QuantGateway.Ingest
