import QuantGateway.Foundation.TransitionSystem
import QuantGateway.Ingest.ReferenceData

/-!
Owns `reference_ingest.run` and the transition system of its invocations: a label
is one invocation with what the exchange answered and how it ended.

An invocation that raises rolls its transaction back; what it had committed, the
seeded venue, and the ids it took stay. Does not own invocations that run at the
same time.
-/

namespace QuantGateway.Ingest

open QuantGateway.Foundation
open QuantGateway.Foundation.ExtendedRational
open QuantGateway.Foundation.Program
open QuantGateway.SecurityMaster

/-- What `get_instruments` comes back with. -/
inductive Response (Payload : Type) where
  /-- `raise_for_status` -/
  | httpError
  /-- The body has an `error`. -/
  | apiError
  | result (payloads : List Payload)
deriving DecidableEq, Repr

variable {Payload : Type}

def Response.get : Response Payload → Except Failure (List Payload)
  | .httpError => .error .httpStatus
  | .apiError => .error .deribitApi
  | .result payloads => .ok payloads

/-- The payloads of a response. -/
def Response.payloads : Response Payload → List Payload
  | .httpError => []
  | .apiError => []
  | .result payloads => payloads

/-- The responses to `kind=option` and `kind=future`. -/
structure Responses where
  options : Response OptionPayload
  futures : Response FuturePayload
deriving DecidableEq, Repr

/-- The ids the upserts of a run return. -/
structure Ingested where
  options : List Int
  futures : List Int
  currency : Int
deriving DecidableEq, Repr

def btcUsdSymbol : Text := "btc_usd".toList

def btcUsdPlaceholderTickSize : Numeric := .finite (1 / 100)

/-- The upserts of a run, between the lookup of the venue and the commit. -/
def upsertAll (responses : Responses) (venueId : Int) : Statement Ingested := do
  let rawOptions ← Program.ofExcept responses.options.get
  let contracts ← Program.ofExcept (rawOptions.mapM OptionContract.fromApi)
  let options ← each (upsertOptionContract venueId) contracts
  let rawFutures ← Program.ofExcept responses.futures.get
  let allFutures ← Program.ofExcept (rawFutures.mapM FutureContract.fromApi)
  let futures ← each (upsertFutureContract venueId)
    (allFutures.filter fun future => !future.isPerpetual)
  let currency ← ensureCurrencyInstrument venueId btcUsdSymbol btcUsdPlaceholderTickSize
  return { options := options, futures := futures, currency := currency }

def run (responses : Responses) : Statement Ingested := do
  ensureSchema
  let venueId ← getVenueId deribitVenueCode
  let ingested ← upsertAll responses venueId
  commit
  return ingested

/-! ## Invocations -/

/-- What the database keeps between connections. -/
structure Store where
  tables : Tables
  lastVenueId : Int
  lastInstrumentId : Int
deriving DecidableEq, Repr

namespace Store

/-- The tables just created. -/
def empty : Store where
  tables := .empty
  lastVenueId := 0
  lastInstrumentId := 0

/-- The tables just created, with the venue seeded. -/
def seeded : Store where
  tables := { Tables.empty with venue := [⟨1, deribitVenueCode⟩] }
  lastVenueId := 1
  lastInstrumentId := 0

theorem seeded_valid : seeded.tables.Valid := by
  have inserted : insertVenue 1 deribitVenueCode Tables.empty = .ok ((), seeded.tables) := by decide
  exact insertVenue_valid .empty inserted

/-- A new connection. -/
def connect (store : Store) : Session where
  committed := store.tables
  working := store.tables
  lastVenueId := store.lastVenueId
  lastInstrumentId := store.lastInstrumentId

/-- The end of a connection: an open transaction is rolled back. -/
def close (session : Session) : Store where
  tables := session.committed
  lastVenueId := session.lastVenueId
  lastInstrumentId := session.lastInstrumentId

end Store

/-- One invocation: how it ended and what it leaves. -/
def referenceIngest (responses : Responses) (store : Store) : Except Failure Ingested × Store :=
  match run responses store.connect with
  | .ok ingested session => (.ok ingested, .close session)
  | .error failure session => (.error failure, .close session)

structure Invocation where
  responses : Responses
  outcome : Except Failure Ingested

/-- Invocations one after the other on one database. -/
def ingests : TransitionSystem Store Invocation where
  Initial store := store = .empty
  Step store invocation next :=
    referenceIngest invocation.responses store = (invocation.outcome, next)

/-! ## How the upserts end -/

theorem Response.get_ok {response : Response Payload} {payloads : List Payload}
    (received : response.get = .ok payloads) : response = .result payloads := by
  cases response with
  | httpError => cases received
  | apiError => cases received
  | result content => exact congrArg _ (Except.ok.inj received)

/-- Both responses were read, and each loop ran through. -/
theorem upsertAll_ok {responses : Responses} {venueId : Int} {ingested : Ingested}
    {start last : Session} (ran : upsertAll responses venueId start = .ok ingested last) :
    (∃ options futures, responses = ⟨.result options, .result futures⟩) ∧
      ∃ contracts allFutures afterOptions afterFutures,
        responses.options.payloads.mapM OptionContract.fromApi = .ok contracts ∧
        each (upsertOptionContract venueId) contracts start = .ok ingested.options afterOptions ∧
        responses.futures.payloads.mapM FutureContract.fromApi = .ok allFutures ∧
        each (upsertFutureContract venueId) (allFutures.filter fun future => !future.isPerpetual)
          afterOptions = .ok ingested.futures afterFutures ∧
        ensureCurrencyInstrument venueId btcUsdSymbol btcUsdPlaceholderTickSize afterFutures =
          .ok ingested.currency last := by
  unfold upsertAll at ran
  obtain ⟨rawOptions, atOptions, optionsGot, afterGet⟩ := bind_ok ran
  obtain ⟨optionsReceived, rfl⟩ := ofExcept_ok optionsGot
  obtain ⟨contracts, atContracts, optionsRead, afterRead⟩ := bind_ok afterGet
  obtain ⟨optionsParsed, rfl⟩ := ofExcept_ok optionsRead
  obtain ⟨options, afterOptions, optionsRan, rest⟩ := bind_ok afterRead
  obtain ⟨rawFutures, atFutures, futuresGot, afterFuturesGet⟩ := bind_ok rest
  obtain ⟨futuresReceived, rfl⟩ := ofExcept_ok futuresGot
  obtain ⟨allFutures, atAllFutures, futuresRead, afterFuturesRead⟩ := bind_ok afterFuturesGet
  obtain ⟨futuresParsed, rfl⟩ := ofExcept_ok futuresRead
  obtain ⟨futures, afterFutures, futuresRan, currencyLeft⟩ := bind_ok afterFuturesRead
  obtain ⟨currency, afterCurrency, currencyRan, finished⟩ := bind_ok currencyLeft
  obtain ⟨rfl, rfl⟩ := pure_ok finished
  obtain ⟨optionResponse, futureResponse⟩ := responses
  obtain rfl := Response.get_ok optionsReceived
  obtain rfl := Response.get_ok futuresReceived
  exact ⟨⟨rawOptions, rawFutures, rfl⟩, contracts, allFutures, _, _, optionsParsed, optionsRan,
    futuresParsed, futuresRan, currencyRan⟩

/-! ## How an invocation ends -/

variable {responses : Responses} {store next : Store}

/-- A successful invocation commits all its upserts, over the seeded schema. -/
theorem referenceIngest_ok {ingested : Ingested}
    (ran : referenceIngest responses store = (.ok ingested, next)) :
    ∃ seeded venueId last, ensureSchema store.connect = .ok () seeded ∧
      ⟨venueId, deribitVenueCode⟩ ∈ seeded.working.venue ∧
      upsertAll responses venueId seeded = .ok ingested last ∧
      next.tables = last.working ∧ next.lastInstrumentId = last.lastInstrumentId := by
  unfold referenceIngest at ran
  split at ran
  next result session succeeded =>
    cases ran
    obtain ⟨done, seeded, schema, succeeded⟩ := bind_ok succeeded
    obtain ⟨venueId, looked, lookup, succeeded⟩ := bind_ok succeeded
    obtain ⟨ingested, last, upserts, succeeded⟩ := bind_ok succeeded
    cases succeeded
    obtain ⟨rfl, venue⟩ := getVenueId_ok lookup
    exact ⟨_, venueId, last, schema, venue, upserts, rfl, rfl⟩
  next => cases ran

/-- The upserts of a run have what each upsert has. -/
theorem upsertAll_closed {property : ∀ A : Type, Statement A → Prop} (closed : Closed property)
    {venueId : Int}
    (option : ∀ contract, property Int (upsertOptionContract venueId contract))
    (future : ∀ contract, property Int (upsertFutureContract venueId contract))
    (currency : ∀ symbol tickSize,
      property Int (ensureCurrencyInstrument venueId symbol tickSize)) :
    property Ingested (upsertAll responses venueId) := by
  apply closed.bind (closed.ofExcept _)
  intro rawOptions
  apply closed.bind (closed.ofExcept _)
  intro contracts
  apply closed.bind (closed.each option _)
  intro options
  apply closed.bind (closed.ofExcept _)
  intro rawFutures
  apply closed.bind (closed.ofExcept _)
  intro allFutures
  apply closed.bind (closed.each future _)
  intro futures
  apply closed.bind (currency _ _)
  intro currency
  exact closed.pure _

theorem upsertAll_uncommitted (responses : Responses) (venueId : Int) :
    Keeps Uncommitted (upsertAll responses venueId) :=
  upsertAll_closed uncommitted_frame.closed (uncommitted_frame.upsertOptionContract venueId)
    (uncommitted_frame.upsertFutureContract venueId)
    (uncommitted_frame.ensureCurrencyInstrument venueId)

/-- The seeding fails without having committed anything. -/
theorem ensureSchema_error {before after : Session} {failure : Failure}
    (ran : ensureSchema before = .error failure after) : Uncommitted before after := by
  rcases bind_error ran with next | ⟨newId, middle, next, inserting⟩
  · cases next
  · cases next
    rcases bind_error inserting with inserted | ⟨done, seeded, -, committed⟩
    · have kept := (execute_uncommitted _).of_error inserted
      exact kept
    · cases committed

/-- A failed invocation leaves the tables as they were or as the seeding left
them. -/
theorem referenceIngest_error {failure : Failure}
    (ran : referenceIngest responses store = (.error failure, next)) :
    (next.tables = store.tables ∧ store.lastInstrumentId ≤ next.lastInstrumentId) ∨
      ∃ seeded, ensureSchema store.connect = .ok () seeded ∧
        next.tables = seeded.committed ∧ seeded.lastInstrumentId ≤ next.lastInstrumentId := by
  unfold referenceIngest at ran
  split at ran
  next => cases ran
  next failed session raised =>
    cases ran
    rcases bind_error raised with schema | ⟨done, seeded, schema, afterSchema⟩
    · exact .inl (ensureSchema_error schema)
    · refine .inr ⟨seeded, schema, ?_⟩
      -- The commit cannot fail, so the failure came before it.
      rcases bind_error afterSchema with lookup | ⟨venueId, looked, lookup, afterLookup⟩
      · exact (execute_uncommitted _).of_error lookup
      · obtain ⟨rfl, -⟩ := getVenueId_ok lookup
        rcases bind_error afterLookup with upserts | ⟨ingested, last, -, committed⟩
        · exact (upsertAll_uncommitted responses venueId).of_error upserts
        · cases committed

end QuantGateway.Ingest
