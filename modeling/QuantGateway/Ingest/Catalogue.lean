import QuantGateway.Ingest.ReferenceIngest
import QuantGateway.SecurityMaster.Fidelity

/-!
Owns the abstract catalogue: the names the exchange has listed so far, each with
the kind it was listed under, and the invariant that ties it to the database.
After any history of invocations the stored instruments are exactly the listed
names, and each keeps the type of the first kind it was listed under.

Does not own the other columns of an instrument.
-/

namespace QuantGateway.Ingest

open QuantGateway.Foundation
open QuantGateway.Foundation.Program
open QuantGateway.MarketData
open QuantGateway.SecurityMaster

/-- A name with the kind it is listed under; `btc_usd` is listed as an index. -/
abbrev Listing := List (Text × InstrumentKind)

/-- The kind a name was first listed under. -/
def firstKind (listed : Listing) (name : Text) : Option InstrumentKind :=
  (listed.find? fun entry => entry.1 = name).map Prod.snd

/-! ## Listings -/

section Listings

variable {listed more : Listing} {name : Text} {kind : InstrumentKind}

theorem firstKind_append (listed more : Listing) (name : Text) :
    firstKind (listed ++ more) name = (firstKind listed name).or (firstKind more name) := by
  unfold firstKind
  rw [List.find?_append, Option.map_or]

theorem firstKind_eq_none_iff :
    firstKind listed name = none ↔ ∀ entry ∈ listed, entry.1 ≠ name := by
  unfold firstKind
  rw [Option.map_eq_none_iff, List.find?_eq_none]
  simp only [decide_eq_true_eq, ne_eq]

theorem mem_of_firstKind (first : firstKind listed name = some kind) : (name, kind) ∈ listed := by
  obtain ⟨entry, found, rfl⟩ := Option.map_eq_some_iff.mp first
  obtain ⟨member, rfl⟩ := mem_of_find?_key found
  exact member

theorem firstKind_singleton : firstKind [(name, kind)] name = some kind := by
  simp [firstKind]

/-- A name listed under one kind only was first listed under it. -/
theorem firstKind_of_unique (member : (name, kind) ∈ listed)
    (unique : ∀ other, (name, other) ∈ listed → other = kind) :
    firstKind listed name = some kind := by
  cases first : firstKind listed name with
  | none => exact absurd rfl (firstKind_eq_none_iff.mp first _ member)
  | some other => rw [unique other (mem_of_firstKind first)]

end Listings

/-- A name is stored under an id. -/
def Held (tables : Tables) (name : Text) (id : Int) : Prop :=
  ∃ identity ∈ identities tables, identity.symbol = name ∧ identity.instrumentId = id

theorem Held.mono {before after : Tables} {name : Text} {id : Int} (held : Held before name id)
    (grows : identities before ⊆ identities after) : Held after name id := by
  obtain ⟨identity, member, here⟩ := held
  exact ⟨identity, grows member, here⟩

/-! ## The invariant -/

/-- The tables hold the listed names and no others, each under the type of the kind
it was first listed under, for the one venue. -/
structure Catalogued (listed : Listing) (tables : Tables) (lastInstrumentId : Int) : Prop where
  valid : tables.Valid
  issued : 0 ≤ lastInstrumentId
  deribit : ∀ venue ∈ tables.venue, venue.code = deribitVenueCode
  types : ∀ identity ∈ identities tables, ∃ kind,
    firstKind listed identity.symbol = some kind ∧
      kind.instrumentType = some identity.instrumentType
  complete : ∀ entry ∈ listed, ∃ id, Held tables entry.1 id

theorem Catalogued.empty : Catalogued [] Tables.empty 0 where
  valid := .empty
  issued := le_refl 0
  deribit := by simp [Tables.empty]
  types := by simp [identities, Tables.empty]
  complete := by simp

section Steps

variable {listed : Listing} {venueId id : Int} {type name : Text} {kind : InstrumentKind}
  {before after : Session}

theorem Upserted.held (upserted : Upserted venueId type name id before after) :
    Held after.working name id := by
  obtain ⟨storedType, member⟩ := upserted.stored
  exact ⟨_, member, rfl, rfl⟩

/-- All instruments are of the one venue with the code. -/
theorem Catalogued.venueId_eq {tables : Tables} {last : Int}
    (catalogued : Catalogued listed tables last)
    (venue : ⟨venueId, deribitVenueCode⟩ ∈ tables.venue) {identity : Identity}
    (member : identity ∈ identities tables) : identity.venueId = venueId := by
  have known := (validIdentities catalogued.valid).venue identity member
  obtain ⟨other, inVenues, sameId⟩ := List.mem_map.mp known
  have sameVenue := eq_of_key_eq catalogued.valid.venueCode inVenues venue
    (catalogued.deribit other inVenues)
  rw [← sameId, sameVenue]

/-- One upsert lists one name. -/
theorem Catalogued.upserted (catalogued : Catalogued listed before.working before.lastInstrumentId)
    (venue : ⟨venueId, deribitVenueCode⟩ ∈ before.working.venue)
    (typed : kind.instrumentType = some type)
    (upserted : Upserted venueId type name id before after) :
    Catalogued (listed ++ [(name, kind)]) after.working after.lastInstrumentId := by
  have stays {identity : Identity} (member : identity ∈ identities before.working) :
      ∃ stored, firstKind (listed ++ [(name, kind)]) identity.symbol = some stored ∧
        stored.instrumentType = some identity.instrumentType := by
    obtain ⟨stored, first, storedTyped⟩ := catalogued.types identity member
    refine ⟨stored, ?_, storedTyped⟩
    rw [firstKind_append, first, Option.some_or]
  constructor
  · exact upserted.valid
  · have issued := upserted.issued
    have positive := catalogued.issued
    omega
  · rw [upserted.venue]
    exact catalogued.deribit
  · intro identity member
    rcases upserted.identity with ⟨storedType, -, same⟩ | ⟨absent, appended⟩
    · rw [same] at member
      exact stays member
    · rw [appended] at member
      rcases List.mem_append.mp member with old | new
      · exact stays old
      · obtain rfl := List.mem_singleton.mp new
        -- A name without a row was never listed before.
        have unlisted : firstKind listed name = none := by
          rw [firstKind_eq_none_iff]
          intro entry listedBefore same
          obtain ⟨_, other, inTables, symbol, -⟩ := catalogued.complete entry listedBefore
          exact absent other inTables
            ⟨catalogued.venueId_eq venue inTables, symbol.trans same⟩
        refine ⟨kind, ?_, typed⟩
        rw [firstKind_append, unlisted, Option.none_or, firstKind_singleton]
  · intro entry member
    rcases List.mem_append.mp member with old | new
    · obtain ⟨oldId, held⟩ := catalogued.complete entry old
      exact ⟨oldId, held.mono upserted.grows⟩
    · obtain rfl := List.mem_singleton.mp new
      exact ⟨id, upserted.held⟩

/-! ## The loop over the contracts of one kind -/

section Loop

variable {Contract : Type} {upsertContract : Contract → Statement Int}
  {symbol : Contract → Option Text} {start last : Session}

/-- The loop has come so far: the contracts done are listed, and each returned id
holds its contract's name. -/
structure ListedSoFar (listed : Listing) (kind : InstrumentKind)
    (symbol : Contract → Option Text) (start : Session) (done : List (Contract × Int))
    (session : Session) : Prop where
  catalogued :
    Catalogued (listed ++ ((done.map Prod.fst).filterMap symbol).map (·, kind)) session.working
      session.lastInstrumentId
  venue : session.working.venue = start.working.venue
  grows : identities start.working ⊆ identities session.working
  held : ∀ pair ∈ done, ∃ name, symbol pair.1 = some name ∧ Held session.working name pair.2

theorem ListedSoFar.base
    (catalogued : Catalogued listed start.working start.lastInstrumentId) :
    ListedSoFar listed kind symbol start [] start where
  catalogued := by simpa using catalogued
  venue := rfl
  grows := List.Subset.refl _
  held := by simp

/-- One more contract. -/
theorem ListedSoFar.step {done : List (Contract × Int)} {contract : Contract}
    (soFar : ListedSoFar listed kind symbol start done before)
    (venue : ⟨venueId, deribitVenueCode⟩ ∈ start.working.venue)
    (typed : kind.instrumentType = some type) (named : symbol contract = some name)
    (upserted : Upserted venueId type name id before after) :
    ListedSoFar listed kind symbol start (done ++ [(contract, id)]) after := by
  rw [← soFar.venue] at venue
  constructor
  · have listedNext := soFar.catalogued.upserted venue typed upserted
    simpa [List.filterMap_append, named] using listedNext
  · exact upserted.venue.trans soFar.venue
  · exact List.Subset.trans soFar.grows upserted.grows
  · intro pair member
    rcases List.mem_append.mp member with old | new
    · obtain ⟨oldName, oldNamed, held⟩ := soFar.held pair old
      exact ⟨oldName, oldNamed, held.mono upserted.grows⟩
    · obtain rfl := List.mem_singleton.mp new
      exact ⟨name, named, upserted.held⟩

/-- The loop lists the contracts in order. -/
theorem Catalogued.each {table : SubtypeTable} {contracts : List Contract} {ids : List Int}
    (catalogued : Catalogued listed start.working start.lastInstrumentId)
    (venue : ⟨venueId, deribitVenueCode⟩ ∈ start.working.venue)
    (typed : kind.instrumentType = some table.instrumentType)
    (ran : Program.each upsertContract contracts start = .ok ids last)
    (upserts : ∀ {contract id} {before after : Session}, before.working.Valid →
      0 ≤ before.lastInstrumentId → upsertContract contract before = .ok id after →
      ∃ name, symbol contract = some name ∧ UpsertedInto table venueId name id before after) :
    Catalogued (listed ++ (contracts.filterMap symbol).map (·, kind)) last.working
        last.lastInstrumentId ∧
      last.working.venue = start.working.venue ∧
      identities start.working ⊆ identities last.working ∧
      List.Forall₂ (fun contract id => ∃ name, symbol contract = some name ∧
        Held last.working name id) contracts ids := by
  have preserved : ∀ done contract value session next, contract ∈ contracts →
      ListedSoFar listed kind symbol start done session →
      upsertContract contract session = .ok value next →
      ListedSoFar listed kind symbol start (done ++ [(contract, value)]) next := by
    intro done contract value session next _ soFar stepped
    obtain ⟨name, named, upserted⟩ :=
      upserts soFar.catalogued.valid soFar.catalogued.issued stepped
    exact soFar.step venue typed named upserted.toUpserted
  obtain ⟨pairs, rfl, rfl, soFar⟩ := each_ok ran preserved (.base catalogued)
  exact ⟨soFar.catalogued, soFar.venue, soFar.grows, forall₂_of_pairs soFar.held⟩

end Loop

end Steps

end QuantGateway.Ingest
