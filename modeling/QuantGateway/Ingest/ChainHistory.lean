import QuantGateway.Ingest.ChainRefinement
import QuantGateway.Ingest.Universe

/-!
Owns the chain after a history of invocations: how an invocation ends depends on its
responses alone, and the database stores the chain that the updates of the successful
ones make in order.

Does not own what is read back from the stored chain (`Ingest.ChainRegistry`).
-/

namespace QuantGateway.Ingest

open QuantGateway.Foundation
open QuantGateway.Foundation.Program
open QuantGateway.SecurityMaster

/-- The chain that runs with these responses leave. -/
def Chain.after (received : List Responses) : Chain :=
  received.foldl (fun chain responses => (chain.ingest responses).2) []

/-- How an invocation ended, without the ids it returned. -/
def Invocation.ending (invocation : Invocation) : Except Failure Unit :=
  invocation.outcome.map fun _ => ()

/-- The database of a store stores a chain. -/
abbrev Store.Stores (store : Store) (chain : Chain) : Prop :=
  Ingest.Stores store.tables store.lastVenueId store.lastInstrumentId chain

variable {store next : Store} {chain : Chain}

theorem Store.stores_empty : Store.empty.Stores [] where
  valid := .empty
  positive := le_refl 0
  venuesIssued := by simp [Store.empty, Tables.empty]
  issued := ⟨by simp [Store.empty, Tables.empty], by simp [Store.empty, Tables.empty]⟩
  deribit := by simp [Store.empty, Tables.empty]
  chain := rfl

/-! ## Seeding -/

theorem getVenueId_of_mem {venueId : Int} {session : Session} (valid : session.working.Valid)
    (venue : ⟨venueId, deribitVenueCode⟩ ∈ session.working.venue) :
    getVenueId deribitVenueCode session = .ok venueId session := by
  have found : (session.working.venue.find? fun venue => venue.code = deribitVenueCode) =
      some ⟨venueId, deribitVenueCode⟩ := find?_key_of_mem valid.venueCode venue
  unfold getVenueId
  refine execute_of_ok ?_
  rw [found]

/-- The seeding `INSERT` has a new id to give. -/
theorem exists_insertVenue {tables : Tables} {last : Int}
    (issued : ∀ venue ∈ tables.venue, venue.venueId ≤ last) (code : Text) :
    ∃ after, insertVenue (last + 1) code tables = .ok ((), after) := by
  by_cases present : ∃ venue ∈ tables.venue, venue.code = code
  · exact ⟨tables, insertVenue_ok_iff.mpr (.inl ⟨present, rfl⟩)⟩
  · refine ⟨_, insertVenue_ok_iff.mpr (.inr ⟨present, ?_, rfl⟩)⟩
    intro taken
    obtain ⟨venue, member, same⟩ := List.mem_map.mp taken
    have bounded := issued venue member
    omega

/-- The seeded venue changes nothing but the venues. -/
theorem Stores.seeded {tables after : Tables} {lastVenueId lastInstrumentId : Int}
    (stores : Stores tables lastVenueId lastInstrumentId chain)
    (inserted : insertVenue (lastVenueId + 1) deribitVenueCode tables = .ok ((), after)) :
    Stores after (lastVenueId + 1) lastInstrumentId chain ∧
      ∃ venueId, ⟨venueId, deribitVenueCode⟩ ∈ after.venue := by
  have bounded : ∀ venue ∈ tables.venue, venue.venueId ≤ lastVenueId + 1 := fun venue member =>
    (stores.venuesIssued venue member).trans (Int.le_add_one (le_refl _))
  have valid := insertVenue_valid stores.valid inserted
  rcases insertVenue_ok_iff.mp inserted with ⟨⟨venue, member, isCode⟩, rfl⟩ | ⟨-, -, rfl⟩
  · exact ⟨{ stores with venuesIssued := bounded }, venue.venueId, isCode ▸ member⟩
  · refine ⟨?_, lastVenueId + 1, List.mem_append_right _ (List.mem_singleton_self _)⟩
    refine { stores with valid := valid, venuesIssued := ?_, deribit := ?_ }
    · intro venue member
      rcases List.mem_append.mp member with old | new
      · exact bounded venue old
      · rw [List.mem_singleton.mp new]
    · intro venue member
      rcases List.mem_append.mp member with old | new
      · exact stores.deribit venue old
      · rw [List.mem_singleton.mp new]

/-- Seeding cannot fail. -/
theorem Store.Stores.seeded (stores : store.Stores chain) :
    ∃ venueId seeded, ensureSchema store.connect = .ok () seeded ∧
      seeded.committed = seeded.working ∧ Shows venueId seeded chain := by
  obtain ⟨after, inserted⟩ := exists_insertVenue stores.venuesIssued deribitVenueCode
  obtain ⟨storesAfter, venueId, venue⟩ := Ingest.Stores.seeded stores inserted
  let seeded : Session := ⟨after, after, store.lastVenueId + 1, store.lastInstrumentId⟩
  have ran : ensureSchema store.connect = .ok () seeded :=
    (bind_of_ok rfl).trans ((bind_of_ok (execute_of_ok inserted)).trans rfl)
  exact ⟨venueId, seeded, ran, rfl, storesAfter, venue⟩

/-! ## One invocation -/

/-- No upsert takes an id of a venue. -/
def SameVenueSequence (before after : Session) : Prop :=
  after.lastVenueId = before.lastVenueId

theorem execute_sameVenueSequence {A : Type} (statement : Tables → Except Failure (A × Tables)) :
    Keeps SameVenueSequence (execute statement) := by
  intro session
  unfold execute
  split <;> rfl

theorem sameVenueSequence_frame : Frame SameVenueSequence where
  refl _ := rfl
  trans _ _ _ here there := there.trans here
  instrument _ _ _ _ := Keeps.bind (fun _ _ _ here there => there.trans here) (fun _ => rfl)
    fun _ => execute_sameVenueSequence _
  subtype _ := execute_sameVenueSequence _

/-- An invocation ends as its responses say, and leaves the chain they make. -/
theorem Store.Stores.ingest (stores : store.Stores chain) {invocation : Invocation}
    (step : ingests.Step store invocation next) :
    invocation.ending = (chain.ingest invocation.responses).1 ∧
      next.Stores (chain.ingest invocation.responses).2 := by
  obtain ⟨responses, outcome⟩ := invocation
  obtain ⟨venueId, seeded, schema, committed, shows⟩ := stores.seeded
  have upserts := performs_upsertAll venueId responses seeded chain shows
  have lookup := getVenueId_of_mem shows.stores.valid shows.venue
  have whole : run responses store.connect = (do
      let ingested ← upsertAll responses venueId
      commit
      return ingested : Statement Ingested) seeded :=
    (bind_of_ok schema).trans (bind_of_ok lookup)
  simp only [ingests, referenceIngest, whole] at step
  unfold Chain.ingest
  cases updates : responses.updates with
  | ok log =>
      rw [updates] at upserts
      obtain ⟨ingested, last, ran, showsLast⟩ := upserts
      rw [(bind_of_ok ran).trans rfl] at step
      cases step
      exact ⟨rfl, showsLast.stores⟩
  | error failure =>
      rw [updates] at upserts
      obtain ⟨last, failed⟩ := upserts
      rw [bind_of_error failed] at step
      cases step
      have sequence := (upsertAll_closed sameVenueSequence_frame.closed
        (sameVenueSequence_frame.upsertOptionContract venueId)
        (sameVenueSequence_frame.upsertFutureContract venueId)
        (sameVenueSequence_frame.ensureCurrencyInstrument venueId)).of_error failed
      obtain ⟨kept, advanced⟩ := (upsertAll_uncommitted responses venueId).of_error failed
      have before := shows.stores
      rw [← committed, ← kept] at before
      refine ⟨rfl, ?_⟩
      exact {
        before with
        positive := before.positive.trans advanced
        venuesIssued := fun venue member =>
          (before.venuesIssued venue member).trans (le_of_eq sequence.symm)
        issued := {
          before.issued with
          bounded := fun id member => (before.issued.bounded id member).trans advanced } }

/-! ## Histories -/

/-- After a history the database stores the chain its responses make, and every
invocation ended as its own responses say. -/
structure Explained (history : List Invocation) (store : Store) : Prop where
  stores : store.Stores (Chain.after (history.map Invocation.responses))
  endings : ∀ invocation ∈ history,
    invocation.ending = invocation.responses.updates.map fun _ => ()

theorem Explained.step {past : List Invocation} {invocation : Invocation}
    (step : ingests.Step store invocation next) (explained : Explained past store) :
    Explained (past ++ [invocation]) next := by
  obtain ⟨ending, stores⟩ := explained.stores.ingest step
  constructor
  · simpa [Chain.after] using stores
  · intro other member
    rcases List.mem_append.mp member with old | new
    · exact explained.endings other old
    · rw [List.mem_singleton.mp new, ending]
      unfold Chain.ingest
      cases invocation.responses.updates <;> rfl

theorem explained_run {history : List Invocation}
    (run : ingests.Run Store.empty history store) : Explained history store := by
  have base : Explained [] Store.empty := ⟨Store.stores_empty, by simp⟩
  exact run.history Explained.step base

/-- A history of invocations refines the chain: the tables without their ids are the
chain of the updates of its successful runs, and how each invocation ends, with which
failure, is a function of what the exchange answered it. -/
theorem history_refines_chain {history : List Invocation}
    (run : ingests.Run Store.empty history store) :
    chainOf store.tables = Chain.after (history.map Invocation.responses) ∧
      ∀ invocation ∈ history,
        invocation.ending = invocation.responses.updates.map fun _ => () := by
  have explained := explained_run run
  exact ⟨explained.stores.chain, explained.endings⟩

/-- The chain of the first run over the full chain. -/
theorem history_refines_chain_fullChain :
    chainOf (referenceIngest fullChain Store.empty).2.tables = Chain.after [fullChain] := by
  have run : ingests.Run Store.empty [⟨fullChain, .ok ⟨[1], [2], 3⟩⟩]
      (referenceIngest fullChain Store.empty).2 := .single fullChain_step
  exact (history_refines_chain run).1

end QuantGateway.Ingest
