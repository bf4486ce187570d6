import QuantGateway.Foundation.IdRegister
import QuantGateway.Ingest.Calls

/-!
Owns the transition system of one connection: upserts that return or raise,
`ensure_schema`, commits and rollbacks in any order. A failure of the database
aborts the open transaction, a failure of the Python code leaves it open, with
what the call had written so far.

The connection refines a register of ids: the names are the venue and the symbol
of an instrument. A new connection is a rollback. Does not own connections used at
the same time.
-/

namespace QuantGateway.Ingest

open QuantGateway.Foundation
open QuantGateway.Foundation.Program
open QuantGateway.SecurityMaster

/-- The failures the database reports. -/
def Failure.aborts : Failure → Bool
  | .notNullViolation _ => true
  | .checkViolation _ => true
  | .uniqueViolation _ => true
  | .foreignKeyViolation _ => true
  | .numericValueOutOfRange _ => true
  | _ => false

namespace Session

def commit (session : Session) : Session :=
  { session with committed := session.working }

def rollback (session : Session) : Session :=
  { session with working := session.committed }

/-- A value of the sequence of `instrument_id` is used up. -/
def skip (session : Session) : Session :=
  { session with lastInstrumentId := session.lastInstrumentId + 1 }

end Session

/-- A connection, with whether its open transaction is aborted. -/
structure Connection where
  session : Session
  aborted : Bool
deriving DecidableEq, Repr

inductive Event where
  | returned (call : Call) (id : Int)
  | raised (call : Call)
  | ensureSchema
  | commit
  | rollback
deriving DecidableEq, Repr

/-- The steps of a connection. In an aborted transaction every statement fails, and
a commit rolls it back. -/
inductive ConnectionStep : Connection → Event → Connection → Prop where
  | returned {session after : Session} {call : Call} {id : Int}
      (ran : call.run session = .ok id after) :
      ConnectionStep ⟨session, false⟩ (.returned call id) ⟨after, false⟩
  | raised {session after : Session} {call : Call} {failure : Failure}
      (ran : call.run session = .error failure after) :
      ConnectionStep ⟨session, false⟩ (.raised call) ⟨after, failure.aborts⟩
  | refused (session : Session) (call : Call) :
      ConnectionStep ⟨session, true⟩ (.raised call) ⟨session, true⟩
  | schemaEnsured {session after : Session} (ran : ensureSchema session = .ok () after) :
      ConnectionStep ⟨session, false⟩ .ensureSchema ⟨after, false⟩
  | schemaFailed {session after : Session} {failure : Failure}
      (ran : ensureSchema session = .error failure after) :
      ConnectionStep ⟨session, false⟩ .ensureSchema ⟨after, failure.aborts⟩
  | schemaRefused (session : Session) :
      ConnectionStep ⟨session, true⟩ .ensureSchema ⟨session, true⟩
  | committed (session : Session) :
      ConnectionStep ⟨session, false⟩ .commit ⟨session.commit, false⟩
  | abandoned (session : Session) :
      ConnectionStep ⟨session, true⟩ .commit ⟨session.rollback, false⟩
  | rolledBack (connection : Connection) :
      ConnectionStep connection .rollback ⟨connection.session.rollback, false⟩

/-- Histories of one connection after another, from tables without instruments. -/
def transactions : TransitionSystem Connection Event where
  Initial connection := NoInstruments connection.session ∧
    connection.session.committed = connection.session.working ∧ connection.aborted = false
  Step := ConnectionStep

/-! ## The register of ids -/

/-- The stored instruments as names with their ids. -/
def entries (tables : Tables) : List ((Int × Text) × Int) :=
  (identities tables).map fun identity =>
    ((identity.venueId, identity.symbol), identity.instrumentId)

def Session.register (session : Session) : IdRegister (Int × Text) where
  committed := entries session.committed
  working := entries session.working
  last := session.lastInstrumentId

/-- The invariant of a connection. -/
structure Proper (session : Session) : Prop where
  valid : session.working.Valid
  committed : session.committed.Valid
  rows : Grows session.committed session.working
  positive : 0 ≤ session.lastInstrumentId
  register : session.register.Sound

/-- What any number of steps may do: no committed row is lost and the ids evolve. -/
structure Advances (before after : Session) : Prop where
  proper : Proper after
  rows : Grows before.committed after.committed
  register : before.register.Evolves after.register

/-- The relation as a frame for programs. -/
def Advancing (before after : Session) : Prop :=
  Proper before → Advances before after

variable {session before after : Session}

theorem Proper.advances (proper : Proper session) : Advances session session where
  proper := proper
  rows := .refl _
  register := .refl _

theorem Advances.trans {middle : Session} (here : Advances before middle)
    (there : Advances middle after) : Advances before after where
  proper := there.proper
  rows := here.rows.trans there.rows
  register := here.register.trans there.register

/-! ## Writes of the open transaction -/

theorem Proper.skip (proper : Proper session) : Advances session session.skip where
  proper := {
    valid := proper.valid
    committed := proper.committed
    rows := proper.rows
    positive := le_trans proper.positive (Int.le_add_one (le_refl _))
    register := proper.register.skip }
  rows := .refl _
  register := session.register.evolves_skip

/-- Rows of instruments that are there already. -/
theorem Proper.write (proper : Proper session) {working : Tables} (valid : working.Valid)
    (grows : Grows session.working working)
    (same : identities working = identities session.working) :
    Advances session { session with working := working } := by
  have register : ({ session with working := working } : Session).register = session.register := by
    unfold Session.register entries
    rw [same]
  constructor
  · exact {
      valid := valid
      committed := proper.committed
      rows := proper.rows.trans grows
      positive := proper.positive
      register := register ▸ proper.register }
  · exact .refl _
  · rw [register]
    exact .refl _

/-- An instrument that was not there, under the next id. -/
theorem Proper.issue (proper : Proper session) {working : Tables} {venueId : Int}
    {name type : Text} (valid : working.Valid) (grows : Grows session.working working)
    (absent : ∀ identity ∈ identities session.working,
      ¬ (identity.venueId = venueId ∧ identity.symbol = name))
    (appended : identities working =
      identities session.working ++ [⟨venueId, name, session.lastInstrumentId + 1, type⟩]) :
    Advances session { session.skip with working := working } := by
  have register : ({ session.skip with working := working } : Session).register =
      session.register.issue (venueId, name) := by
    unfold Session.register entries
    rw [appended, List.map_append]
    rfl
  have fresh : (venueId, name) ∉ session.register.working.map Prod.fst := by
    intro taken
    obtain ⟨entry, inEntries, isName⟩ := List.mem_map.mp taken
    obtain ⟨identity, member, rfl⟩ := List.mem_map.mp inEntries
    exact absent identity member ⟨congrArg Prod.fst isName, congrArg Prod.snd isName⟩
  constructor
  · exact {
      valid := valid
      committed := proper.committed
      rows := proper.rows.trans grows
      positive := proper.skip.proper.positive
      register := register ▸ proper.register.issue fresh }
  · exact .refl _
  · rw [register]
    exact session.register.evolves_issue _

theorem Proper.commit (proper : Proper session) : Advances session session.commit where
  proper := {
    valid := proper.valid
    committed := proper.valid
    rows := .refl _
    positive := proper.positive
    register := proper.register.commit }
  rows := proper.rows
  register := proper.register.evolves_commit

theorem Proper.rollback (proper : Proper session) : Advances session session.rollback where
  proper := {
    valid := proper.committed
    committed := proper.committed
    rows := .refl _
    positive := proper.positive
    register := proper.register.rollback }
  rows := .refl _
  register := proper.register.evolves_rollback

/-! ## The steps advance the register -/

/-- The instrument statement runs with the next id of the sequence. -/
theorem executeInstrument_eq (venueId : Int) (symbol : Option Text) (tickSize : Numeric)
    (type : Text) :
    executeInstrument venueId symbol tickSize type session =
      execute (insertInstrument (session.lastInstrumentId + 1) venueId symbol tickSize type)
        session.skip :=
  bind_of_ok rfl

theorem executeInstrument_advances (venueId : Int) (symbol : Option Text) (tickSize : Numeric)
    (type : Text) (proper : Proper session) :
    Advances session (finalState (executeInstrument venueId symbol tickSize type session)) := by
  rw [executeInstrument_eq]
  unfold execute
  split
  next id working inserted =>
    have skipped := proper.skip
    have next : 0 < session.lastInstrumentId + 1 := Int.lt_add_one_of_le proper.positive
    have valid := insertInstrument_valid proper.valid next inserted
    have grows := insertInstrument_grows inserted
    obtain ⟨name, -, ⟨stored, -, same⟩ | ⟨absent, -, appended⟩⟩ :=
      insertInstrument_identities inserted
    · exact skipped.trans (skipped.proper.write valid grows same)
    · exact proper.issue valid grows absent appended
  next => exact proper.skip

theorem advancing_frame : Frame Advancing where
  refl _ proper := proper.advances
  trans _ _ _ here there proper := (here proper).trans (there (here proper).proper)
  instrument _ _ _ _ _ proper := executeInstrument_advances _ _ _ _ proper
  subtype := by
    intro table id statement writes session proper
    unfold execute
    split
    next done working written =>
      have row := writes proper.valid written
      exact proper.write row.valid row.grows (congrArg (List.map Identity.of) row.instrument)
    next => exact proper.advances

theorem ensureSchema_advances (proper : Proper session) :
    Advances session (finalState (ensureSchema session)) := by
  have whole : ensureSchema session =
      (execute (insertVenue (session.lastVenueId + 1) deribitVenueCode) >>= fun _ => commit)
        { session with lastVenueId := session.lastVenueId + 1 } := rfl
  have next : Advances session { session with lastVenueId := session.lastVenueId + 1 } :=
    ⟨⟨proper.valid, proper.committed, proper.rows, proper.positive, proper.register⟩, .refl _,
      .refl _⟩
  rw [whole]
  have seeding : Keeps Advancing
      (execute (insertVenue (session.lastVenueId + 1) deribitVenueCode)) := by
    intro opened properOpen
    unfold execute
    split
    next done working inserted =>
      exact properOpen.write (insertVenue_valid properOpen.valid inserted)
        (insertVenue_grows inserted)
        (congrArg (List.map Identity.of) (insertVenue_ok inserted).1)
    next => exact properOpen.advances
  have committing : Keeps Advancing commit := fun _ properOpen => properOpen.commit
  exact next.trans (Keeps.bind advancing_frame.trans seeding (fun _ => committing) _ next.proper)

/-- One step of a connection. -/
theorem step_advances {before after : Connection} {event : Event}
    (step : ConnectionStep before event after) (proper : Proper before.session) :
    Advances before.session after.session := by
  cases step with
  | returned ran => exact (Call.keeps advancing_frame _).of_ok ran proper
  | raised ran => exact (Call.keeps advancing_frame _).of_error ran proper
  | refused => exact proper.advances
  | schemaEnsured ran =>
      have advances := ensureSchema_advances proper
      rw [ran] at advances
      exact advances
  | schemaFailed ran =>
      have advances := ensureSchema_advances proper
      rw [ran] at advances
      exact advances
  | schemaRefused => exact proper.advances
  | committed => exact proper.commit
  | abandoned => exact proper.rollback
  | rolledBack => exact proper.rollback

theorem initial_proper {connection : Connection} (initial : transactions.Initial connection) :
    Proper connection.session := by
  obtain ⟨start, committed, -⟩ := initial
  have none : entries connection.session.working = [] := by
    unfold entries identities
    rw [start.instrument]
    rfl
  constructor
  · exact start.valid
  · rw [committed]
    exact start.valid
  · rw [committed]
    exact .refl _
  · exact start.issued
  · unfold Session.register
    rw [committed, none]
    exact ⟨List.nodup_nil, List.nodup_nil, List.Sublist.refl _, by simp⟩

theorem reachable_proper {connection : Connection} (reachable : transactions.Reachable connection) :
    Proper connection.session := by
  apply reachable.invariant initial_proper
  intro state event next step proper
  exact (step_advances step proper).proper

end QuantGateway.Ingest
