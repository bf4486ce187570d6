import QuantGateway.Foundation.TransitionSystem
import QuantGateway.Ingest.ReferenceData

/-!
Owns the calls of the three upserts with their arguments, and the transition
system of calls that return, one after the other on one connection. After a run
the calls made account for the tables: which subtype rows there are, and which
type each instrument has.

Does not own calls that raise (`Ingest.Transactions`).
-/

namespace QuantGateway.Ingest

open QuantGateway.Foundation
open QuantGateway.Foundation.Program
open QuantGateway.SecurityMaster

/-- A call of one of the upserts. -/
inductive Call where
  | upsertOptionContract (venueId : Int) (contract : OptionContract)
  | upsertFutureContract (venueId : Int) (contract : FutureContract)
  | ensureCurrencyInstrument (venueId : Int) (symbol : Text) (tickSize : Numeric)
deriving DecidableEq, Repr

namespace Call

def run : Call → Statement Int
  | .upsertOptionContract venueId contract => Ingest.upsertOptionContract venueId contract
  | .upsertFutureContract venueId contract => Ingest.upsertFutureContract venueId contract
  | .ensureCurrencyInstrument venueId symbol tickSize =>
      Ingest.ensureCurrencyInstrument venueId symbol tickSize

def venueId : Call → Int
  | .upsertOptionContract venueId _ => venueId
  | .upsertFutureContract venueId _ => venueId
  | .ensureCurrencyInstrument venueId _ _ => venueId

def symbol : Call → Option Text
  | .upsertOptionContract _ contract => contract.venueSymbol
  | .upsertFutureContract _ contract => contract.venueSymbol
  | .ensureCurrencyInstrument _ symbol _ => some symbol

/-- The subtype table a call writes. -/
def table : Call → SubtypeTable
  | .upsertOptionContract _ _ => .option
  | .upsertFutureContract _ _ => .future
  | .ensureCurrencyInstrument _ _ _ => .currencies

/-- An instrument is the one a call upserts. -/
def Names (call : Call) (identity : Identity) : Prop :=
  identity.venueId = call.venueId ∧ call.symbol = some identity.symbol

/-- Two calls upsert one instrument. -/
def SameName (first second : Call) : Prop :=
  first.venueId = second.venueId ∧ first.symbol = second.symbol

theorem Names.sameName {first second : Call} {identity : Identity} (named : first.Names identity)
    (alsoNamed : second.Names identity) : first.SameName second :=
  ⟨named.1.symm.trans alsoNamed.1, named.2.trans alsoNamed.2.symm⟩

theorem SameName.symm {first second : Call} (same : first.SameName second) :
    second.SameName first :=
  ⟨same.1.symm, same.2.symm⟩

theorem Names.unique {call : Call} {tables : Tables} {first second : Identity}
    (valid : tables.Valid) (firstMember : first ∈ identities tables)
    (secondMember : second ∈ identities tables) (named : call.Names first)
    (alsoNamed : call.Names second) : first = second :=
  identity_of_name valid firstMember secondMember (named.1.trans alsoNamed.1.symm)
    (Option.some.inj (named.2.symm.trans alsoNamed.2))

/-- What a call that returns has done. -/
theorem run_ok {call : Call} {before after : Session} {id : Int}
    (valid : before.working.Valid) (positive : 0 ≤ before.lastInstrumentId)
    (ran : call.run before = .ok id after) :
    ∃ name, call.symbol = some name ∧
      UpsertedInto call.table call.venueId name id before after := by
  cases call with
  | upsertOptionContract venueId contract => exact upsertOptionContract_ok valid positive ran
  | upsertFutureContract venueId contract => exact upsertFutureContract_ok valid positive ran
  | ensureCurrencyInstrument venueId symbol tickSize =>
      exact ⟨symbol, rfl, ensureCurrencyInstrument_ok valid positive ran⟩

/-- What the statements of the upserts respect, a call respects. -/
theorem keeps {relation : Session → Session → Prop} (frame : Frame relation) (call : Call) :
    Keeps relation call.run := by
  cases call with
  | upsertOptionContract venueId contract => exact frame.upsertOptionContract venueId contract
  | upsertFutureContract venueId contract => exact frame.upsertFutureContract venueId contract
  | ensureCurrencyInstrument venueId symbol tickSize =>
      exact frame.ensureCurrencyInstrument venueId symbol tickSize

end Call

/-! ## Runs of calls that return -/

/-- The tables are there, without any instrument. -/
structure NoInstruments (session : Session) : Prop where
  valid : session.working.Valid
  instrument : session.working.instrument = []
  issued : 0 ≤ session.lastInstrumentId

/-- Calls that return, from tables without instruments. -/
def upserts : TransitionSystem Session Call where
  Initial := NoInstruments
  Step before call after := ∃ id, call.run before = .ok id after

/-- The calls made account for the instruments and the subtype rows. -/
structure Accounted (calls : List Call) (session : Session) : Prop where
  valid : session.working.Valid
  issued : 0 ≤ session.lastInstrumentId
  stored : ∀ call ∈ calls, ∃ identity ∈ identities session.working, call.Names identity
  typed : ∀ identity ∈ identities session.working, ∃ call ∈ calls, call.Names identity ∧
    call.table.instrumentType = identity.instrumentType
  keys : ∀ table key, key ∈ table.keys session.working ↔
    ∃ call ∈ calls, call.table = table ∧
      ∃ identity ∈ identities session.working, call.Names identity ∧ identity.instrumentId = key

theorem Accounted.initial {session : Session} (start : upserts.Initial session) :
    Accounted [] session := by
  have none : identities session.working = [] := by
    unfold identities
    rw [start.instrument, List.map_nil]
  refine ⟨start.valid, start.issued, by simp, by simp [none], fun table key => ?_⟩
  -- A subtype row would need a parent.
  have orphan : key ∉ table.keys session.working := by
    intro member
    have parent := table.hasInstrument start.valid member
    rw [hasInstrument_iff, none] at parent
    exact List.not_mem_nil parent
  simp [orphan]

variable {past : List Call} {call : Call} {before after : Session} {name : Text} {id : Int}

/-- One more call that returned adds its own subtype row. -/
theorem Accounted.keys_upserted (accounted : Accounted past before)
    (named : call.symbol = some name)
    (upserted : UpsertedInto call.table call.venueId name id before after)
    (table : SubtypeTable) (key : Int) :
    key ∈ table.keys after.working ↔
      ∃ made ∈ past ++ [call], made.table = table ∧
        ∃ identity ∈ identities after.working, made.Names identity ∧
          identity.instrumentId = key := by
  obtain ⟨type, member⟩ := upserted.stored
  have holds : call.Names ⟨call.venueId, name, id, type⟩ := ⟨rfl, named⟩
  rw [upserted.keys]
  constructor
  · rintro (inBefore | ⟨rfl, rfl⟩)
    · obtain ⟨other, old, written, identity, known, otherNamed, same⟩ :=
        (accounted.keys table key).mp inBefore
      exact ⟨other, List.mem_append_left _ old, written, identity, upserted.grows known,
        otherNamed, same⟩
    · exact ⟨call, List.mem_append_right _ (List.mem_singleton_self _), rfl, _, member, holds, rfl⟩
  · rintro ⟨other, made, written, identity, inAfter, otherNamed, same⟩
    rcases List.mem_append.mp made with old | new
    · -- The instrument of an earlier call was there before this one.
      obtain ⟨known, inBefore, knownNamed⟩ := accounted.stored other old
      obtain rfl := otherNamed.unique upserted.valid inAfter (upserted.grows inBefore) knownNamed
      have inTable := (accounted.keys table key).mpr
        ⟨other, old, written, identity, inBefore, otherNamed, same⟩
      exact .inl inTable
    · obtain rfl := List.mem_singleton.mp new
      obtain rfl := otherNamed.unique upserted.valid inAfter member holds
      exact .inr ⟨written.symm, same.symm⟩

/-- One more call that returned. -/
theorem Accounted.upserted (accounted : Accounted past before) (named : call.symbol = some name)
    (upserted : UpsertedInto call.table call.venueId name id before after) :
    Accounted (past ++ [call]) after := by
  obtain ⟨type, member⟩ := upserted.stored
  constructor
  · exact upserted.valid
  · have issued := upserted.issued
    have positive := accounted.issued
    omega
  · intro other made
    rcases List.mem_append.mp made with old | new
    · obtain ⟨identity, inBefore, otherNamed⟩ := accounted.stored other old
      exact ⟨identity, upserted.grows inBefore, otherNamed⟩
    · obtain rfl := List.mem_singleton.mp new
      exact ⟨_, member, rfl, named⟩
  · intro identity inAfter
    rcases upserted.added inAfter with inBefore | rfl
    · obtain ⟨other, old, otherNamed, typed⟩ := accounted.typed identity inBefore
      exact ⟨other, List.mem_append_left _ old, otherNamed, typed⟩
    · exact ⟨call, List.mem_append_right _ (List.mem_singleton_self _), ⟨rfl, named⟩, rfl⟩
  · exact accounted.keys_upserted named upserted

theorem accounted_step (step : upserts.Step before call after)
    (accounted : Accounted past before) : Accounted (past ++ [call]) after := by
  obtain ⟨id, ran⟩ := step
  obtain ⟨name, named, upserted⟩ := call.run_ok accounted.valid accounted.issued ran
  exact accounted.upserted named upserted

/-- The calls of a run account for the tables it ends with. -/
theorem accounted_run {start last : Session} {calls : List Call} (initial : upserts.Initial start)
    (run : upserts.Run start calls last) : Accounted calls last :=
  run.history accounted_step (Accounted.initial initial)

end QuantGateway.Ingest
