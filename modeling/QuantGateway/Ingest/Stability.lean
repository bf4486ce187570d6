import QuantGateway.Ingest.Inheritance
import QuantGateway.Ingest.Transactions
import QuantGateway.Ingest.UpsertRows

/-!
Owns the stability of instrument ids over every history of transactions: every
later upsert of a committed instrument returns its id, no committed row is lost,
and no id is ever given to two names, not even when one was rolled back.

Does not own sequences that run out.
-/

namespace QuantGateway.Ingest

open QuantGateway.Foundation
open QuantGateway.Foundation.Program
open QuantGateway.SecurityMaster

variable {start before after : Connection} {event : Event} {past : List Event}

/-- At some moment up to now a call's instrument had an id. -/
def Given (call : Call) (id : Int) (current : Session) : Prop :=
  ∃ (moment : Session) (name : Text), Proper moment ∧
    moment.register.Evolves current.register ∧ call.symbol = some name ∧
    ((call.venueId, name), id) ∈ moment.register.working

theorem Given.mono {call : Call} {id : Int} {current later : Session}
    (given : Given call id current) (evolves : current.register.Evolves later.register) :
    Given call id later := by
  obtain ⟨moment, name, proper, before, named, held⟩ := given
  exact ⟨moment, name, proper, before.trans evolves, named, held⟩

/-- An upsert that returns has given its instrument the id. -/
theorem given_of_returned {call : Call} {id : Int}
    (step : ConnectionStep before (.returned call id) after) (proper : Proper before.session) :
    ∃ name, call.symbol = some name ∧
      ((call.venueId, name), id) ∈ after.session.register.working := by
  cases step with
  | returned ran =>
      obtain ⟨name, named, upserted⟩ := call.run_ok proper.valid proper.positive ran
      obtain ⟨type, member⟩ := upserted.stored
      exact ⟨name, named, List.mem_map.mpr ⟨_, member, rfl⟩⟩

/-- An id given once is not given to another name later. -/
theorem Given.sameName {first second : Call} {id : Int} {current : Session} {name : Text}
    (given : Given first id current) (named : second.symbol = some name)
    (held : ((second.venueId, name), id) ∈ current.register.working) :
    first.SameName second := by
  obtain ⟨moment, earlier, proper, evolves, earlierNamed, earlierHeld⟩ := given
  have same := congrArg Prod.fst (evolves.eq_of_id proper.register earlierHeld held rfl)
  obtain ⟨sameVenue, rfl⟩ := Prod.mk.inj same
  exact ⟨sameVenue, earlierNamed.trans named.symm⟩

/-- The ids given along a history. -/
structure Stable (start : Connection) (past : List Event) (current : Connection) : Prop where
  advances : Advances start.session current.session
  given : ∀ call id, .returned call id ∈ past → Given call id current.session
  same : ∀ call id, .returned call id ∈ past →
    ∀ identity ∈ identities start.session.committed, call.Names identity →
      id = identity.instrumentId
  apart : ∀ first second id, .returned first id ∈ past → .returned second id ∈ past →
    first.SameName second

theorem Stable.initial (proper : Proper start.session) : Stable start [] start where
  advances := proper.advances
  given := by simp
  same := by simp
  apart := by simp

/-- A step that returns no id. -/
theorem Stable.silent (stable : Stable start past before)
    (advances : Advances before.session after.session)
    (silent : ∀ call id, event ≠ .returned call id) : Stable start (past ++ [event]) after := by
  have earlier {call : Call} {id : Int} (member : .returned call id ∈ past ++ [event]) :
      .returned call id ∈ past := by
    rcases List.mem_append.mp member with old | new
    · exact old
    · exact absurd (List.mem_singleton.mp new).symm (silent call id)
  constructor
  · exact stable.advances.trans advances
  · intro call id member
    exact (stable.given call id (earlier member)).mono advances.register
  · intro call id member
    exact stable.same call id (earlier member)
  · intro first second id firstMember secondMember
    exact stable.apart first second id (earlier firstMember) (earlier secondMember)

/-- An upsert of an instrument that was committed at the start returns its id. -/
theorem Advances.id_of_committed {first later : Session} {call : Call} {id : Int} {name : Text}
    (advances : Advances first later) (named : call.symbol = some name)
    (held : ((call.venueId, name), id) ∈ later.register.working) {identity : Identity}
    (committed : identity ∈ identities first.committed) (isNamed : call.Names identity) :
    id = identity.instrumentId := by
  have entry : ((identity.venueId, identity.symbol), identity.instrumentId) ∈
      first.register.committed := List.mem_map.mpr ⟨identity, committed, rfl⟩
  have isName : identity.symbol = name := Option.some.inj (isNamed.2.symm.trans named)
  have same := advances.register.eq_of_name advances.proper.register entry held
    (Prod.ext isNamed.1 isName)
  exact (congrArg Prod.snd same).symm

/-- A step that returns an id. -/
theorem Stable.returned {call : Call} {id : Int} (stable : Stable start past before)
    (step : ConnectionStep before (.returned call id) after) :
    Stable start (past ++ [.returned call id]) after := by
  have advances := step_advances step stable.advances.proper
  have whole := stable.advances.trans advances
  obtain ⟨name, named, held⟩ := given_of_returned step stable.advances.proper
  have apart {other : Call} (member : .returned other id ∈ past) : other.SameName call :=
    ((stable.given other id member).mono advances.register).sameName named held
  constructor
  · exact whole
  · intro other otherId member
    rcases List.mem_append.mp member with old | new
    · exact (stable.given other otherId old).mono advances.register
    · cases List.mem_singleton.mp new
      exact ⟨after.session, name, whole.proper, .refl _, named, held⟩
  · intro other otherId member identity committed isNamed
    rcases List.mem_append.mp member with old | new
    · exact stable.same other otherId old identity committed isNamed
    · cases List.mem_singleton.mp new
      exact whole.id_of_committed named held committed isNamed
  · intro first second otherId firstMember secondMember
    rcases List.mem_append.mp firstMember with firstOld | firstNew
    · rcases List.mem_append.mp secondMember with secondOld | secondNew
      · exact stable.apart first second otherId firstOld secondOld
      · cases List.mem_singleton.mp secondNew
        exact apart firstOld
    · cases List.mem_singleton.mp firstNew
      rcases List.mem_append.mp secondMember with secondOld | secondNew
      · exact (apart secondOld).symm
      · cases List.mem_singleton.mp secondNew
        exact ⟨rfl, rfl⟩

theorem stable_step (step : transactions.Step before event after)
    (stable : Stable start past before) : Stable start (past ++ [event]) after := by
  have advances := step_advances step stable.advances.proper
  cases event with
  | returned call id => exact stable.returned step
  | raised call => exact stable.silent advances (by simp)
  | ensureSchema => exact stable.silent advances (by simp)
  | commit => exact stable.silent advances (by simp)
  | rollback => exact stable.silent advances (by simp)

theorem stable_run {last : Connection} {trace : List Event} (proper : Proper start.session)
    (run : transactions.Run start trace last) : Stable start trace last :=
  run.history stable_step (Stable.initial proper)

/-- An instrument is stored, at least in the open transaction. -/
def Connection.Stores (connection : Connection) (identity : Identity) : Prop :=
  identity ∈ identities connection.session.committed ∨
    identity ∈ identities connection.session.working

theorem Connection.Stores.entry {connection : Connection} {identity : Identity}
    (stores : connection.Stores identity) (proper : Proper connection.session) :
    ((identity.venueId, identity.symbol), identity.instrumentId) ∈
      connection.session.register.working := by
  have working : identity ∈ identities connection.session.working := by
    rcases stores with committed | working
    · exact proper.rows.instrument committed
    · exact working
  exact List.mem_map.mpr ⟨identity, working, rfl⟩

/-- What a call does to a connection: it returns an id, and does not raise. -/
def Connection.Returns (connection : Connection) (call : Call) (id : Int) : Prop :=
  (∃ after, transactions.Step connection (.returned call id) after) ∧
    (∀ other after, transactions.Step connection (.returned call other) after → other = id) ∧
    ¬ ∃ after, transactions.Step connection (.raised call) after

theorem Connection.returns_of_run {connection : Connection} {call : Call} {id : Int}
    {after : Session} (isOpen : connection.aborted = false)
    (ran : call.run connection.session = .ok id after) : connection.Returns call id := by
  obtain ⟨session, aborted⟩ := connection
  obtain rfl : aborted = false := isOpen
  refine ⟨⟨_, ConnectionStep.returned ran⟩, ?_, ?_⟩
  · intro other last step
    cases step with
    | returned otherRan =>
        rw [ran] at otherRan
        cases otherRan
        rfl
  · rintro ⟨last, step⟩
    cases step with
    | raised failed =>
        rw [ran] at failed
        cases failed

/-- An upsert of an instrument that was committed at some moment before returns its id,
whatever its kind and columns, as long as these convert. -/
theorem Stable.returns {last : Connection} {trace : List Event} (stable : Stable start trace last)
    (isOpen : last.aborted = false) {call : Call} {update : Update}
    (converts : call.update = .ok update) {identity : Identity}
    (committed : identity ∈ identities start.session.committed) (named : call.Names identity) :
    last.Returns call identity.instrumentId := by
  have proper := stable.advances.proper
  have stored : identity ∈ identities last.session.working :=
    proper.rows.instrument (stable.advances.rows.instrument committed)
  obtain ⟨after, ran⟩ := Call.returns_of_stored proper.valid converts stored named
  exact Connection.returns_of_run isOpen ran

/-- Whatever is committed at some moment of a history is kept from then on. A later upsert
of it returns its id, and does return if its columns convert and the transaction is not
aborted. Ids tell instruments apart, at different moments and for upserts that were rolled
back too. -/
theorem instrument_ids_stable {last : Connection} {trace : List Event}
    (reachable : transactions.Reachable start) (run : transactions.Run start trace last) :
    Grows start.session.committed last.session.committed ∧
      (∀ call id, .returned call id ∈ trace →
        ∀ identity ∈ identities start.session.committed, call.Names identity →
          id = identity.instrumentId) ∧
      (last.aborted = false → ∀ call update, call.update = .ok update →
        ∀ identity ∈ identities start.session.committed, call.Names identity →
          last.Returns call identity.instrumentId) ∧
      (∀ first second, start.Stores first → last.Stores second →
        first.instrumentId = second.instrumentId →
          first.venueId = second.venueId ∧ first.symbol = second.symbol) ∧
      ∀ first second id, .returned first id ∈ trace → .returned second id ∈ trace →
        first.SameName second := by
  have proper := reachable_proper reachable
  have stable := stable_run proper run
  refine ⟨stable.advances.rows, stable.same, ?_, ?_, stable.apart⟩
  · intro isOpen call update converts identity committed named
    exact stable.returns isOpen converts committed named
  intro first second firstStored secondStored same
  have entry := stable.advances.register.eq_of_id proper.register (firstStored.entry proper)
    (secondStored.entry stable.advances.proper) same
  exact Prod.mk.inj (congrArg Prod.fst entry)

theorem returned_step (id : Int) {call : Call} {session : Session}
    (isReturned : returned (call.run session) = some id) :
    transactions.Step ⟨session, false⟩ (.returned call id) ⟨finalState (call.run session), false⟩ :=
  ConnectionStep.returned (eq_ok_of_returned isReturned)

/-- An option has been committed. -/
def committedOption : Connection where
  session :=
    (finalState ((optionCall "BTC-19AUG26-56000-C".toList).run Store.seeded.connect)).commit
  aborted := false

theorem committedOption_reachable : transactions.Reachable committedOption := by
  have run : transactions.Run ⟨Store.seeded.connect, false⟩
      [.returned (optionCall "BTC-19AUG26-56000-C".toList) 1, .commit] committedOption :=
    .cons (returned_step 1 (by decide +kernel)) (.single (.committed _))
  exact ⟨⟨Store.seeded.connect, false⟩, _, ⟨seeded_initial, rfl, rfl⟩, run⟩

/-- The columns of a future with the name of the option. -/
def futureUpdate : Update where
  symbol := "BTC-19AUG26-56000-C".toList
  tickSize := .finite (5 / 2)
  terms := .future {
    settlementPeriod := "month".toList
    expirationTimestamp := some (.instant 1782633600000000)
    contractSize := some 10
    creationTimestamp := some (.instant 1751011200000000) }

/-- A future is rolled back, its id is not given again, and the option keeps its own, also
for a future of its name. -/
theorem instrument_ids_stable_sample :
    ∃ last, transactions.Run committedOption
        [.returned (futureCall "BTC-26JUN26".toList) 2, .rollback,
          .returned (futureCall "BTC-25SEP26".toList) 3,
          .returned (optionCall "BTC-19AUG26-56000-C".toList) 1, .commit] last ∧
      Grows committedOption.session.committed last.session.committed ∧
      last.Returns (futureCall "BTC-19AUG26-56000-C".toList) 1 := by
  have run : transactions.Run committedOption
      [.returned (futureCall "BTC-26JUN26".toList) 2, .rollback,
        .returned (futureCall "BTC-25SEP26".toList) 3,
        .returned (optionCall "BTC-19AUG26-56000-C".toList) 1, .commit] _ :=
    .cons (returned_step 2 (by decide +kernel)) (.cons (.rolledBack _)
      (.cons (returned_step 3 (by decide +kernel))
        (.cons (returned_step 1 (by decide +kernel)) (.single (.committed _)))))
  obtain ⟨grows, -, returns, -⟩ := instrument_ids_stable committedOption_reachable run
  have converts : (futureCall "BTC-19AUG26-56000-C".toList).update = .ok futureUpdate := by
    decide +kernel
  have stored : ⟨1, "BTC-19AUG26-56000-C".toList, 1, "option".toList⟩ ∈
      identities committedOption.session.committed := by decide +kernel
  exact ⟨_, run, grows, returns rfl _ _ converts _ stored ⟨rfl, rfl⟩⟩

end QuantGateway.Ingest
