import QuantGateway.Ingest.ChainEntries
import QuantGateway.Ingest.UpsertRows

/-!
Owns what the updates of a run are: one for each listed payload in the order of the
responses, under the payload's name; and what the last of them leaves in the chain.

Does not own how the terms of a payload reach the registry (`Ingest.ListedTerms`).
-/

namespace QuantGateway.Ingest

open QuantGateway.Foundation
open QuantGateway.Foundation.Program
open QuantGateway.MarketData
open QuantGateway.SecurityMaster

/-! ## The update of a contract -/

theorem OptionContract.terms_ok {contract : OptionContract} {size : Option Int}
    {terms : OptionTerms} (ran : contract.terms size = .ok terms) :
    numericColumn "strike".toList contract.strike = .ok terms.strike ∧
      contract.optionType = some terms.optionType ∧ terms.optionType ∈ optionTypes ∧
      terms.expirationTimestamp = contract.expirationTimestamp := by
  unfold OptionContract.terms at ran
  obtain ⟨strike, converted, ran⟩ := except_bind_ok ran
  obtain ⟨narrowed, -, ran⟩ := except_bind_ok ran
  obtain ⟨type, typed, ran⟩ := except_bind_ok ran
  obtain ⟨isType, inTypes⟩ := checkedColumn_ok typed
  cases ran
  exact ⟨converted, isType, by simpa using inTypes, rfl⟩

theorem FutureContract.terms_expiration {contract : FutureContract} {size : Option Int}
    {terms : FutureTerms} (ran : contract.terms size = .ok terms) :
    terms.expirationTimestamp = contract.expirationTimestamp := by
  unfold FutureContract.terms at ran
  obtain ⟨narrowed, -, ran⟩ := except_bind_ok ran
  obtain ⟨period, -, ran⟩ := except_bind_ok ran
  cases ran
  rfl

/-! ## The updates of a run -/

variable {responses : Responses} {log : List Update}

/-- The parts of a run's updates. -/
theorem Responses.updates_ok (ran : responses.updates = .ok log) :
    ∃ options futures, log = options ++ futures ++ [currencyUpdate] ∧
      List.Forall₂ (fun payload update => ∃ contract,
        OptionContract.fromApi payload = .ok contract ∧ contract.update = .ok update)
        responses.options.payloads options ∧
      List.Forall₂ (fun payload update => ∃ contract,
        FutureContract.fromApi payload = .ok contract ∧ contract.update = .ok update)
        responses.datedFutures futures := by
  unfold Responses.updates at ran
  obtain ⟨rawOptions, received, ran⟩ := except_bind_ok ran
  obtain ⟨contracts, parsed, ran⟩ := except_bind_ok ran
  obtain ⟨options, updated, ran⟩ := except_bind_ok ran
  obtain ⟨rawFutures, receivedFutures, ran⟩ := except_bind_ok ran
  obtain ⟨allFutures, parsedFutures, ran⟩ := except_bind_ok ran
  obtain ⟨futures, updatedFutures, ran⟩ := except_bind_ok ran
  cases ran
  have isOptions : responses.options.payloads = rawOptions := by
    rw [Response.get_ok received]
    rfl
  have isFutures : responses.futures.payloads = rawFutures := by
    rw [Response.get_ok receivedFutures]
    rfl
  rw [← isFutures] at parsedFutures
  rw [isOptions]
  exact ⟨options, futures, rfl, forall₂_comp (except_mapM_ok parsed) (except_mapM_ok updated),
    forall₂_comp (Responses.datedFutures_parsed parsedFutures) (except_mapM_ok updatedFutures)⟩

/-- The updates of payloads of one kind list their names under it. -/
theorem listed_eq_of_forall₂ {Payload : Type} {nameOf : Payload → Option Text}
    {kind : InstrumentKind} {updated : Payload → Update → Prop} {payloads : List Payload}
    {updates : List Update} (pointwise : List.Forall₂ updated payloads updates)
    (lists : ∀ payload update, updated payload update →
      nameOf payload = some update.symbol ∧ update.terms.kind = kind) :
    updates.map Update.listed = (payloads.filterMap nameOf).map (·, kind) := by
  induction pointwise with
  | nil => rfl
  | cons here _ inductionHypothesis =>
      obtain ⟨named, isKind⟩ := lists _ _ here
      rw [List.map_cons, List.filterMap_cons, named, List.map_cons, inductionHypothesis]
      unfold Update.listed
      rw [isKind]

theorem option_updated {payload : OptionPayload} {update : Update}
    (updated : ∃ contract, OptionContract.fromApi payload = .ok contract ∧
      contract.update = .ok update) :
    payload.instrumentName.get = some update.symbol ∧ update.terms.kind = .option := by
  obtain ⟨contract, parsed, ran⟩ := updated
  obtain ⟨named, size, terms, -, isTerms⟩ := OptionContract.update_ok ran
  exact ⟨(OptionContract.fromApi_venueSymbol parsed).symm.trans named, isTerms ▸ rfl⟩

theorem future_updated {payload : FuturePayload} {update : Update}
    (updated : ∃ contract, FutureContract.fromApi payload = .ok contract ∧
      contract.update = .ok update) :
    payload.instrumentName.get = some update.symbol ∧ update.terms.kind = .future := by
  obtain ⟨contract, parsed, ran⟩ := updated
  obtain ⟨named, size, terms, -, isTerms⟩ := FutureContract.update_ok ran
  exact ⟨(FutureContract.fromApi_fields parsed).1.symm.trans named, isTerms ▸ rfl⟩

/-- The updates of a run list what the run lists. -/
theorem Responses.updates_listed (ran : responses.updates = .ok log) :
    log.map Update.listed = responses.listing := by
  obtain ⟨options, futures, rfl, optionUpdates, futureUpdates⟩ := Responses.updates_ok ran
  rw [List.map_append, List.map_append,
    listed_eq_of_forall₂ optionUpdates fun _ _ => option_updated,
    listed_eq_of_forall₂ futureUpdates fun _ _ => future_updated]
  rfl

/-! ## The chain after a run -/

variable {history : List Invocation} {ingested : Ingested} {store : Store}

/-- A successful invocation made the updates of its responses. -/
theorem updates_of_ending {invocation : Invocation}
    (ending : invocation.ending = invocation.responses.updates.map fun _ => ())
    (succeeded : invocation.outcome = .ok ingested) :
    ∃ log, invocation.responses.updates = .ok log := by
  unfold Invocation.ending at ending
  rw [succeeded] at ending
  cases updates : invocation.responses.updates with
  | ok log => exact ⟨log, rfl⟩
  | error failure =>
      rw [updates] at ending
      cases ending

/-- The updates of the last run of a history are listed in it. -/
theorem listed_update (updates : responses.updates = .ok log) {update : Update}
    (member : update ∈ log) :
    update.listed ∈ listing (history ++ [⟨responses, .ok ingested⟩]) := by
  rw [listing_snoc, ← Responses.updates_listed updates]
  exact List.mem_append_right _ (List.mem_map_of_mem member)

/-- The terms of the chain after a history were listed in it. -/
theorem listed_after (endings : ∀ invocation ∈ history,
      invocation.ending = invocation.responses.updates.map fun _ => ()) :
    (Chain.after (history.map Invocation.responses)).Listed (listing history) := by
  induction history using List.reverseRecOn with
  | nil =>
      intro entry member
      cases member
  | append_singleton past invocation inductionHypothesis =>
      have before := inductionHypothesis fun other member =>
        endings other (List.mem_append_left _ member)
      have ending := endings invocation (List.mem_append_right _ (List.mem_singleton_self _))
      have extended : listing (past ++ [invocation]) = listing past ++ invocation.listing := by
        simp [listing]
      have last : Chain.after ((past ++ [invocation]).map Invocation.responses) =
          ((Chain.after (past.map Invocation.responses)).ingest invocation.responses).2 := by
        simp [Chain.after]
      rw [extended, last]
      unfold Chain.ingest
      obtain ⟨responses, outcome⟩ := invocation
      cases outcome with
      | ok ingested =>
          obtain ⟨log, updates⟩ := updates_of_ending ending rfl
          have isListing : Invocation.listing ⟨responses, .ok ingested⟩ = log.map Update.listed :=
            (Responses.updates_listed updates).symm
          rw [isListing, show responses.updates = .ok log from updates]
          exact before.foldl log
      | error failure =>
          cases updates : responses.updates with
          | ok log =>
              rw [show responses.updates = .ok log from updates] at ending
              cases ending
          | error other =>
              simpa [Invocation.listing] using before

/-- After a run the entry of its last update of a symbol has that update's terms; the
type is that of the only kind the symbol was listed under. -/
theorem entry_of_last_update
    (run : ingests.Run Store.empty (history ++ [⟨responses, .ok ingested⟩]) store)
    (single : SingleKind (listing (history ++ [⟨responses, .ok ingested⟩])))
    {first rest : List Update} {update : Update}
    (updates : responses.updates = .ok (first ++ update :: rest))
    (isLast : ∀ other ∈ rest, other.symbol ≠ update.symbol) :
    ∃ placed : ChainEntry, placed.symbol = update.symbol ∧
      placed.attach update.terms ∈ chainOf store.tables ∧
      update.terms.kind.instrumentType = some (placed.attach update.terms).instrumentType := by
  have explained := explained_run run
  have catalogued := catalogued_run run
  have isChain : chainOf store.tables = (first ++ update :: rest).foldl Chain.apply
      (Chain.after (history.map Invocation.responses)) := by
    rw [explained.stores.chain, List.map_append, List.map_singleton]
    unfold Chain.after
    rw [List.foldl_append, List.foldl_cons, List.foldl_nil]
    unfold Chain.ingest
    rw [updates]
  obtain ⟨placed, symbol, isEntry⟩ := Chain.entry_foldl_apply
    (Chain.after (history.map Invocation.responses)) isLast
  rw [← isChain] at isEntry
  obtain ⟨inChain, -⟩ := Chain.mem_of_entry isEntry
  refine ⟨placed, symbol, inChain, ?_⟩
  obtain ⟨row, inRows, isRow⟩ := List.mem_map.mp inChain
  have rowSymbol : row.symbol = update.symbol := by
    have same := congrArg ChainEntry.symbol isRow
    rw [Chain.attach_symbol, symbol] at same
    exact same
  have rowType : row.instrumentType = (placed.attach update.terms).instrumentType :=
    congrArg ChainEntry.instrumentType isRow
  have listed : (update.symbol, update.terms.kind) ∈
      listing (history ++ [⟨responses, .ok ingested⟩]) :=
    listed_update updates (List.mem_append_right _ List.mem_cons_self)
  obtain ⟨kind, isFirst, typed⟩ := catalogued.types (Identity.of row) (List.mem_map_of_mem inRows)
  have isKind : kind = update.terms.kind := by
    have known := single.firstKind listed
    rw [← rowSymbol] at known
    exact Option.some.inj (isFirst.symm.trans known)
  rw [← isKind, ← rowType]
  exact typed

/-! ## The last update of a name -/

/-- The update of the last payload with a name, and the updates after it. -/
theorem split_of_forall₂ {Payload : Type} {nameOf : Payload → Option Text}
    {updated : Payload → Update → Prop} {before rest : List Payload} {payload : Payload}
    {updates : List Update}
    (pointwise : List.Forall₂ updated (before ++ payload :: rest) updates)
    (named : ∀ payload update, updated payload update → nameOf payload = some update.symbol)
    (isLast : ∀ other ∈ rest, nameOf other ≠ nameOf payload) :
    ∃ first update later, updates = first ++ update :: later ∧ updated payload update ∧
      ∀ other ∈ later, other.symbol ≠ update.symbol := by
  induction before generalizing updates with
  | nil =>
      cases pointwise with
      | @cons _ update _ later here pointwise =>
          refine ⟨[], update, later, rfl, here, fun other member same => ?_⟩
          obtain ⟨source, inRest, there⟩ := exists_of_forall₂ pointwise.flip member
          exact isLast source inRest
            ((named _ _ there).trans ((congrArg some same).trans (named _ _ here).symm))
  | cons head before inductionHypothesis =>
      cases pointwise with
      | @cons _ other _ _ _ pointwise =>
          obtain ⟨first, update, later, rfl, here, last⟩ := inductionHypothesis pointwise
          exact ⟨other :: first, update, later, rfl, here, last⟩

/-- A symbol listed under one kind only is not that of an update of another kind. -/
theorem symbol_ne_of_kind (single : SingleKind (listing (history ++ [⟨responses, .ok ingested⟩])))
    (updates : responses.updates = .ok log) {first second : Update} (firstMember : first ∈ log)
    (secondMember : second ∈ log) (apart : first.terms.kind ≠ second.terms.kind) :
    first.symbol ≠ second.symbol := by
  intro same
  have firstListed : first.listed ∈ listing (history ++ [⟨responses, .ok ingested⟩]) :=
    listed_update updates firstMember
  have secondListed : second.listed ∈ listing (history ++ [⟨responses, .ok ingested⟩]) :=
    listed_update updates secondMember
  unfold Update.listed at secondListed
  rw [← same] at secondListed
  exact apart (single _ _ _ firstListed secondListed)

/-- The last update of its kind is the last update of its symbol. -/
theorem last_of_kind (single : SingleKind (listing (history ++ [⟨responses, .ok ingested⟩])))
    {first rest : List Update} {update : Update}
    (updates : responses.updates = .ok (first ++ update :: rest))
    (isLast : ∀ other ∈ rest, other.terms.kind = update.terms.kind →
      other.symbol ≠ update.symbol) :
    ∀ other ∈ rest, other.symbol ≠ update.symbol := by
  intro other member
  by_cases sameKind : other.terms.kind = update.terms.kind
  · exact isLast other member sameKind
  · have inLog : update ∈ first ++ update :: rest := List.mem_append_right _ List.mem_cons_self
    exact symbol_ne_of_kind single updates (List.mem_append_right _ (.tail _ member)) inLog sameKind

theorem successful_run_updates
    (run : ingests.Run Store.empty (history ++ [⟨responses, .ok ingested⟩]) store) :
    ∃ log, responses.updates = .ok log :=
  updates_of_ending
    ((explained_run run).endings _ (List.mem_append_right _ (List.mem_singleton_self _))) rfl

/-- The last option payload with a name makes the last update of its symbol. -/
theorem last_option_update
    (run : ingests.Run Store.empty (history ++ [⟨responses, .ok ingested⟩]) store)
    (single : SingleKind (listing (history ++ [⟨responses, .ok ingested⟩])))
    {before rest : List OptionPayload} {payload : OptionPayload}
    (lists : responses.options.payloads = before ++ payload :: rest)
    (isLast : ∀ other ∈ rest, other.instrumentName.get ≠ payload.instrumentName.get) :
    ∃ first update later, responses.updates = .ok (first ++ update :: later) ∧
      (∃ contract, OptionContract.fromApi payload = .ok contract ∧ contract.update = .ok update) ∧
      ∀ other ∈ later, other.symbol ≠ update.symbol := by
  obtain ⟨log, updates⟩ := successful_run_updates run
  obtain ⟨options, futures, rfl, optionUpdates, futureUpdates⟩ := Responses.updates_ok updates
  rw [lists] at optionUpdates
  obtain ⟨first, update, later, rfl, updated, lastOption⟩ := split_of_forall₂ optionUpdates
    (fun _ _ updated => (option_updated updated).1) isLast
  have isOption := (option_updated updated).2
  rw [List.append_assoc, List.append_assoc, List.cons_append] at updates
  refine ⟨first, update, _, updates, updated, last_of_kind single updates ?_⟩
  intro other member sameKind
  rw [isOption] at sameKind
  rcases List.mem_append.mp member with inOptions | inRest
  · exact lastOption other inOptions
  · rcases List.mem_append.mp inRest with inFutures | isCurrency
    · obtain ⟨source, -, there⟩ := exists_of_forall₂ futureUpdates.flip inFutures
      rw [(future_updated there).2] at sameKind
      cases sameKind
    · rw [List.mem_singleton.mp isCurrency] at sameKind
      cases sameKind

/-- The last dated future payload with a name makes the last update of its symbol. -/
theorem last_future_update
    (run : ingests.Run Store.empty (history ++ [⟨responses, .ok ingested⟩]) store)
    (single : SingleKind (listing (history ++ [⟨responses, .ok ingested⟩])))
    {before rest : List FuturePayload} {payload : FuturePayload}
    (lists : responses.datedFutures = before ++ payload :: rest)
    (isLast : ∀ other ∈ rest, other.instrumentName.get ≠ payload.instrumentName.get) :
    ∃ first update later, responses.updates = .ok (first ++ update :: later) ∧
      (∃ contract, FutureContract.fromApi payload = .ok contract ∧ contract.update = .ok update) ∧
      ∀ other ∈ later, other.symbol ≠ update.symbol := by
  obtain ⟨log, updates⟩ := successful_run_updates run
  obtain ⟨options, futures, rfl, optionUpdates, futureUpdates⟩ := Responses.updates_ok updates
  rw [lists] at futureUpdates
  obtain ⟨first, update, later, rfl, updated, lastFuture⟩ := split_of_forall₂ futureUpdates
    (fun _ _ updated => (future_updated updated).1) isLast
  have isFuture := (future_updated updated).2
  rw [← List.append_assoc, List.append_assoc, List.cons_append] at updates
  refine ⟨_, update, _, updates, updated, last_of_kind single updates ?_⟩
  intro other member sameKind
  rw [isFuture] at sameKind
  rcases List.mem_append.mp member with inFutures | isCurrency
  · exact lastFuture other inFutures
  · rw [List.mem_singleton.mp isCurrency] at sameKind
    cases sameKind

end QuantGateway.Ingest
