import QuantGateway.Ingest.ChainRegistry

/-!
Owns the entry of a symbol in a chain: it has the terms of the last update of the
symbol, and terms of a kind only if the symbol was listed under that kind.

Does not own the values of the terms (`Ingest.ExactValues`).
-/

namespace QuantGateway.Ingest

open QuantGateway.Foundation
open QuantGateway.MarketData
open QuantGateway.SecurityMaster

namespace Chain

/-- The entry of a symbol. -/
def entry (chain : Chain) (name : Text) : Option ChainEntry :=
  chain.find? fun entry => entry.symbol = name

variable {chain : Chain} {name symbol : Text} {update : Update}

theorem mem_of_entry {found : ChainEntry} (isFound : chain.entry name = some found) :
    found ∈ chain ∧ found.symbol = name :=
  mem_of_find?_key isFound

@[simp] theorem attach_symbol (entry : ChainEntry) (terms : Terms) :
    (entry.attach terms).symbol = entry.symbol := by
  cases terms <;> rfl

/-- An edit that keeps the symbols edits what is found. -/
theorem entry_map (edit : ChainEntry → ChainEntry)
    (keeps : ∀ entry, (edit entry).symbol = entry.symbol) (chain : Chain) (name : Text) :
    Chain.entry (chain.map edit) name = (chain.entry name).map edit := by
  unfold Chain.entry
  rw [List.find?_map]
  congr 2
  funext entry
  simp only [Function.comp_apply, keeps]

theorem entry_attach (chain : Chain) (symbol : Text) (terms : Terms) (name : Text) :
    (chain.attach symbol terms).entry name =
      (chain.entry name).map fun entry =>
        if entry.symbol = symbol then entry.attach terms else entry := by
  refine entry_map _ (fun entry => ?_) chain name
  split
  · exact attach_symbol entry terms
  · rfl

/-- Placing a symbol lists it and leaves the others. -/
theorem entry_place (chain : Chain) (symbol : Text) (tickSize : Numeric) (type name : Text) :
    (symbol = name → ∃ placed, (chain.place symbol tickSize type).entry name = some placed) ∧
      (symbol ≠ name → (chain.place symbol tickSize type).entry name = chain.entry name) := by
  unfold place
  split
  next present =>
    have placed := entry_map
      (fun entry => if entry.symbol = symbol then { entry with tickSize := tickSize } else entry)
      (fun entry => by split <;> rfl) chain name
    constructor
    · rintro rfl
      obtain ⟨entry, member, same⟩ := present
      obtain ⟨found, isFound⟩ : ∃ found, chain.entry symbol = some found :=
        exists_find?_of_mem member (decide_eq_true same)
      exact ⟨_, placed.trans (by rw [isFound, Option.map_some])⟩
    · intro apart
      rw [placed]
      cases isFound : chain.entry name with
      | none => rfl
      | some found =>
          rw [Option.map_some, if_neg]
          rw [(mem_of_entry isFound).2]
          exact apart.symm
  next absent =>
    unfold Chain.entry
    rw [List.find?_append, List.find?_singleton]
    constructor
    · rintro rfl
      cases chain.find? fun entry => entry.symbol = symbol with
      | none => exact ⟨⟨symbol, type, tickSize, none, none, false⟩, by simp⟩
      | some found => exact ⟨found, rfl⟩
    · intro apart
      simp [apart]

theorem entry_apply_of_ne (apart : update.symbol ≠ name) :
    (chain.apply update).entry name = chain.entry name := by
  unfold apply
  rw [entry_attach, (entry_place _ _ _ _ _).2 apart]
  cases isFound : chain.entry name with
  | none => rfl
  | some found =>
      rw [Option.map_some, if_neg]
      rw [(mem_of_entry isFound).2]
      exact apart.symm

/-- An update attaches its terms to the entry of its symbol. -/
theorem entry_apply_self (chain : Chain) (update : Update) :
    ∃ placed : ChainEntry, placed.symbol = update.symbol ∧
      (chain.apply update).entry update.symbol = some (placed.attach update.terms) := by
  unfold apply
  obtain ⟨placed, isPlaced⟩ := (entry_place chain update.symbol update.tickSize
    update.terms.table.instrumentType update.symbol).1 rfl
  have symbol := (mem_of_entry isPlaced).2
  refine ⟨placed, symbol, ?_⟩
  rw [entry_attach, isPlaced, Option.map_some, if_pos symbol]

/-- The last update of a symbol says what its terms are. -/
theorem entry_foldl_apply (chain : Chain) {first rest : List Update}
    (isLast : ∀ other ∈ rest, other.symbol ≠ update.symbol) :
    ∃ placed : ChainEntry, placed.symbol = update.symbol ∧
      Chain.entry ((first ++ update :: rest).foldl Chain.apply chain) update.symbol =
        some (placed.attach update.terms) := by
  obtain ⟨placed, symbol, isPlaced⟩ := entry_apply_self (first.foldl Chain.apply chain) update
  refine ⟨placed, symbol, ?_⟩
  rw [List.foldl_append, List.foldl_cons, ← isPlaced]
  generalize apply (first.foldl apply chain) update = start
  induction rest generalizing start with
  | nil => rfl
  | cons other rest inductionHypothesis =>
      rw [List.foldl_cons, inductionHypothesis (fun later member => isLast later (.tail _ member)),
        entry_apply_of_ne (isLast other (.head _))]

end Chain

/-! ## Terms and listings -/

def Terms.kind : Terms → InstrumentKind
  | .option _ => .option
  | .future _ => .future
  | .currency => .index

/-- The symbol of an update with the kind it lists it under. -/
def Update.listed (update : Update) : Text × InstrumentKind :=
  (update.symbol, update.terms.kind)

/-- Terms of a kind are those of a symbol listed under it. -/
structure ChainEntry.Listed (listed : Listing) (entry : ChainEntry) : Prop where
  option : ∀ terms, entry.option = some terms → (entry.symbol, .option) ∈ listed
  future : ∀ terms, entry.future = some terms → (entry.symbol, .future) ∈ listed

theorem ChainEntry.Listed.mono {listed more : Listing} {entry : ChainEntry}
    (isListed : entry.Listed listed) (grown : listed ⊆ more) : entry.Listed more where
  option terms here := grown (isListed.option terms here)
  future terms here := grown (isListed.future terms here)

theorem ChainEntry.Listed.attach {listed : Listing} {entry : ChainEntry} {terms : Terms}
    (isListed : entry.Listed listed) (member : (entry.symbol, terms.kind) ∈ listed) :
    (entry.attach terms).Listed listed := by
  cases terms with
  | option written => exact ⟨fun _ _ => member, isListed.future⟩
  | future written => exact ⟨isListed.option, fun _ _ => member⟩
  | currency => exact ⟨isListed.option, isListed.future⟩

/-- The terms of a chain were listed. -/
def Chain.Listed (listed : Listing) (chain : Chain) : Prop :=
  ∀ entry ∈ chain, entry.Listed listed

theorem Chain.Listed.apply {listed : Listing} {chain : Chain} (isListed : chain.Listed listed)
    (update : Update) : (chain.apply update).Listed (listed ++ [update.listed]) := by
  have placed : (chain.place update.symbol update.tickSize
      update.terms.table.instrumentType).Listed listed := by
    intro entry member
    unfold Chain.place at member
    split at member
    · obtain ⟨before, inChain, rfl⟩ := List.mem_map.mp member
      have here := isListed before inChain
      split
      · exact ⟨here.option, here.future⟩
      · exact here
    · rcases List.mem_append.mp member with old | new
      · exact isListed entry old
      · rw [List.mem_singleton.mp new]
        constructor
        · intro terms here
          cases here
        · intro terms here
          cases here
  intro entry member
  obtain ⟨before, inPlaced, rfl⟩ := List.mem_map.mp member
  have here := (placed before inPlaced).mono (List.subset_append_left listed [update.listed])
  split
  next same =>
    refine here.attach (List.mem_append_right _ ?_)
    rw [same]
    exact List.mem_singleton_self _
  next => exact here

theorem Chain.Listed.foldl {listed : Listing} {chain : Chain} (isListed : chain.Listed listed)
    (updates : List Update) :
    Chain.Listed (listed ++ updates.map Update.listed) (updates.foldl Chain.apply chain) := by
  induction updates generalizing listed chain with
  | nil => simpa using isListed
  | cons update rest inductionHypothesis =>
      have step := inductionHypothesis (isListed.apply update)
      simpa using step

end QuantGateway.Ingest
