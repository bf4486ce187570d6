import QuantGateway.Foundation.Keyed
import QuantGateway.Foundation.UnorderedMap
import QuantGateway.MarketData.Model
import Mathlib.Data.List.Induction

/-!
Owns `InstrumentRegistry` without its channels' names: the entries, the three
maps beside them and the members that read and write them.

`Indexed` is the invariant every `add` keeps: the maps answer as a search through
the entries would. The entries themselves are `registered`, a function of the
added keys alone. Whether ids are unique is not guarded by `add`; `DistinctIds`
says for which added keys they are.

Does not own `channel_for` and the subscription list (`MarketData.Channels`).
-/

namespace QuantGateway.MarketData

open QuantGateway.Foundation

/-- The members of `InstrumentRegistry`. -/
structure InstrumentRegistry where
  keys : List InstrumentKey
  slotById : UnorderedMap InstrumentId Nat
  idBySymbol : UnorderedMap Text InstrumentId
  idByChannel : UnorderedMap Text InstrumentId

namespace InstrumentRegistry

def empty : InstrumentRegistry where
  keys := []
  slotById := .empty
  idBySymbol := .empty
  idByChannel := .empty

def bySymbol (registry : InstrumentRegistry) (symbol : Text) : Option InstrumentId :=
  registry.idBySymbol.lookup symbol

def byChannel (registry : InstrumentRegistry) (channel : Text) : Option InstrumentId :=
  registry.idByChannel.lookup channel

/-- `find`; a slot is always that of an entry (`Indexed.slot_lt`). -/
def find (registry : InstrumentRegistry) (id : InstrumentId) : Option InstrumentKey :=
  match registry.slotById.lookup id with
  | none => none
  | some slot => registry.keys[slot]?

/-- `ids_of_kind`, in insertion order. -/
def idsOfKind (registry : InstrumentRegistry) (kind : InstrumentKind) : List InstrumentId :=
  (registry.keys.filter fun key => key.kind = kind).map InstrumentKey.id

def add (registry : InstrumentRegistry) (key : InstrumentKey) :
    Option InstrumentId × InstrumentRegistry :=
  if key.id = 0 then (none, registry)
  else
    match registry.bySymbol key.symbol with
    | some existing => (some existing, registry)
    | none =>
        (some key.id,
          { registry with
            slotById := registry.slotById.emplace key.id registry.keys.length
            idBySymbol := registry.idBySymbol.emplace key.symbol key.id
            keys := registry.keys ++ [key] })

def bindChannel (registry : InstrumentRegistry) (channel : Text) (id : InstrumentId) :
    InstrumentRegistry :=
  { registry with idByChannel := registry.idByChannel.insertOrAssign channel id }

/-- A registry after a sequence of `add` calls. -/
def addAll (registry : InstrumentRegistry) (added : List InstrumentKey) : InstrumentRegistry :=
  added.foldl (fun registry key => (registry.add key).2) registry

/-! ## The entries as a function of the added keys -/

/-- The entry a symbol gets: the first added key with the symbol and an id. -/
def firstOf (added : List InstrumentKey) (symbol : Text) : Option InstrumentKey :=
  added.find? fun key => key.id ≠ 0 ∧ key.symbol = symbol

/-- The entries after a key was added to some. -/
def register (keys : List InstrumentKey) (key : InstrumentKey) : List InstrumentKey :=
  if key.id = 0 ∨ key.symbol ∈ keys.map InstrumentKey.symbol then keys else keys ++ [key]

def registered (added : List InstrumentKey) : List InstrumentKey :=
  added.foldl register []

theorem registered_snoc (added : List InstrumentKey) (key : InstrumentKey) :
    registered (added ++ [key]) = register (registered added) key := by
  unfold registered
  rw [List.foldl_append]
  rfl

theorem firstOf_snoc (added : List InstrumentKey) (key : InstrumentKey) (symbol : Text) :
    firstOf (added ++ [key]) symbol =
      (firstOf added symbol).or (if key.id ≠ 0 ∧ key.symbol = symbol then some key else none) := by
  unfold firstOf
  rw [List.find?_append, List.find?_singleton]
  simp

theorem firstOf_spec {added : List InstrumentKey} {symbol : Text} {key : InstrumentKey}
    (first : firstOf added symbol = some key) :
    key ∈ added ∧ key.id ≠ 0 ∧ key.symbol = symbol := by
  have member := List.mem_of_find?_eq_some first
  have holds := List.find?_some first
  simp only [decide_eq_true_eq] at holds
  exact ⟨member, holds⟩

theorem firstOf_isSome {added : List InstrumentKey} {key : InstrumentKey} (member : key ∈ added)
    (identified : key.id ≠ 0) : ∃ entry, firstOf added key.symbol = some entry := by
  apply Option.isSome_iff_exists.mp
  rw [firstOf, List.find?_isSome]
  exact ⟨key, member, by simp [identified]⟩

/-- The entries are exactly the first keys of their symbols. -/
theorem mem_registered (added : List InstrumentKey) (key : InstrumentKey) :
    key ∈ registered added ↔ firstOf added key.symbol = some key := by
  induction added using List.reverseRecOn generalizing key with
  | nil => simp [registered, firstOf]
  | append_singleton added last inductionHypothesis =>
      have symbolTaken (symbol : Text) :
          symbol ∈ (registered added).map InstrumentKey.symbol ↔
            ∃ entry, firstOf added symbol = some entry := by
        rw [List.mem_map]
        constructor
        · rintro ⟨entry, member, rfl⟩
          exact ⟨entry, (inductionHypothesis entry).mp member⟩
        · rintro ⟨entry, first⟩
          obtain ⟨-, -, rfl⟩ := firstOf_spec first
          exact ⟨entry, (inductionHypothesis entry).mpr first, rfl⟩
      rw [registered_snoc, firstOf_snoc]
      unfold register
      split
      next refused =>
        rw [inductionHypothesis]
        cases first : firstOf added key.symbol with
        | some entry => simp
        | none =>
            have unusable : ¬ (last.id ≠ 0 ∧ last.symbol = key.symbol) := by
              rintro ⟨identified, same⟩
              obtain ⟨entry, found⟩ := (symbolTaken _).mp (refused.resolve_left identified)
              rw [same, first] at found
              cases found
            simp [unusable]
      next accepted =>
        obtain ⟨identified, fresh⟩ := not_or.mp accepted
        rw [List.mem_append, List.mem_singleton, inductionHypothesis]
        cases first : firstOf added key.symbol with
        | some entry =>
            simp only [Option.some_or, Option.some.injEq]
            constructor
            · rintro (same | rfl)
              · exact same
              · exact absurd ((symbolTaken _).mpr ⟨entry, first⟩) fresh
            · exact Or.inl
        | none =>
            simp only [Option.none_or, reduceCtorEq, false_or]
            constructor
            · rintro rfl
              simp [identified]
            · intro chosen
              split at chosen
              next => exact (Option.some.inj chosen).symm
              next => cases chosen

theorem registered_symbols_nodup (added : List InstrumentKey) :
    ((registered added).map InstrumentKey.symbol).Nodup := by
  induction added using List.reverseRecOn with
  | nil => exact List.nodup_nil
  | append_singleton added last inductionHypothesis =>
      rw [registered_snoc]
      unfold register
      split
      next => exact inductionHypothesis
      next accepted =>
        obtain ⟨-, fresh⟩ := not_or.mp accepted
        exact append_keys_nodup inductionHypothesis fresh

/-- The entries stand in the order their keys were added in. -/
theorem registered_sublist (added : List InstrumentKey) : (registered added).Sublist added := by
  induction added using List.reverseRecOn with
  | nil => exact List.Sublist.slnil
  | append_singleton added last inductionHypothesis =>
      rw [registered_snoc]
      unfold register
      split
      next => exact inductionHypothesis.trans (List.sublist_append_left added [last])
      next => exact inductionHypothesis.append (List.Sublist.refl [last])

theorem registered_nodup (added : List InstrumentKey) : (registered added).Nodup :=
  (registered_symbols_nodup added).of_map

/-- Keys with ids and distinct symbols are all registered. -/
theorem registered_eq_self {added : List InstrumentKey} (identified : ∀ key ∈ added, key.id ≠ 0)
    (distinct : (added.map InstrumentKey.symbol).Nodup) : registered added = added := by
  induction added using List.reverseRecOn with
  | nil => rfl
  | append_singleton added last inductionHypothesis =>
      rw [List.map_append, List.map_singleton, List.nodup_append] at distinct
      obtain ⟨before, -, apart⟩ := distinct
      have fresh : last.symbol ∉ added.map InstrumentKey.symbol := by
        intro member
        exact apart _ member _ (List.mem_singleton.mpr rfl) rfl
      have rest := inductionHypothesis (fun key member => identified key (by simp [member])) before
      rw [registered_snoc, rest]
      unfold register
      rw [if_neg]
      exact not_or.mpr ⟨identified last (by simp), fresh⟩

/-- Two entries with one symbol are one entry. -/
theorem registered_eq_of_symbol {added : List InstrumentKey} {key other : InstrumentKey}
    (member : key ∈ registered added) (otherMember : other ∈ registered added)
    (same : key.symbol = other.symbol) : key = other := by
  have first := (mem_registered added key).mp member
  have otherFirst := (mem_registered added other).mp otherMember
  rw [same, otherFirst] at first
  exact (Option.some.inj first).symm

/-! ## The maps answer as the entries do -/

/-- Each map is an index of the entries. -/
structure Indexed (registry : InstrumentRegistry) : Prop where
  symbols : ∀ symbol, registry.bySymbol symbol =
    (registry.keys.find? fun key => key.symbol = symbol).map InstrumentKey.id
  slots : ∀ id, registry.slotById.lookup id = registry.keys.findIdx? fun key => key.id = id

theorem Indexed.empty : Indexed InstrumentRegistry.empty where
  symbols := fun _ => rfl
  slots := fun _ => rfl

/-- A known symbol is the symbol of an entry. -/
theorem Indexed.bySymbol_isSome {registry : InstrumentRegistry} (indexed : Indexed registry)
    (symbol : Text) :
    (registry.bySymbol symbol).isSome = true ↔
      symbol ∈ registry.keys.map InstrumentKey.symbol := by
  rw [indexed.symbols, Option.isSome_map, List.find?_isSome, List.mem_map]
  simp

/-- `add` refuses a key without id or with a known symbol and appends any
other one. -/
theorem Indexed.add_keys {registry : InstrumentRegistry} (indexed : Indexed registry)
    (key : InstrumentKey) : (registry.add key).2.keys = register registry.keys key := by
  have known := indexed.bySymbol_isSome key.symbol
  unfold add register
  split
  next anonymous => rw [if_pos (.inl anonymous)]
  next identified =>
    cases existing : registry.bySymbol key.symbol with
    | some id =>
        rw [existing] at known
        rw [if_pos (.inr (known.mp rfl))]
    | none =>
        rw [existing] at known
        have fresh : key.symbol ∉ registry.keys.map InstrumentKey.symbol := by
          intro member
          exact absurd (known.mpr member) (by simp)
        rw [if_neg (by simp only [identified, fresh, or_self, not_false_eq_true])]

theorem add_value {registry : InstrumentRegistry} {key : InstrumentKey} (identified : key.id ≠ 0) :
    ∃ id, (registry.add key).1 = some id := by
  unfold InstrumentRegistry.add
  rw [if_neg identified]
  split
  · exact ⟨_, rfl⟩
  · exact ⟨_, rfl⟩

theorem Indexed.add {registry : InstrumentRegistry} (indexed : Indexed registry)
    (key : InstrumentKey) : Indexed (registry.add key).2 := by
  unfold InstrumentRegistry.add
  split
  next => exact indexed
  next identified =>
    cases existing : registry.bySymbol key.symbol with
    | some id => exact indexed
    | none =>
        refine ⟨fun symbol => ?_, fun id => ?_⟩
        · have before := indexed.symbols symbol
          simp only [bySymbol] at before existing ⊢
          rw [UnorderedMap.lookup_emplace, List.find?_append, existing]
          split
          next isKey =>
            subst isKey
            rw [before] at existing
            rw [Option.map_eq_none_iff.mp existing]
            simp
          next other => simp [before, Ne.symm other]
        · have before := indexed.slots id
          rw [UnorderedMap.lookup_emplace, List.findIdx?_append]
          split
          next isKey =>
            subst isKey
            rw [before]
            simp [List.findIdx?_cons]
          next other =>
            simp [before, List.findIdx?_cons, Ne.symm other]

theorem Indexed.bindChannel {registry : InstrumentRegistry} (indexed : Indexed registry)
    (channel : Text) (id : InstrumentId) : Indexed (registry.bindChannel channel id) :=
  ⟨indexed.symbols, indexed.slots⟩

theorem Indexed.addAll {registry : InstrumentRegistry} (indexed : Indexed registry)
    (added : List InstrumentKey) :
    Indexed (registry.addAll added) ∧
      (registry.addAll added).keys = added.foldl register registry.keys := by
  unfold InstrumentRegistry.addAll
  induction added generalizing registry with
  | nil => exact ⟨indexed, rfl⟩
  | cons key rest inductionHypothesis =>
      have afterRest := inductionHypothesis (indexed.add key)
      rw [indexed.add_keys] at afterRest
      exact afterRest

theorem indexed_addAll (added : List InstrumentKey) : Indexed (empty.addAll added) :=
  (Indexed.empty.addAll added).1

theorem keys_addAll (added : List InstrumentKey) : (empty.addAll added).keys = registered added :=
  (Indexed.empty.addAll added).2

namespace Indexed

variable {registry : InstrumentRegistry}

/-- No slot is out of range in `find`. -/
theorem slot_lt (indexed : Indexed registry) {id : InstrumentId} {slot : Nat}
    (stored : registry.slotById.lookup id = some slot) : slot < registry.keys.length := by
  rw [indexed.slots] at stored
  obtain ⟨inRange, -⟩ := List.findIdx?_eq_some_iff_getElem.mp stored
  exact inRange

/-- `find` gives the first entry with the id. -/
theorem find_eq (indexed : Indexed registry) (id : InstrumentId) :
    registry.find id = registry.keys.find? fun key => key.id = id := by
  unfold InstrumentRegistry.find
  rw [indexed.slots]
  cases slot : registry.keys.findIdx? fun key => key.id = id with
  | none =>
      rw [List.findIdx?_eq_none_iff] at slot
      symm
      rw [List.find?_eq_none]
      intro key member
      simp [slot key member]
  | some position =>
      obtain ⟨inRange, holds, before⟩ := List.findIdx?_eq_some_iff_getElem.mp slot
      symm
      simp only
      rw [List.getElem?_eq_getElem inRange, List.find?_eq_some_iff_getElem]
      exact ⟨holds, position, inRange, rfl,
        fun earlier below => by simpa using before earlier below⟩

end Indexed

/-! ## When ids are unique -/

/-- Different symbols that get an entry get entries with different ids. -/
def DistinctIds (added : List InstrumentKey) : Prop :=
  ∀ symbol other key otherKey, firstOf added symbol = some key →
    firstOf added other = some otherKey → key.id = otherKey.id → symbol = other

theorem registered_ids_nodup_iff (added : List InstrumentKey) :
    ((registered added).map InstrumentKey.id).Nodup ↔ DistinctIds added := by
  rw [List.nodup_map_iff_inj_on (registered_nodup added)]
  constructor
  · intro injective symbol other key otherKey first otherFirst same
    obtain ⟨-, -, rfl⟩ := firstOf_spec first
    obtain ⟨-, -, rfl⟩ := firstOf_spec otherFirst
    have member := (mem_registered added key).mpr first
    have otherMember := (mem_registered added otherKey).mpr otherFirst
    exact congrArg InstrumentKey.symbol (injective key member otherKey otherMember same)
  · intro distinct key member other otherMember same
    have first := (mem_registered added key).mp member
    have otherFirst := (mem_registered added other).mp otherMember
    exact registered_eq_of_symbol member otherMember
      (distinct _ _ _ _ first otherFirst same)

/-- Where ids are unique, an entry is what its id resolves to. -/
theorem Indexed.find_of_mem {registry : InstrumentRegistry} (indexed : Indexed registry)
    (distinct : (registry.keys.map InstrumentKey.id).Nodup) {key : InstrumentKey}
    (member : key ∈ registry.keys) : registry.find key.id = some key := by
  rw [indexed.find_eq]
  exact find?_key_of_mem distinct member

theorem Indexed.bySymbol_of_mem {registry : InstrumentRegistry} (indexed : Indexed registry)
    (distinct : (registry.keys.map InstrumentKey.symbol).Nodup) {key : InstrumentKey}
    (member : key ∈ registry.keys) : registry.bySymbol key.symbol = some key.id := by
  rw [indexed.symbols, find?_key_of_mem distinct member]
  rfl

theorem Indexed.mem_of_find {registry : InstrumentRegistry} (indexed : Indexed registry)
    {id : InstrumentId} {key : InstrumentKey} (found : registry.find id = some key) :
    key ∈ registry.keys ∧ key.id = id := by
  rw [indexed.find_eq] at found
  exact mem_of_find?_key found

theorem Indexed.mem_of_bySymbol {registry : InstrumentRegistry} (indexed : Indexed registry)
    {symbol : Text} {id : InstrumentId} (resolved : registry.bySymbol symbol = some id) :
    ∃ key ∈ registry.keys, key.symbol = symbol ∧ key.id = id := by
  rw [indexed.symbols] at resolved
  obtain ⟨key, found, same⟩ := Option.map_eq_some_iff.mp resolved
  obtain ⟨member, named⟩ := mem_of_find?_key found
  exact ⟨key, member, named, same⟩

/-- One id means one answer, whether it is asked for by id or by symbol. -/
structure Coherent (registry : InstrumentRegistry) : Prop where
  ids : (registry.keys.map InstrumentKey.id).Nodup
  symbols : (registry.keys.map InstrumentKey.symbol).Nodup
  identified : ∀ key ∈ registry.keys, key.id ≠ 0
  found : ∀ key ∈ registry.keys, registry.find key.id = some key
  resolved : ∀ key ∈ registry.keys, registry.bySymbol key.symbol = some key.id
  ofId : ∀ id key, registry.find id = some key → key ∈ registry.keys ∧ key.id = id
  ofSymbol : ∀ symbol id, registry.bySymbol symbol = some id →
    ∃ key ∈ registry.keys, key.symbol = symbol ∧ key.id = id

theorem coherent_of_distinctIds {added : List InstrumentKey} (distinct : DistinctIds added) :
    Coherent (empty.addAll added) := by
  have indexed := indexed_addAll added
  have ids := (registered_ids_nodup_iff added).mpr distinct
  have symbols := registered_symbols_nodup added
  rw [← keys_addAll] at ids symbols
  refine
    { ids := ids
      symbols := symbols
      identified := fun key member => ?_
      found := fun key member => indexed.find_of_mem ids member
      resolved := fun key member => indexed.bySymbol_of_mem symbols member
      ofId := fun id key found => indexed.mem_of_find found
      ofSymbol := fun symbol id resolved => indexed.mem_of_bySymbol resolved }
  rw [keys_addAll, mem_registered] at member
  exact (firstOf_spec member).2.1

/-- The registry is coherent exactly when the first keys of different symbols
have different ids. -/
theorem addAll_coherent_iff (added : List InstrumentKey) :
    Coherent (empty.addAll added) ↔ DistinctIds added := by
  constructor
  · intro coherent
    rw [← registered_ids_nodup_iff, ← keys_addAll]
    exact coherent.ids
  · exact coherent_of_distinctIds

/-- `add` takes a second symbol with the id of the first; the id then resolves to
the first instrument and both symbols to the id. -/
theorem add_takes_shared_id :
    let first : InstrumentKey := { symbol := "BTC-27JUN25".toList, baseCcy := "BTC".toList, id := 1 }
    let second : InstrumentKey := { symbol := "BTC-4SEP26".toList, baseCcy := "BTC".toList, id := 1 }
    let registry := empty.addAll [first, second]
    registry.keys = [first, second] ∧ registry.find second.id = some first ∧
      registry.bySymbol second.symbol = some second.id ∧ ¬ Coherent registry := by
  refine ⟨by decide, by decide, by decide, fun coherent => ?_⟩
  exact absurd coherent.ids (by decide)

end InstrumentRegistry

end QuantGateway.MarketData
