import QuantGateway.MarketData.Channels

/-!
Owns what a further `InstrumentRegistry::add` leaves alone, in every registry that
calls of `add` and `bind_channel` in any order lead to.

`Extends` is the promise to the holders of ids and symbols. It follows from the
entries alone: two indexed registries, one with a prefix of the other's entries.
-/

namespace QuantGateway.MarketData

namespace InstrumentRegistry

open QuantGateway.Foundation

/-! ## Registries that calls lead to -/

/-- A member call that changes a registry. -/
inductive Call where
  | add (key : InstrumentKey)
  | bindChannel (channel : Text) (id : InstrumentId)
deriving DecidableEq, Repr

def Call.run (registry : InstrumentRegistry) : Call → InstrumentRegistry
  | .add key => (registry.add key).2
  | .bindChannel channel id => registry.bindChannel channel id

def runAll (registry : InstrumentRegistry) (calls : List Call) : InstrumentRegistry :=
  calls.foldl Call.run registry

def Call.key : Call → Option InstrumentKey
  | .add key => some key
  | .bindChannel _ _ => none

/-- The keys a sequence of calls adds, in order. -/
def addedKeys (calls : List Call) : List InstrumentKey :=
  calls.filterMap Call.key

theorem Indexed.run {registry : InstrumentRegistry} (indexed : Indexed registry) (call : Call) :
    Indexed (call.run registry) ∧
      (call.run registry).keys = call.key.toList.foldl register registry.keys := by
  cases call with
  | add key => exact ⟨indexed.add key, indexed.add_keys key⟩
  | bindChannel channel id => exact ⟨indexed.bindChannel channel id, rfl⟩

theorem Indexed.runAll {registry : InstrumentRegistry} (indexed : Indexed registry)
    (calls : List Call) :
    Indexed (registry.runAll calls) ∧
      (registry.runAll calls).keys = (addedKeys calls).foldl register registry.keys := by
  induction calls generalizing registry with
  | nil => exact ⟨indexed, rfl⟩
  | cons call rest inductionHypothesis =>
      obtain ⟨indexedNext, keysNext⟩ := indexed.run call
      obtain ⟨indexedLast, keysLast⟩ := inductionHypothesis indexedNext
      refine ⟨indexedLast, keysLast.trans ?_⟩
      rw [keysNext]
      cases key : call.key with
      | none => simp [addedKeys, key]
      | some added => simp [addedKeys, key]

theorem indexed_runAll (calls : List Call) : Indexed (empty.runAll calls) :=
  (Indexed.empty.runAll calls).1

theorem keys_runAll (calls : List Call) :
    (empty.runAll calls).keys = registered (addedKeys calls) :=
  (Indexed.empty.runAll calls).2

/-- A symbol resolves to the id of its first registration. -/
theorem bySymbol_runAll (calls : List Call) (symbol : Text) :
    (empty.runAll calls).bySymbol symbol =
      (firstOf (addedKeys calls) symbol).map InstrumentKey.id := by
  rw [(indexed_runAll calls).symbols, keys_runAll]
  congr 1
  cases first : firstOf (addedKeys calls) symbol with
  | some key =>
      obtain ⟨-, -, rfl⟩ := firstOf_spec first
      exact find?_key_of_mem (registered_symbols_nodup _) ((mem_registered _ key).mpr first)
  | none =>
      rw [List.find?_eq_none]
      intro key member same
      obtain rfl : key.symbol = symbol := by simpa using same
      rw [(mem_registered _ key).mp member] at first
      cases first

/-! ## Extension -/

/-- Whatever resolved keeps its answer, and the entries are appended to. -/
structure Extends (registry next : InstrumentRegistry) : Prop where
  keys : registry.keys <+: next.keys
  find : ∀ id key, registry.find id = some key → next.find id = some key
  bySymbol : ∀ symbol id, registry.bySymbol symbol = some id → next.bySymbol symbol = some id

theorem Indexed.extends {registry next : InstrumentRegistry} (indexed : Indexed registry)
    (indexedNext : Indexed next) (isPrefix : registry.keys <+: next.keys) :
    Extends registry next where
  keys := isPrefix
  find := by
    intro id key found
    rw [indexed.find_eq] at found
    rw [indexedNext.find_eq]
    exact isPrefix.find?_eq_some found
  bySymbol := by
    intro symbol id resolved
    rw [indexed.symbols] at resolved
    obtain ⟨key, found, rfl⟩ := Option.map_eq_some_iff.mp resolved
    rw [indexedNext.symbols, isPrefix.find?_eq_some found]
    rfl

theorem prefix_register (keys : List InstrumentKey) (key : InstrumentKey) :
    keys <+: register keys key := by
  unfold register
  split
  · exact List.prefix_rfl
  · exact List.prefix_append keys [key]

theorem prefix_foldl_register (keys added : List InstrumentKey) :
    keys <+: added.foldl register keys := by
  induction added generalizing keys with
  | nil => exact List.prefix_rfl
  | cons key rest inductionHypothesis =>
      exact (prefix_register keys key).trans (inductionHypothesis _)

/-- No later call takes an answer back. -/
theorem Indexed.extends_runAll {registry : InstrumentRegistry} (indexed : Indexed registry)
    (more : List Call) : Extends registry (registry.runAll more) := by
  obtain ⟨indexedLast, keysLast⟩ := indexed.runAll more
  exact indexed.extends indexedLast (keysLast ▸ prefix_foldl_register registry.keys _)

/-! ## One further `add` -/

/-- Everything an `add` can do. -/
theorem add_cases (registry : InstrumentRegistry) (key : InstrumentKey) :
    (key.id = 0 ∧ registry.add key = (none, registry)) ∨
    (key.id ≠ 0 ∧ ∃ existing, registry.bySymbol key.symbol = some existing ∧
      registry.add key = (some existing, registry)) ∨
    (key.id ≠ 0 ∧ registry.bySymbol key.symbol = none ∧
      (registry.add key).1 = some key.id ∧
      (registry.add key).2.keys = registry.keys ++ [key] ∧
      (registry.add key).2.bySymbol key.symbol = some key.id) := by
  unfold add
  by_cases anonymous : key.id = 0
  · exact .inl ⟨anonymous, by rw [if_pos anonymous]⟩
  · rw [if_neg anonymous]
    cases existing : registry.bySymbol key.symbol with
    | some id => exact .inr (.inl ⟨anonymous, id, rfl, rfl⟩)
    | none =>
        refine .inr (.inr ⟨anonymous, rfl, rfl, rfl, ?_⟩)
        simp only [bySymbol] at existing ⊢
        rw [UnorderedMap.lookup_emplace, if_pos rfl, existing, Option.none_or]

/-- After any calls, a further `add` keeps every answer and every channel and
appends at most the key. It changes nothing at all for a key without id or with
a symbol that is registered, for which the first registration's id is returned;
any other key's symbol resolves to its id from then on. -/
theorem add_is_append_only (calls : List Call) (key : InstrumentKey) :
    let registry := empty.runAll calls
    let next := (registry.add key).2
    Extends registry next ∧
    (∀ channel, next.byChannel channel = registry.byChannel channel) ∧
    next.keys.length ≤ registry.keys.length + 1 ∧
    ((registry.add key).1 = none ↔ key.id = 0) ∧
    (key.id = 0 → next = registry) ∧
    (∀ first, key.id ≠ 0 → firstOf (addedKeys calls) key.symbol = some first →
      registry.bySymbol key.symbol = some first.id ∧
        (registry.add key).1 = some first.id ∧ next = registry) ∧
    (key.id ≠ 0 → firstOf (addedKeys calls) key.symbol = none →
      (registry.add key).1 = some key.id ∧ next.keys = registry.keys ++ [key] ∧
        next.bySymbol key.symbol = some key.id) := by
  intro registry next
  have indexed := indexed_runAll calls
  have firstKnown := bySymbol_runAll calls key.symbol
  have extended : Extends registry next := indexed.extends_runAll [.add key]
  refine ⟨extended, byChannel_add registry key, ?_⟩
  rcases add_cases registry key with
    ⟨anonymous, added⟩ | ⟨identified, id, known, added⟩ |
    ⟨identified, unknown, value, keys, resolved⟩
  · have same : next = registry := congrArg Prod.snd added
    rw [same, added]
    exact ⟨Nat.le_succ _, by simp [anonymous], fun _ => rfl,
      fun _ identified => absurd anonymous identified,
      fun identified => absurd anonymous identified⟩
  · have same : next = registry := congrArg Prod.snd added
    rw [same, added, known]
    rw [show (empty.runAll calls).bySymbol key.symbol = some id from known] at firstKnown
    refine ⟨Nat.le_succ _, by simp [identified], fun _ => rfl, ?_, ?_⟩
    · intro first _ isFirst
      rw [isFirst] at firstKnown
      exact ⟨firstKnown, firstKnown, rfl⟩
    · intro _ noFirst
      rw [noFirst] at firstKnown
      cases firstKnown
  · refine ⟨?_, by simp [value, identified], fun anonymous => absurd anonymous identified, ?_, ?_⟩
    · rw [show next.keys = registry.keys ++ [key] from keys, List.length_append,
        List.length_singleton]
    · intro first _ isFirst
      rw [isFirst] at firstKnown
      rw [show registry.bySymbol key.symbol = _ from firstKnown] at unknown
      cases unknown
    · exact fun _ _ => ⟨value, keys, resolved⟩

end InstrumentRegistry

end QuantGateway.MarketData
