import QuantGateway.MarketData.Channels
import Mathlib.Data.List.Nodup

/-!
Owns the subscription list of a registry: which channels it has, that no two are
equal, their order, and what cutting the list off at any length costs.

Does not own `channel_for` (`MarketData.Channels`) or the session that cuts the
list.
-/

namespace QuantGateway.MarketData

open QuantGateway.Foundation

namespace InstrumentRegistry

/-- The channels of the entries of one kind, in insertion order. -/
def channelsOfKind (registry : InstrumentRegistry) (interval : Text) (kind : InstrumentKind) :
    List Text :=
  (registry.keys.filter fun key => key.kind = kind).map fun key => channelFor key interval

/-! ## The list by kind -/

theorem mem_channelsOfKind {registry : InstrumentRegistry} {interval channel : Text}
    {kind : InstrumentKind} :
    channel ∈ registry.channelsOfKind interval kind ↔
      ∃ key ∈ registry.keys, key.kind = kind ∧ channelFor key interval = channel := by
  unfold channelsOfKind
  simp only [List.mem_map, List.mem_filter, decide_eq_true_eq, and_assoc]

theorem channelsOfKind_length (registry : InstrumentRegistry) (interval : Text)
    (kind : InstrumentKind) :
    (registry.channelsOfKind interval kind).length = (registry.idsOfKind kind).length := by
  rw [channelsOfKind, idsOfKind, List.length_map, List.length_map]

/-- No entry of a streamed kind is left out for want of a channel. -/
theorem subscriptionChannels_eq (registry : InstrumentRegistry) (interval : Text) :
    registry.subscriptionChannels interval =
      registry.channelsOfKind interval .index ++
        (registry.channelsOfKind interval .future ++ registry.channelsOfKind interval .option) := by
  have block {kind : InstrumentKind} (streamed : kind.streamed = true) :
      ((registry.keys.filter fun key => key.kind = kind).filterMap fun key =>
        let channel := channelFor key interval
        if channel = [] then none else some channel) = registry.channelsOfKind interval kind := by
    unfold channelsOfKind
    rw [← List.filterMap_eq_map]
    apply List.filterMap_congr
    intro key member
    obtain rfl : key.kind = kind := by simpa using (List.mem_filter.mp member).2
    exact if_neg (channelFor_ne_nil streamed)
  unfold subscriptionChannels subscriptionOrder
  simp only [List.flatMap_cons, List.flatMap_nil, List.append_nil]
  rw [block rfl, block rfl, block rfl]

/-! ## No channel twice -/

theorem channelsOfKind_nodup {registry : InstrumentRegistry} {interval : Text}
    {kind : InstrumentKind} (distinct : (registry.keys.map InstrumentKey.symbol).Nodup)
    (streamed : kind.streamed = true) : (registry.channelsOfKind interval kind).Nodup := by
  unfold channelsOfKind
  have entries : (registry.keys.filter fun key => key.kind = kind).Nodup :=
    distinct.of_map.filter _
  refine entries.map_on fun first firstMember second secondMember same => ?_
  obtain ⟨firstEntry, firstKind⟩ := List.mem_filter.mp firstMember
  obtain ⟨secondEntry, secondKind⟩ := List.mem_filter.mp secondMember
  rw [decide_eq_true_eq] at firstKind secondKind
  subst firstKind
  exact eq_of_key_eq distinct firstEntry secondEntry
    (channelFor_injective streamed (secondKind ▸ streamed) same)

/-- Entries of different kinds have different channels. -/
theorem channelsOfKind_disjoint {registry : InstrumentRegistry} {interval : Text}
    {kind other : InstrumentKind} (distinct : (registry.keys.map InstrumentKey.symbol).Nodup)
    (streamed : kind.streamed = true) (otherStreamed : other.streamed = true)
    (apart : kind ≠ other) :
    (registry.channelsOfKind interval kind).Disjoint (registry.channelsOfKind interval other) := by
  intro channel first second
  obtain ⟨key, member, rfl, named⟩ := mem_channelsOfKind.mp first
  obtain ⟨otherKey, otherMember, rfl, otherNamed⟩ := mem_channelsOfKind.mp second
  have same := channelFor_injective streamed otherStreamed (named.trans otherNamed.symm)
  exact apart (congrArg InstrumentKey.kind (eq_of_key_eq distinct member otherMember same))

theorem subscriptionChannels_nodup {registry : InstrumentRegistry} {interval : Text}
    (distinct : (registry.keys.map InstrumentKey.symbol).Nodup) :
    (registry.subscriptionChannels interval).Nodup := by
  rw [subscriptionChannels_eq]
  have futuresOptions : (registry.channelsOfKind interval .future ++
      registry.channelsOfKind interval .option).Nodup :=
    (channelsOfKind_nodup distinct rfl).append (channelsOfKind_nodup distinct rfl)
      (channelsOfKind_disjoint distinct rfl rfl (by decide))
  refine (channelsOfKind_nodup distinct rfl).append futuresOptions ?_
  rw [List.disjoint_append_right]
  exact ⟨channelsOfKind_disjoint distinct rfl rfl (by decide),
    channelsOfKind_disjoint distinct rfl rfl (by decide)⟩

/-! ## Cutting the list -/

/-- A prefix that reaches into the second part has the whole first part. -/
theorem prefix_of_mem_second {A : Type} {first second kept : List A} {item : A}
    (isPrefix : kept <+: first ++ second) (apart : first.Disjoint second)
    (inSecond : item ∈ second) (isKept : item ∈ kept) : first <+: kept := by
  rcases List.prefix_or_prefix_of_prefix isPrefix (List.prefix_append first second) with
    short | long
  · exact absurd inSecond (fun member => apart (short.subset isKept) member)
  · exact long

/-- The list has the channels of the registered indices, futures and options,
each once, by kind and within a kind in insertion order; a prefix with an option
has every future, and one with a future or an option every index. -/
theorem subscription_complete_ordered_nodup (added : List InstrumentKey) (interval : Text) :
    let registry := empty.addAll added
    let channels := registry.subscriptionChannels interval
    (∀ channel, channel ∈ channels ↔ ∃ key ∈ registry.keys,
      (key.kind = .index ∨ key.kind = .future ∨ key.kind = .option) ∧
        channelFor key interval = channel) ∧
    channels.Nodup ∧
    registry.keys.Sublist added ∧
    channels = registry.channelsOfKind interval .index ++
      (registry.channelsOfKind interval .future ++ registry.channelsOfKind interval .option) ∧
    channels.length = (registry.idsOfKind .index).length + (registry.idsOfKind .future).length +
      (registry.idsOfKind .option).length ∧
    ∀ kept, kept <+: channels →
      (∀ option ∈ registry.channelsOfKind interval .option, option ∈ kept →
        ∀ future ∈ registry.channelsOfKind interval .future, future ∈ kept) ∧
      (∀ channel ∈ registry.channelsOfKind interval .future ++
          registry.channelsOfKind interval .option, channel ∈ kept →
        ∀ index ∈ registry.channelsOfKind interval .index, index ∈ kept) := by
  intro registry channels
  have byKind : channels = _ := subscriptionChannels_eq registry interval
  have distinct : (registry.keys.map InstrumentKey.symbol).Nodup := by
    rw [show registry.keys = registered added from keys_addAll added]
    exact registered_symbols_nodup added
  have nodup : channels.Nodup := subscriptionChannels_nodup distinct
  refine ⟨fun channel => ?_, nodup, ?_, byKind, ?_, fun kept isPrefix => ?_⟩
  · rw [mem_subscriptionChannels]
    refine exists_congr fun key => and_congr_right fun _ => and_congr_left fun _ => ?_
    cases key.kind <;> simp [InstrumentKind.streamed]
  · rw [show registry.keys = registered added from keys_addAll added]
    exact registered_sublist added
  · rw [byKind, List.length_append, List.length_append, channelsOfKind_length,
      channelsOfKind_length, channelsOfKind_length, Nat.add_assoc]
  · rw [byKind] at isPrefix nodup
    constructor
    · intro option isOption optionKept future isFuture
      rw [← List.append_assoc] at isPrefix nodup
      have futures := prefix_of_mem_second isPrefix (List.disjoint_of_nodup_append nodup)
        isOption optionKept
      exact futures.subset (List.mem_append_right _ isFuture)
    · intro channel isLater channelKept index isIndex
      have indices := prefix_of_mem_second isPrefix (List.disjoint_of_nodup_append nodup)
        isLater channelKept
      exact indices.subset isIndex

end InstrumentRegistry

end QuantGateway.MarketData
