import QuantGateway.MarketData.Registry

/-!
Owns the channel names of a registry: `channel_for`, `subscription_channels` and
the binding of channels that dispatch resolves them by.

For the streamed kinds `channel_for` tells symbols apart, whatever letters they
and the interval are made of: dispatch inverts subscription.
-/

namespace QuantGateway.MarketData

open QuantGateway.Foundation

/-- `kTickerChannelPrefix`. -/
def tickerChannelPrefix : Text := "ticker.".toList

/-- `kIndexChannelPrefix`. -/
def indexChannelPrefix : Text := "deribit_price_index.".toList

def channelFor (key : InstrumentKey) (interval : Text) : Text :=
  match key.kind with
  | .option => tickerChannelPrefix ++ key.symbol ++ ['.'] ++ interval
  | .future => tickerChannelPrefix ++ key.symbol ++ ['.'] ++ interval
  | .index => indexChannelPrefix ++ key.symbol
  | .perpetual => []
  | .unknown => []

/-- The kinds with a channel. -/
def InstrumentKind.streamed : InstrumentKind → Bool
  | .option => true
  | .future => true
  | .index => true
  | .perpetual => false
  | .unknown => false

/-- The order `subscription_channels` goes through the kinds in. -/
def subscriptionOrder : List InstrumentKind :=
  [.index, .future, .option]

namespace InstrumentRegistry

def subscriptionChannels (registry : InstrumentRegistry) (interval : Text) : List Text :=
  subscriptionOrder.flatMap fun kind =>
    (registry.keys.filter fun key => key.kind = kind).filterMap fun key =>
      let channel := channelFor key interval
      if channel = [] then none else some channel

/-- `bind_channel(channel_for(key, interval), key.id)` for each key in order. -/
def bindAll (registry : InstrumentRegistry) (interval : Text) (order : List InstrumentKey) :
    InstrumentRegistry :=
  order.foldl (fun registry key => registry.bindChannel (channelFor key interval) key.id) registry

end InstrumentRegistry

/-! ## Channels tell symbols apart -/

theorem head_tickerChannelPrefix : tickerChannelPrefix.head? = some 't' := rfl

theorem head_indexChannelPrefix : indexChannelPrefix.head? = some 'd' := rfl

/-- The channel of a streamed key, by its prefix. -/
theorem channelFor_cases {key : InstrumentKey} (interval : Text)
    (streamed : key.kind.streamed = true) :
    channelFor key interval = tickerChannelPrefix ++ (key.symbol ++ ['.'] ++ interval) ∨
      channelFor key interval = indexChannelPrefix ++ key.symbol := by
  unfold channelFor
  simp only [List.append_assoc]
  cases kind : key.kind with
  | option => exact .inl rfl
  | future => exact .inl rfl
  | index => exact .inr rfl
  | perpetual => simp [kind, InstrumentKind.streamed] at streamed
  | unknown => simp [kind, InstrumentKind.streamed] at streamed

theorem channelFor_ne_nil {key : InstrumentKey} {interval : Text}
    (streamed : key.kind.streamed = true) : channelFor key interval ≠ [] := by
  intro empty
  have heads := congrArg List.head? empty
  rcases channelFor_cases interval streamed with channel | channel
  · rw [channel, List.head?_append, head_tickerChannelPrefix] at heads
    cases heads
  · rw [channel, List.head?_append, head_indexChannelPrefix] at heads
    cases heads

/-- The two prefixes differ in their first letter. -/
theorem prefixes_apart (first second : Text) :
    tickerChannelPrefix ++ first ≠ indexChannelPrefix ++ second := by
  intro same
  have heads := congrArg List.head? same
  rw [List.head?_append, List.head?_append, head_tickerChannelPrefix,
    head_indexChannelPrefix] at heads
  simp at heads

theorem channelFor_injective {first second : InstrumentKey} {interval : Text}
    (firstStreamed : first.kind.streamed = true) (secondStreamed : second.kind.streamed = true)
    (same : channelFor first interval = channelFor second interval) :
    first.symbol = second.symbol := by
  rcases channelFor_cases interval firstStreamed with firstEq | firstEq <;>
    rcases channelFor_cases interval secondStreamed with secondEq | secondEq <;>
      rw [firstEq, secondEq] at same
  · have suffixes := List.append_cancel_left same
    exact List.append_cancel_right (List.append_cancel_right suffixes)
  · exact absurd same (prefixes_apart _ _)
  · exact absurd same.symm (prefixes_apart _ _)
  · exact List.append_cancel_left same

namespace InstrumentRegistry

/-! ## Subscription -/

theorem mem_subscriptionOrder (kind : InstrumentKind) :
    kind ∈ subscriptionOrder ↔ kind.streamed = true := by
  cases kind <;> decide

/-- The subscribed channels are those of the streamed entries. -/
theorem mem_subscriptionChannels {registry : InstrumentRegistry} {interval channel : Text} :
    channel ∈ registry.subscriptionChannels interval ↔
      ∃ key ∈ registry.keys, key.kind.streamed = true ∧ channelFor key interval = channel := by
  unfold subscriptionChannels
  simp only [List.mem_flatMap, List.mem_filterMap, List.mem_filter, decide_eq_true_eq,
    mem_subscriptionOrder]
  constructor
  · rintro ⟨kind, streamed, key, ⟨member, rfl⟩, made⟩
    rw [if_neg (channelFor_ne_nil streamed)] at made
    exact ⟨key, member, streamed, Option.some.inj made⟩
  · rintro ⟨key, member, streamed, rfl⟩
    exact ⟨key.kind, streamed, key, ⟨member, rfl⟩, if_neg (channelFor_ne_nil streamed)⟩

/-! ## Dispatch -/

theorem byChannel_add (registry : InstrumentRegistry) (key : InstrumentKey) (channel : Text) :
    (registry.add key).2.byChannel channel = registry.byChannel channel := by
  unfold add byChannel
  split
  · rfl
  · split <;> rfl

theorem byChannel_addAll (registry : InstrumentRegistry) (added : List InstrumentKey)
    (channel : Text) : (registry.addAll added).byChannel channel = registry.byChannel channel := by
  unfold addAll
  induction added generalizing registry with
  | nil => rfl
  | cons key rest inductionHypothesis =>
      rw [List.foldl_cons, inductionHypothesis, byChannel_add]

theorem byChannel_bindChannel (registry : InstrumentRegistry) (bound channel : Text)
    (id : InstrumentId) :
    (registry.bindChannel bound id).byChannel channel =
      if channel = bound then some id else registry.byChannel channel :=
  UnorderedMap.lookup_insertOrAssign registry.idByChannel bound channel id

/-- Binding leaves the entries and their maps alone. -/
theorem find_bindAll (registry : InstrumentRegistry) (interval : Text)
    (order : List InstrumentKey) (id : InstrumentId) :
    (registry.bindAll interval order).find id = registry.find id := by
  unfold bindAll
  induction order generalizing registry with
  | nil => rfl
  | cons key rest inductionHypothesis =>
      rw [List.foldl_cons, inductionHypothesis]
      rfl

theorem byChannel_bindAll_of_unbound {registry : InstrumentRegistry} {interval channel : Text}
    {order : List InstrumentKey} (unbound : ∀ key ∈ order, channelFor key interval ≠ channel) :
    (registry.bindAll interval order).byChannel channel = registry.byChannel channel := by
  unfold bindAll
  induction order generalizing registry with
  | nil => rfl
  | cons key rest inductionHypothesis =>
      rw [List.foldl_cons, inductionHypothesis fun other member => unbound other (.tail _ member),
        byChannel_bindChannel, if_neg (unbound key (.head _)).symm]

/-- A channel all of whose bindings agree resolves to what they agree on. -/
theorem byChannel_bindAll_of_bound {registry : InstrumentRegistry} {interval channel : Text}
    {order : List InstrumentKey} {id : InstrumentId}
    (bound : ∃ key ∈ order, channelFor key interval = channel)
    (agree : ∀ key ∈ order, channelFor key interval = channel → key.id = id) :
    (registry.bindAll interval order).byChannel channel = some id := by
  unfold bindAll
  induction order generalizing registry with
  | nil =>
      obtain ⟨key, member, -⟩ := bound
      cases member
  | cons key rest inductionHypothesis =>
      rw [List.foldl_cons]
      by_cases later : ∃ other ∈ rest, channelFor other interval = channel
      · exact inductionHypothesis later fun other member => agree other (.tail _ member)
      · have unbound : ∀ other ∈ rest, channelFor other interval ≠ channel := by
          intro other member same
          exact later ⟨other, member, same⟩
        obtain ⟨binder, member, same⟩ := bound
        rcases List.mem_cons.mp member with rfl | inRest
        · have last : ((registry.bindChannel (channelFor binder interval) binder.id).bindAll
              interval rest).byChannel channel = _ := byChannel_bindAll_of_unbound unbound
          unfold bindAll at last
          rw [last, byChannel_bindChannel, if_pos same.symm, agree binder (.head _) same]
        · exact absurd same (unbound binder inRest)

/-- Whatever the order of the bindings, dispatch resolves each subscribed channel
to the entry it was made from, and nothing else. -/
theorem dispatch_inverts_subscription {added : List InstrumentKey}
    (distinct : ∀ first ∈ added, ∀ second ∈ added,
      first.symbol ≠ second.symbol → first.id ≠ second.id)
    (interval : Text) {order : List InstrumentKey}
    (eachBound : ∀ key, key ∈ order ↔
      key ∈ (empty.addAll added).keys ∧ key.kind.streamed = true) :
    let registry := (empty.addAll added).bindAll interval order
    (∀ channel ∈ (empty.addAll added).subscriptionChannels interval,
      ∃ key ∈ (empty.addAll added).keys, key.kind.streamed = true ∧
        channelFor key interval = channel ∧ registry.byChannel channel = some key.id ∧
        registry.find key.id = some key) ∧
    (∀ first ∈ (empty.addAll added).keys, ∀ second ∈ (empty.addAll added).keys,
      first.kind.streamed = true → second.kind.streamed = true →
      channelFor first interval = channelFor second interval → first = second) ∧
    (∀ channel, channel ∉ (empty.addAll added).subscriptionChannels interval →
      registry.byChannel channel = none) := by
  have distinctIds : DistinctIds added := by
    intro symbol other key otherKey first otherFirst same
    obtain ⟨member, -, rfl⟩ := firstOf_spec first
    obtain ⟨otherMember, -, rfl⟩ := firstOf_spec otherFirst
    by_contra apart
    exact distinct key member otherKey otherMember apart same
  have coherent := coherent_of_distinctIds distinctIds
  have injective : ∀ first ∈ (empty.addAll added).keys, ∀ second ∈ (empty.addAll added).keys,
      first.kind.streamed = true → second.kind.streamed = true →
      channelFor first interval = channelFor second interval → first = second := by
    intro first member second otherMember streamed otherStreamed same
    exact eq_of_key_eq coherent.symbols member otherMember
      (channelFor_injective streamed otherStreamed same)
  refine ⟨fun channel subscribed => ?_, injective, fun channel unsubscribed => ?_⟩
  · obtain ⟨key, member, streamed, named⟩ := mem_subscriptionChannels.mp subscribed
    refine ⟨key, member, streamed, named, ?_, ?_⟩
    · apply byChannel_bindAll_of_bound
      · exact ⟨key, (eachBound key).mpr ⟨member, streamed⟩, named⟩
      · intro other bound sameChannel
        obtain ⟨otherMember, otherStreamed⟩ := (eachBound other).mp bound
        rw [injective other otherMember key member otherStreamed streamed
          (sameChannel.trans named.symm)]
    · rw [find_bindAll]
      exact coherent.found key member
  · rw [byChannel_bindAll_of_unbound, byChannel_addAll]
    · rfl
    · intro key bound named
      obtain ⟨member, streamed⟩ := (eachBound key).mp bound
      exact unsubscribed (mem_subscriptionChannels.mpr ⟨key, member, streamed, named⟩)

/-- A future and an index, bound in the reverse order. -/
theorem dispatch_inverts_subscription_reversed :
    let future : InstrumentKey :=
      { symbol := "BTC-4SEP26".toList, baseCcy := "BTC".toList, id := 7, kind := .future }
    let index : InstrumentKey :=
      { symbol := "btc_usd".toList, baseCcy := "BTC".toList, id := 9, kind := .index }
    ∃ key ∈ (empty.addAll [future, index]).keys, key.kind.streamed = true ∧
      channelFor key "raw".toList = "deribit_price_index.btc_usd".toList ∧
      ((empty.addAll [future, index]).bindAll "raw".toList [index, future]).byChannel
        "deribit_price_index.btc_usd".toList = some key.id ∧
      ((empty.addAll [future, index]).bindAll "raw".toList [index, future]).find key.id =
        some key := by
  intro future index
  have keys : (empty.addAll [future, index]).keys = [future, index] := by decide
  have eachBound : ∀ key, key ∈ [index, future] ↔
      key ∈ (empty.addAll [future, index]).keys ∧ key.kind.streamed = true := by
    intro key
    rw [keys, List.mem_pair, List.mem_pair]
    constructor
    · rintro (rfl | rfl)
      · exact ⟨.inr rfl, rfl⟩
      · exact ⟨.inl rfl, rfl⟩
    · exact fun ⟨member, _⟩ => member.symm
  exact (dispatch_inverts_subscription (by decide) "raw".toList eachBound).1 _ (by decide)

end InstrumentRegistry

end QuantGateway.MarketData
