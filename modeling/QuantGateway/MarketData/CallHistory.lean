import QuantGateway.MarketData.AppendOnly

/-!
Owns the members of a registry as functions of the calls that led to it: the entries and
their maps are those of the `add` calls, where the first registration of a symbol wins, the
channels those of the `bind_channel` calls, where the last binding wins, and how the calls
interleave does not matter.
-/

namespace QuantGateway.MarketData

namespace InstrumentRegistry

open QuantGateway.Foundation

def Call.binding : Call → Option (Text × InstrumentId)
  | .add _ => none
  | .bindChannel channel id => some (channel, id)

/-- The bindings a sequence of calls makes, in order. -/
def bindings (calls : List Call) : List (Text × InstrumentId) :=
  calls.filterMap Call.binding

/-- The last binding of a channel. -/
def lastBinding (bound : List (Text × InstrumentId)) (channel : Text) : Option InstrumentId :=
  (bound.reverse.find? fun binding => binding.1 = channel).map Prod.snd

theorem lastBinding_snoc (bound : List (Text × InstrumentId)) (channel other : Text)
    (id : InstrumentId) :
    lastBinding (bound ++ [(channel, id)]) other =
      if other = channel then some id else lastBinding bound other := by
  unfold lastBinding
  rw [List.reverse_append, List.reverse_singleton, List.singleton_append, List.find?_cons]
  by_cases same : other = channel
  · simp [same]
  · simp [same, Ne.symm same]

/-- `add` neither reads nor writes the channels. -/
theorem add_withChannels (registry : InstrumentRegistry)
    (channels : UnorderedMap Text InstrumentId) (key : InstrumentKey) :
    ({ registry with idByChannel := channels }.add key).2 =
      { (registry.add key).2 with idByChannel := channels } := by
  unfold add
  split
  · rfl
  · have same : InstrumentRegistry.bySymbol { registry with idByChannel := channels } key.symbol =
        registry.bySymbol key.symbol := rfl
    rw [same]
    split <;> rfl

/-- What a sequence of calls leaves, apart from the order in which they interleave. -/
structure Divided (calls : List Call) (registry : InstrumentRegistry) : Prop where
  entries : registry = { empty.addAll (addedKeys calls) with idByChannel := registry.idByChannel }
  channels : ∀ channel, registry.byChannel channel = lastBinding (bindings calls) channel

theorem Divided.snoc {calls : List Call} {registry : InstrumentRegistry}
    (divided : Divided calls registry) (call : Call) :
    Divided (calls ++ [call]) (call.run registry) := by
  cases call with
  | add key =>
      have added : addedKeys (calls ++ [.add key]) = addedKeys calls ++ [key] := by
        simp [addedKeys, Call.key]
      have bound : bindings (calls ++ [.add key]) = bindings calls := by
        simp [bindings, Call.binding]
      constructor
      · have step := add_withChannels (empty.addAll (addedKeys calls)) registry.idByChannel key
        rw [← divided.entries] at step
        have channels : (registry.add key).2.idByChannel = registry.idByChannel := by rw [step]
        rw [added, addAll, List.foldl_append]
        change (registry.add key).2 =
          { ((empty.addAll (addedKeys calls)).add key).2 with
            idByChannel := (registry.add key).2.idByChannel }
        rw [channels]
        exact step
      · intro channel
        rw [bound, ← divided.channels]
        exact byChannel_add registry key channel
  | bindChannel channel id =>
      have added : addedKeys (calls ++ [.bindChannel channel id]) = addedKeys calls := by
        simp [addedKeys, Call.key]
      have bound : bindings (calls ++ [.bindChannel channel id]) =
          bindings calls ++ [(channel, id)] := by
        simp [bindings, Call.binding]
      constructor
      · rw [added]
        exact congrArg (fun entries : InstrumentRegistry =>
          entries.bindChannel channel id) divided.entries
      · intro other
        rw [bound, lastBinding_snoc, ← divided.channels]
        exact byChannel_bindChannel registry channel other id

/-- However `add` and `bind_channel` calls interleave, the registry is that of the `add`
calls but for its channels, and each channel has the id of its last binding: which keys
were added in between, and whether the id is that of an entry, plays no part. -/
theorem registry_divides_by_call (calls : List Call) :
    let registry := empty.runAll calls
    registry = { empty.addAll (addedKeys calls) with idByChannel := registry.idByChannel } ∧
      ∀ channel, registry.byChannel channel = lastBinding (bindings calls) channel := by
  intro registry
  have divided : Divided calls registry := by
    unfold registry
    induction calls using List.reverseRecOn with
    | nil => exact ⟨rfl, fun _ => rfl⟩
    | append_singleton calls call inductionHypothesis =>
        unfold runAll
        rw [List.foldl_append]
        exact inductionHypothesis.snoc call
  exact ⟨divided.entries, divided.channels⟩

end InstrumentRegistry

end QuantGateway.MarketData
