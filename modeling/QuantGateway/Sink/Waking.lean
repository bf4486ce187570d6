import QuantGateway.Queue.Wakeup
import QuantGateway.Sink.QueueSink
import Mathlib.Data.Fintype.Sum
import Mathlib.Tactic.DeriveFintype

/-!
Owns a `marketdata::QueueSink` down to the condition variable of its queue: `on_tick`
and `stop` notify after they unlocked, and the consumer sleeps in `pop`. Refines both
the sink of critical sections and the pool of threads of its queue.

Does not own what the threads get done (`Sink.Rest`).
-/

namespace QuantGateway.Sink

open QuantGateway.Foundation
open QuantGateway.Queue

universe u v

/-- The threads around a sink: the callers of `on_tick`, the thread `m_consumer`, and
the one that calls `start` and `stop`. -/
inductive Actor (Thread : Type v) where
  | producer (thread : Thread)
  | consumer
  | owner
deriving DecidableEq, Fintype

variable {T : Type u} {Thread : Type v}

/-- A sink and where its threads stand with respect to the queue. -/
structure WakingSink (Thread : Type v) (T : Type u) where
  sink : QueueSink T
  phase : Actor Thread → Phase

/-- The queue with its threads. -/
def WakingSink.pool (state : WakingSink Thread T) : Pool (Actor Thread) (Numbered T) :=
  ⟨state.sink.ledger.queue, state.phase⟩

/-- A step that changes nothing but phases is one of the pool. -/
theorem WakingSink.pool_of_phases {state : WakingSink Thread T}
    {pool : Pool (Actor Thread) (Numbered T)} (same : pool.queue = state.pool.queue) :
    (⟨state.sink, pool.phase⟩ : WakingSink Thread T).pool = pool := by
  obtain ⟨queue, phase⟩ := pool
  cases same
  rfl

/-- One atomic step of a thread. -/
inductive WakingEvent (Thread : Type v) (T : Type u) where
  | sink (event : SinkEvent Thread T)
  | notify (actor : Actor Thread)
  | spurious (actor : Actor Thread)

variable [DecidableEq Thread]

/-- The steps of a sink whose threads sleep and notify. A step of the sink is taken by
a thread that is neither asleep nor due to notify. -/
inductive WakingStep : WakingSink Thread T → WakingEvent Thread T → WakingSink Thread T → Prop where
  | start {state : WakingSink Thread T} {handler : Bool} {sink : QueueSink T}
      (ready : state.phase .owner = .outside)
      (step : SinkStep state.sink (.start handler : SinkEvent Thread T) sink) :
      WakingStep state (.sink (.start handler)) ⟨sink, state.phase⟩
  | onTick {state : WakingSink Thread T} {thread : Thread} {item : T} {result : PushResult}
      {queue : BlockingQueue (Numbered T)} (ready : state.phase (.producer thread) = .outside)
      (locked : state.sink.ledger.queue.push (state.sink.ledger.next item) =
        some (result, queue)) :
      WakingStep state (.sink (.onTick thread item result))
        ⟨{ state.sink with ledger := state.sink.ledger.afterPush item queue result },
          Function.update state.phase (.producer thread) result.phase⟩
  | consume {state : WakingSink Thread T} {result : PopResult (Numbered T)}
      {queue : BlockingQueue (Numbered T)}
      (ready : state.phase .consumer = .outside ∨ state.phase .consumer = .woken)
      (popping : state.sink.consumer = .popping)
      (locked : state.sink.ledger.queue.pop = (result, queue)) :
      WakingStep state (.sink .consume)
        ⟨{ state.sink with
            ledger := state.sink.ledger.afterPop queue result
            consumer := .afterPop result },
          Function.update state.phase .consumer result.phase⟩
  | handle {state : WakingSink Thread T} {sink : QueueSink T}
      (step : SinkStep state.sink (.handle : SinkEvent Thread T) sink) :
      WakingStep state (.sink .handle) ⟨sink, state.phase⟩
  | stop {state : WakingSink Thread T} (ready : state.phase .owner = .outside)
      (idle : state.sink.joining = false) :
      WakingStep state (.sink .stop)
        ⟨{ state.sink with
            ledger := { state.sink.ledger with queue := state.sink.ledger.queue.close }
            joining := state.sink.joinable },
          Function.update state.phase .owner .notifyAll⟩
  | join {state : WakingSink Thread T} {sink : QueueSink T}
      (ready : state.phase .owner = .outside)
      (step : SinkStep state.sink (.join : SinkEvent Thread T) sink) :
      WakingStep state (.sink .join) ⟨sink, state.phase⟩
  | notify {state : WakingSink Thread T} {actor : Actor Thread}
      {pool : Pool (Actor Thread) (Numbered T)} (step : PoolStep state.pool (.notify actor) pool) :
      WakingStep state (.notify actor) ⟨state.sink, pool.phase⟩
  | spurious {state : WakingSink Thread T} {actor : Actor Thread}
      {pool : Pool (Actor Thread) (Numbered T)}
      (step : PoolStep state.pool (.spurious actor) pool) :
      WakingStep state (.spurious actor) ⟨state.sink, pool.phase⟩

/-- Every interleaving of the threads of a sink. -/
def wakingSinks (Thread : Type v) (T : Type u) [DecidableEq Thread] (capacity : Nat) :
    TransitionSystem (WakingSink Thread T) (WakingEvent Thread T) where
  Initial := fun state => state = ⟨.make capacity, fun _ => .outside⟩
  Step := WakingStep

/-- Sleeping and notifying are internal: a sink runs through an interleaving of
critical sections. -/
def wakingSimulation (Thread : Type v) (T : Type u) [DecidableEq Thread] (capacity : Nat) :
    TransitionSystem.Simulation (wakingSinks Thread T capacity) (sinks Thread T capacity) where
  view := WakingSink.sink
  initial := by
    rintro _ rfl
    rfl
  step := by
    intro state label next step
    cases step with
    | start _ step => exact ⟨_, .single step⟩
    | @onTick thread _ _ _ _ locked => exact ⟨_, .single (.onTick state.sink thread locked)⟩
    | consume _ popping locked => exact ⟨_, .single (.consume state.sink popping locked)⟩
    | handle step => exact ⟨_, .single step⟩
    | stop _ idle => exact ⟨_, .single (.stop state.sink idle)⟩
    | join _ step => exact ⟨_, .single step⟩
    | notify _ => exact ⟨[], .nil _⟩
    | spurious _ => exact ⟨[], .nil _⟩

theorem queue_of_notify {pool next : Pool (Actor Thread) (Numbered T)} {actor : Actor Thread}
    (step : PoolStep pool (.notify actor) next) : next.queue = pool.queue := by
  cases step with
  | notifyOneWakes _ _ => rfl
  | notifyOneLost _ _ => rfl
  | notifyAll _ => rfl

theorem queue_of_spurious {pool next : Pool (Actor Thread) (Numbered T)} {actor : Actor Thread}
    (step : PoolStep pool (.spurious actor) next) : next.queue = pool.queue := by
  cases step with
  | spurious _ => rfl

/-- The queue of a sink runs in the pool of the sink's threads. -/
def wakingPool (Thread : Type v) (T : Type u) [DecidableEq Thread] (capacity : Nat) :
    TransitionSystem.Simulation (wakingSinks Thread T capacity)
      (pools (Actor Thread) (Numbered T) capacity) where
  view := WakingSink.pool
  initial := by
    rintro _ rfl
    rfl
  step := by
    intro state label next step
    cases step with
    | start _ step =>
        cases step with
        | start _ _ => exact ⟨[], .nil _⟩
    | @onTick thread item result queue ready locked =>
        have view : (state.sink.ledger.afterPush item queue result).queue = queue := by
          cases result <;> rfl
        have pushed := PoolStep.push state.pool ready locked
        rw [← view] at pushed
        exact ⟨_, .single pushed⟩
    | @consume result queue ready popping locked =>
        have view : (state.sink.ledger.afterPop queue result).queue = queue := by
          cases result <;> rfl
        have popped := PoolStep.pop state.pool ready locked
        rw [← view] at popped
        exact ⟨_, .single popped⟩
    | handle step =>
        cases step with
        | handle _ => exact ⟨[], .nil _⟩
    | stop ready _ => exact ⟨_, .single (.close state.pool ready)⟩
    | join _ step =>
        cases step with
        | join _ _ => exact ⟨[], .nil _⟩
    | notify step =>
        have same := WakingSink.pool_of_phases (queue_of_notify step)
        exact ⟨_, .single (same ▸ step)⟩
    | spurious step =>
        have same := WakingSink.pool_of_phases (queue_of_spurious step)
        exact ⟨_, .single (same ▸ step)⟩

/-! ## Where the threads stand -/

/-- Producers notify one, the owner notifies all, and only the consumer sleeps: in
`pop`, outside of which it is not waiting for the queue. -/
structure Stationed (state : WakingSink Thread T) : Prop where
  producers : ∀ thread, state.phase (.producer thread) = .outside ∨
    state.phase (.producer thread) = .notifyOne
  owner : state.phase .owner = .outside ∨ state.phase .owner = .notifyAll
  consumer : state.phase .consumer = .outside ∨ state.phase .consumer = .asleep ∨
    state.phase .consumer = .woken
  occupied : state.sink.consumer ≠ .popping → state.phase .consumer = .outside

section Stations

variable {state next : WakingSink Thread T} {actor : Actor Thread}

omit [DecidableEq Thread]

theorem Stationed.of_notifyOne (stationed : Stationed state)
    (due : state.phase actor = .notifyOne) : ∃ thread, actor = .producer thread := by
  cases actor with
  | producer thread => exact ⟨thread, rfl⟩
  | consumer => rcases stationed.consumer with here | here | here <;> simp [here] at due
  | owner => rcases stationed.owner with here | here <;> simp [here] at due

theorem Stationed.of_notifyAll (stationed : Stationed state)
    (due : state.phase actor = .notifyAll) : actor = .owner := by
  cases actor with
  | producer thread => rcases stationed.producers thread with here | here <;> simp [here] at due
  | consumer => rcases stationed.consumer with here | here | here <;> simp [here] at due
  | owner => rfl

theorem Stationed.of_asleep (stationed : Stationed state)
    (sleeps : state.phase actor = .asleep) : actor = .consumer := by
  cases actor with
  | producer thread => rcases stationed.producers thread with here | here <;> simp [here] at sleeps
  | consumer => rfl
  | owner => rcases stationed.owner with here | here <;> simp [here] at sleeps

theorem Stationed.of_woken (stationed : Stationed state)
    (woken : state.phase actor = .woken) : actor = .consumer := by
  cases actor with
  | producer thread => rcases stationed.producers thread with here | here <;> simp [here] at woken
  | consumer => rfl
  | owner => rcases stationed.owner with here | here <;> simp [here] at woken

/-- A consumer that wakes or slept was in `pop`. -/
theorem Stationed.popping (stationed : Stationed state)
    (inside : state.phase .consumer ≠ .outside) : state.sink.consumer = .popping := by
  by_contra elsewhere
  exact inside (stationed.occupied elsewhere)

/-- `notify_all` wakes the consumer if it sleeps, and nobody else. -/
theorem Stationed.awaken (stationed : Stationed state) :
    Stationed ⟨state.sink, fun actor => (state.phase actor).awaken⟩ where
  producers := by
    intro thread
    rcases stationed.producers thread with here | here <;> simp [here, Phase.awaken]
  owner := by rcases stationed.owner with here | here <;> simp [here, Phase.awaken]
  consumer := by rcases stationed.consumer with here | here | here <;> simp [here, Phase.awaken]
  occupied := by
    intro elsewhere
    simp [stationed.occupied elsewhere, Phase.awaken]

end Stations

section Steps

variable {state next : WakingSink Thread T} {actor : Actor Thread}
  {pool : Pool (Actor Thread) (Numbered T)}

/-- Everything a notification can do: only the consumer can be asleep to receive it. -/
theorem Stationed.notify_cases (stationed : Stationed state)
    (step : PoolStep state.pool (.notify actor) pool) :
    (∃ thread, actor = .producer thread ∧ state.phase (.producer thread) = .notifyOne ∧
      state.phase .consumer = .asleep ∧
      pool.phase = Function.update (Function.update state.phase .consumer .woken)
        (.producer thread) .outside) ∨
    (∃ thread, actor = .producer thread ∧ state.phase (.producer thread) = .notifyOne ∧
      state.phase .consumer ≠ .asleep ∧
      pool.phase = Function.update state.phase (.producer thread) .outside) ∨
    (actor = .owner ∧ state.phase .owner = .notifyAll ∧
      pool.phase = Function.update (fun other => (state.phase other).awaken) .owner .outside) := by
  cases step with
  | notifyOneWakes due sleeps =>
      obtain ⟨thread, rfl⟩ := stationed.of_notifyOne due
      obtain rfl := stationed.of_asleep sleeps
      exact .inl ⟨thread, rfl, due, sleeps, rfl⟩
  | notifyOneLost due noSleeper =>
      obtain ⟨thread, rfl⟩ := stationed.of_notifyOne due
      exact .inr (.inl ⟨thread, rfl, due, noSleeper .consumer, rfl⟩)
  | notifyAll due =>
      obtain rfl := stationed.of_notifyAll due
      exact .inr (.inr ⟨rfl, due, rfl⟩)

theorem Stationed.spurious_cases (stationed : Stationed state)
    (step : PoolStep state.pool (.spurious actor) pool) :
    actor = .consumer ∧ state.phase .consumer = .asleep ∧
      pool.phase = Function.update state.phase .consumer .woken := by
  cases step with
  | spurious sleeps =>
      obtain rfl := stationed.of_asleep sleeps
      exact ⟨rfl, sleeps, rfl⟩

/-- Another producer's phase may only become one it can have. -/
theorem Stationed.update_producer (stationed : Stationed state) {thread : Thread} {phase : Phase}
    (allowed : phase = .outside ∨ phase = .notifyOne) {sink : QueueSink T}
    (sameConsumer : sink.consumer = state.sink.consumer) :
    Stationed ⟨sink, Function.update state.phase (.producer thread) phase⟩ where
  producers := by
    intro other
    by_cases same : other = thread
    · subst same
      simpa using allowed
    · simpa [same] using stationed.producers other
  owner := by simpa using stationed.owner
  consumer := by simpa using stationed.consumer
  occupied := by
    intro elsewhere
    simpa using stationed.occupied (sameConsumer ▸ elsewhere)

theorem Stationed.update_consumer (stationed : Stationed state) {phase : Phase}
    (allowed : phase = .outside ∨ phase = .asleep ∨ phase = .woken) {sink : QueueSink T}
    (occupied : sink.consumer ≠ .popping → phase = .outside) :
    Stationed ⟨sink, Function.update state.phase .consumer phase⟩ where
  producers := fun thread => by simpa using stationed.producers thread
  owner := by simpa using stationed.owner
  consumer := by simpa using allowed
  occupied := by simpa using occupied

theorem Stationed.update_owner (stationed : Stationed state) {phase : Phase}
    (allowed : phase = .outside ∨ phase = .notifyAll) {sink : QueueSink T}
    (sameConsumer : sink.consumer = state.sink.consumer) :
    Stationed ⟨sink, Function.update state.phase .owner phase⟩ where
  producers := fun thread => by simpa using stationed.producers thread
  owner := by simpa using allowed
  consumer := by simpa using stationed.consumer
  occupied := by
    intro elsewhere
    simpa using stationed.occupied (sameConsumer ▸ elsewhere)

theorem Stationed.step {label : WakingEvent Thread T} (step : WakingStep state label next)
    (stationed : Stationed state) : Stationed next := by
  cases step with
  | start _ step =>
      cases step with
      | start _ unstarted =>
          have outside := stationed.occupied (by simp [unstarted])
          exact ⟨stationed.producers, stationed.owner, stationed.consumer, fun _ => outside⟩
  | @onTick thread item result queue _ locked =>
      exact stationed.update_producer (by cases result <;> simp) rfl
  | @consume result queue _ popping locked =>
      refine stationed.update_consumer (by cases result <;> simp) ?_
      cases result with
      | took entry => exact fun _ => rfl
      | drained => exact fun _ => rfl
      | waits => exact fun elsewhere => absurd rfl elsewhere
  | handle step =>
      cases step with
      | handle inHand =>
          have outside := stationed.occupied (by simp [inHand])
          exact ⟨stationed.producers, stationed.owner, stationed.consumer, fun _ => outside⟩
  | stop _ idle => exact stationed.update_owner (.inr rfl) rfl
  | join _ step =>
      cases step with
      | join waiting finished =>
          exact ⟨stationed.producers, stationed.owner, stationed.consumer, stationed.occupied⟩
  | notify step =>
      rcases stationed.notify_cases step with
        ⟨thread, -, due, sleeps, phases⟩ | ⟨thread, -, due, -, phases⟩ | ⟨-, due, phases⟩
      · have popping := stationed.popping (by simp [sleeps])
        have woken : Stationed ⟨state.sink, Function.update state.phase .consumer .woken⟩ :=
          stationed.update_consumer (.inr (.inr rfl)) (absurd popping)
        rw [phases]
        exact woken.update_producer (.inl rfl) rfl
      · rw [phases]
        exact stationed.update_producer (.inl rfl) rfl
      · rw [phases]
        exact stationed.awaken.update_owner (.inl rfl) rfl
  | spurious step =>
      obtain ⟨-, sleeps, phases⟩ := stationed.spurious_cases step
      have popping := stationed.popping (by simp [sleeps])
      rw [phases]
      exact stationed.update_consumer (.inr (.inr rfl)) (absurd popping)

theorem stationed_of_reachable {capacity : Nat}
    (reachable : (wakingSinks Thread T capacity).Reachable state) : Stationed state := by
  refine reachable.invariant ?_ Stationed.step
  rintro _ rfl
  exact ⟨fun _ => .inl rfl, .inl rfl, .inl rfl, fun _ => rfl⟩

end Steps

end QuantGateway.Sink
