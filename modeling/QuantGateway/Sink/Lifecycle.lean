import QuantGateway.Queue.Shutdown
import QuantGateway.Sink.Waking

/-!
Owns the end of a `marketdata::QueueSink` and what comes after it: how many steps its
consumer still takes once the queue is closed, down to the notification that wakes it,
and a second `start`.

`start` assigns a thread to `m_consumer`, which calls `std::terminate` while that is
joinable. Does not own what a handler does to the sink it is called from.
-/

namespace QuantGateway.Sink

open QuantGateway.Foundation
open QuantGateway.Queue

universe u v

variable {T : Type u} {Thread : Type v} {sink next later : QueueSink T}

/-! ## Shutdown is bounded -/

/-- A step of the thread `m_consumer`. -/
def SinkEvent.ofConsumer : SinkEvent Thread T → Bool
  | .start _ => false
  | .onTick _ _ _ => false
  | .consume => true
  | .handle => true
  | .stop => false
  | .join => false

/-- The steps a consumer of a closed queue still takes: two for each queued tick, one
for the tick in its hand, and the last `pop`. -/
def QueueSink.remaining (sink : QueueSink T) : Nat :=
  match sink.consumer with
  | .absent => 0
  | .popping => 2 * sink.ledger.queue.items.length + 1
  | .handling _ => 2 * sink.ledger.queue.items.length + 2
  | .finished => 0

/-- A started sink whose queue is closed. -/
structure Closing (sink : QueueSink T) : Prop where
  closed : sink.ledger.queue.closed = true
  started : sink.consumer ≠ .absent

theorem Closing.onTick {thread : Thread} {item : T} {result : PushResult} (closing : Closing sink)
    (step : SinkStep sink (.onTick thread item result) next) : next = sink := by
  cases step with
  | onTick _ locked =>
      obtain ⟨rfl, rfl⟩ := push_refused locked closing.closed
      rfl

/-- What one step does to a closing sink: the consumer comes one step nearer to its
end, and no other step sets it back. -/
theorem Closing.step {label : SinkEvent Thread T} (closing : Closing sink)
    (step : SinkStep sink label next) :
    Closing next ∧ next.remaining + [label].countP SinkEvent.ofConsumer = sink.remaining := by
  cases label with
  | start handler =>
      cases step with
      | start _ unstarted => exact absurd unstarted closing.started
  | onTick thread item result =>
      rw [closing.onTick step]
      exact ⟨closing, rfl⟩
  | consume =>
      cases step with
      | consume popping locked =>
          rcases BlockingQueue.pop_cases locked with
            ⟨entry, rest, itemsEq, rfl, rfl⟩ | ⟨empty, -, rfl, rfl⟩ | ⟨-, isOpen, -⟩
          · refine ⟨⟨closing.closed, by simp [Consumer.afterPop]⟩, ?_⟩
            simp only [QueueSink.remaining, Consumer.afterPop, Ledger.afterPop, popping, itemsEq]
            simp [SinkEvent.ofConsumer]
            omega
          · refine ⟨⟨closing.closed, by simp [Consumer.afterPop]⟩, ?_⟩
            simp [QueueSink.remaining, Consumer.afterPop, popping, empty, SinkEvent.ofConsumer]
          · simp [closing.closed] at isOpen
  | handle =>
      cases step with
      | handle inHand =>
          refine ⟨⟨closing.closed, by simp⟩, ?_⟩
          simp [QueueSink.remaining, inHand, SinkEvent.ofConsumer]
  | stop =>
      cases step with
      | stop idle => exact ⟨⟨rfl, closing.started⟩, rfl⟩
  | join =>
      cases step with
      | join waiting finished => exact ⟨⟨closing.closed, closing.started⟩, rfl⟩

theorem Closing.run {capacity : Nat} {labels : List (SinkEvent Thread T)}
    (closing : Closing sink) (run : (sinks Thread T capacity).Run sink labels later) :
    Closing later ∧ later.remaining + labels.countP SinkEvent.ofConsumer = sink.remaining := by
  induction run with
  | nil _ => exact ⟨closing, rfl⟩
  | @cons _ _ _ label labels step _ inductionHypothesis =>
      obtain ⟨stillClosing, taken⟩ := closing.step step
      obtain ⟨closed, remaining⟩ := inductionHypothesis stillClosing
      refine ⟨closed, ?_⟩
      rw [← taken, ← remaining, Nat.add_assoc, Nat.add_comm (labels.countP _),
        ← List.countP_append, List.singleton_append]

theorem Closing.remaining_eq_zero (closing : Closing sink) :
    sink.remaining = 0 ↔ sink.consumer = .finished := by
  cases consumerEq : sink.consumer with
  | absent => exact absurd consumerEq closing.started
  | popping => simp [QueueSink.remaining, consumerEq]
  | handling entry => simp [QueueSink.remaining, consumerEq]
  | finished => simp [QueueSink.remaining, consumerEq]

section Awake

variable [DecidableEq Thread] {state after : WakingSink Thread T}

/-- The step of the sink that a step of its threads takes, if it is one. -/
def WakingEvent.inner : WakingEvent Thread T → Option (SinkEvent Thread T)
  | .sink event => some event
  | .notify _ => none
  | .spurious _ => none

/-- A step of the thread `m_consumer` that its own code takes. -/
def WakingEvent.ofConsumer : WakingEvent Thread T → Bool
  | .sink event => event.ofConsumer
  | .notify _ => false
  | .spurious _ => false

theorem WakingStep.inner {capacity : Nat} {label : WakingEvent Thread T}
    (step : WakingStep state label after) :
    (sinks Thread T capacity).Run state.sink label.inner.toList after.sink := by
  cases step with
  | start _ step => exact .single step
  | @onTick thread _ _ _ _ locked => exact .single (.onTick state.sink thread locked)
  | consume _ popping locked => exact .single (.consume state.sink popping locked)
  | handle step => exact .single step
  | stop _ idle => exact .single (.stop state.sink idle)
  | join _ step => exact .single step
  | notify _ => exact .nil _
  | spurious _ => exact .nil _

/-- A run of the threads is a run of the sink with the steps that are its own. -/
theorem inner_run {capacity : Nat} {labels : List (WakingEvent Thread T)}
    (run : (wakingSinks Thread T capacity).Run state labels after) :
    (sinks Thread T capacity).Run state.sink (labels.filterMap WakingEvent.inner)
      after.sink := by
  induction run with
  | nil _ => exact .nil _
  | @cons _ _ _ label labels step _ inductionHypothesis =>
      have split : (label :: labels).filterMap WakingEvent.inner =
          label.inner.toList ++ labels.filterMap WakingEvent.inner := by
        cases label <;> rfl
      rw [split]
      exact (WakingStep.inner step).append inductionHypothesis

omit [DecidableEq Thread] in
theorem countP_inner (labels : List (WakingEvent Thread T)) :
    (labels.filterMap WakingEvent.inner).countP SinkEvent.ofConsumer =
      labels.countP WakingEvent.ofConsumer := by
  rw [List.countP_filterMap]
  congr 1
  funext label
  cases label <;> rfl

/-- A consumer of a closed queue that is not asleep goes on. -/
theorem Closing.progress (closing : Closing state.sink) (stationed : Stationed state)
    (awake : state.phase .consumer ≠ .asleep) (unfinished : state.sink.consumer ≠ .finished) :
    ∃ label next, label.ofConsumer = true ∧ WakingStep state label next := by
  cases consumerEq : state.sink.consumer with
  | absent => exact absurd consumerEq closing.started
  | popping =>
      have ready : state.phase .consumer = .outside ∨ state.phase .consumer = .woken := by
        rcases stationed.consumer with here | here | here
        · exact .inl here
        · exact absurd here awake
        · exact .inr here
      exact ⟨.sink .consume, _, rfl, .consume ready consumerEq rfl⟩
  | handling entry => exact ⟨.sink .handle, _, rfl, .handle (.handle state.sink consumerEq)⟩
  | finished => exact absurd consumerEq unfinished

variable [Fintype Thread]

/-- A consumer asleep over a closed queue is about to be notified. -/
theorem Closing.notified (closing : Closing state.sink) (stationed : Stationed state)
    (covered : Covered state.pool) (asleep : state.phase .consumer = .asleep) :
    state.phase .owner = .notifyAll ∧ ∃ next, WakingStep state (.notify .owner) next := by
  have due : state.phase .owner = .notifyAll := by
    by_contra sent
    refine covered.closed closing.closed (fun actor due => ?_) .consumer asleep
    exact sent (stationed.of_notifyAll due ▸ due)
  exact ⟨due, _, .notify (.notifyAll state.pool due)⟩

/-- Once a started sink's queue is closed, its consumer takes as many more steps as
it has ticks to handle, at most two for each place of the queue and two more, whatever
the producers and the condition variable do meanwhile. Until it has taken them it is
only ever held up by the notification of the `stop` that closed the queue, and then the
`join` of that `stop` returns. -/
theorem shutdown_is_bounded {capacity : Nat} {labels : List (WakingEvent Thread T)}
    (reachable : (wakingSinks Thread T capacity).Reachable state) (closing : Closing state.sink)
    (run : (wakingSinks Thread T capacity).Run state labels after) :
    state.sink.remaining ≤ 2 * capacity + 2 ∧
    labels.countP WakingEvent.ofConsumer ≤ state.sink.remaining ∧
    (after.sink.consumer = .finished ↔
      labels.countP WakingEvent.ofConsumer = state.sink.remaining) ∧
    (after.phase .consumer = .asleep →
      after.phase .owner = .notifyAll ∧ ∃ next, WakingStep after (.notify .owner) next) ∧
    (after.phase .consumer ≠ .asleep → after.sink.consumer ≠ .finished →
      ∃ label next, label.ofConsumer = true ∧ WakingStep after label next) ∧
    (after.sink.consumer = .finished → after.sink.joining = true →
      after.phase .owner = .outside →
        ∃ next, WakingStep after (.sink .join) next ∧ next.sink.Stopped) := by
  obtain ⟨stillClosing, taken⟩ := closing.run (inner_run run)
  rw [countP_inner] at taken
  have later := reachable.run run
  have stationed := stationed_of_reachable later
  have covered : Covered after.pool :=
    covered_of_reachable ((wakingPool Thread T capacity).reachable later)
  have room : state.sink.ledger.queue.items.length ≤ capacity :=
    (Ledger.balanced_of_reachable ((sinkSimulation Thread T capacity).reachable
      ((wakingSimulation Thread T capacity).reachable reachable))).bounded
  refine ⟨?_, by omega, ?_, stillClosing.notified stationed covered,
    stillClosing.progress stationed, fun finished waiting outside => ?_⟩
  · unfold QueueSink.remaining
    split <;> omega
  · rw [← stillClosing.remaining_eq_zero]
    omega
  · exact ⟨_, .join outside (.join after.sink waiting finished), finished, rfl⟩

end Awake

/-- A sink that was stopped over a queued tick while its consumer slept, before the
producer and the owner have notified. -/
def caughtAsleep : WakingSink Unit Nat where
  sink :=
    { ledger := ⟨⟨[⟨0, 7⟩], 8, 0, true⟩, [⟨0, 7⟩], [], []⟩
      onTick := true
      consumer := .popping
      joinable := true
      joining := true
      handled := [] }
  phase := Function.update (Function.update (Function.update (fun _ => .outside)
    .consumer .asleep) (.producer ()) .notifyOne) .owner .notifyAll

/-- The owner notifies, and the consumer handles the tick and returns. -/
def windingDown : List (WakingEvent Unit Nat) :=
  [.notify .owner, .sink .consume, .sink .handle, .sink .consume]

theorem shutdown_is_bounded_caughtAsleep :
    (wakingSinks Unit Nat 8).Reachable caughtAsleep ∧
    caughtAsleep.phase .consumer = .asleep ∧
    ∃ after, (wakingSinks Unit Nat 8).Run caughtAsleep windingDown after ∧
      after.sink.consumer = .finished ∧
      windingDown.countP WakingEvent.ofConsumer = caughtAsleep.sink.remaining ∧
      ∃ next, WakingStep after (.sink .join) next ∧ next.sink.Stopped := by
  have before : (wakingSinks Unit Nat 8).Run ⟨.make 8, fun _ => .outside⟩
      [.sink (.start true), .sink .consume, .sink (.onTick () 7 .stored), .sink .stop]
      caughtAsleep :=
    .cons (.start rfl (.start _ _ rfl)) <| .cons (.consume (.inl rfl) rfl rfl) <|
      .cons (.onTick rfl rfl) <| .cons (.stop rfl rfl) (.nil _)
  have reachable : (wakingSinks Unit Nat 8).Reachable caughtAsleep := ⟨_, _, rfl, before⟩
  obtain ⟨after, run, finished, waiting, outside⟩ :
      ∃ after, (wakingSinks Unit Nat 8).Run caughtAsleep windingDown after ∧
        after.sink.consumer = .finished ∧ after.sink.joining = true ∧
        after.phase .owner = .outside :=
    ⟨_, .cons (.notify (.notifyAll caughtAsleep.pool rfl)) <|
      .cons (.consume (.inr rfl) rfl rfl) <| .cons (.handle (.handle _ rfl)) <|
      .cons (.consume (.inl rfl) rfl rfl) (.nil _), rfl, rfl, rfl⟩
  obtain ⟨-, -, taken, -, -, joins⟩ := shutdown_is_bounded reachable ⟨rfl, nofun⟩ run
  exact ⟨reachable, rfl, after, run, finished, taken.mp finished, joins finished waiting outside⟩

/-! ## A second `start` -/

/-- What the users of a sink find: the sink, or a process that has terminated. -/
inductive Life (T : Type u) where
  | running (sink : QueueSink T)
  | terminated

/-- A step of the threads of the sink, or a `start` after the first. -/
inductive LifeEvent (Thread : Type v) (T : Type u) where
  | within (event : SinkEvent Thread T)
  | restart (handler : Bool)

/-- The life of a sink. `start` moves the handler in before it assigns the thread, and
the assignment terminates the process while the last thread is not joined. -/
inductive LifeStep : Life T → LifeEvent Thread T → Life T → Prop where
  | within {sink next : QueueSink T} {event : SinkEvent Thread T}
      (step : SinkStep sink event next) :
      LifeStep (.running sink) (.within event) (.running next)
  | restart (sink : QueueSink T) (handler : Bool) (started : sink.consumer ≠ .absent)
      (joined : sink.joinable = false) :
      LifeStep (.running sink) (.restart handler)
        (.running { sink with onTick := handler, consumer := .popping, joinable := true })
  | terminate (sink : QueueSink T) (handler : Bool) (unjoined : sink.joinable = true) :
      LifeStep (.running sink) (.restart handler) .terminated

/-- The lives of the sinks of one capacity. -/
def lives (Thread : Type v) (T : Type u) (capacity : Nat) :
    TransitionSystem (Life T) (LifeEvent Thread T) where
  Initial := fun life => life = .running (.make capacity)
  Step := LifeStep

/-- Nothing is left for a consumer to do. -/
def QueueSink.Drained (sink : QueueSink T) : Prop :=
  sink.ledger.queue.items = [] ∧ sink.consumer.inHand = []

/-- A later state of a sink whose queue was closed: nothing has entered the queue, and
what left it left by `pop`, in its order. -/
structure AfterClose (atClose later : QueueSink T) : Prop where
  closed : later.ledger.queue.closed = true
  accepted : later.ledger.accepted = atClose.ledger.accepted
  displaced : later.ledger.displaced = atClose.ledger.displaced
  dropped : later.ledger.queue.dropped = atClose.ledger.queue.dropped
  order : later.ledger.delivered ++ later.ledger.queue.items =
    atClose.ledger.delivered ++ atClose.ledger.queue.items
  drained : atClose.Drained → later.Drained ∧ later.handled = atClose.handled

theorem AfterClose.refl (closed : sink.ledger.queue.closed = true) : AfterClose sink sink :=
  ⟨closed, rfl, rfl, rfl, rfl, fun drained => ⟨drained, rfl⟩⟩

theorem AfterClose.trans {first middle last : QueueSink T} (before : AfterClose first middle)
    (after : AfterClose middle last) : AfterClose first last where
  closed := after.closed
  accepted := after.accepted.trans before.accepted
  displaced := after.displaced.trans before.displaced
  dropped := after.dropped.trans before.dropped
  order := after.order.trans before.order
  drained := fun drained =>
    ⟨(after.drained (before.drained drained).1).1,
      (after.drained (before.drained drained).1).2.trans (before.drained drained).2⟩

/-- A started consumer of a closed queue only takes what is there. -/
theorem AfterClose.within {label : SinkEvent Thread T} (closed : sink.ledger.queue.closed = true)
    (step : SinkStep sink label next) : AfterClose sink next := by
  cases step with
  | start handler unstarted =>
      exact ⟨closed, rfl, rfl, rfl, rfl, fun drained => ⟨⟨drained.1, rfl⟩, rfl⟩⟩
  | onTick thread locked =>
      obtain ⟨rfl, rfl⟩ := push_refused locked closed
      exact .refl closed
  | consume popping locked =>
      rcases BlockingQueue.pop_cases locked with
        ⟨entry, rest, itemsEq, rfl, rfl⟩ | ⟨empty, -, rfl, rfl⟩ | ⟨-, isOpen, -⟩
      · refine ⟨closed, rfl, rfl, rfl, by simp [Ledger.afterPop, itemsEq], fun drained => ?_⟩
        exact absurd (itemsEq.symm.trans drained.1) (List.cons_ne_nil entry rest)
      · exact ⟨closed, rfl, rfl, rfl, rfl, fun drained => ⟨⟨drained.1, rfl⟩, rfl⟩⟩
      · simp [closed] at isOpen
  | handle inHand =>
      refine ⟨closed, rfl, rfl, rfl, rfl, fun drained => ?_⟩
      simp [QueueSink.Drained, inHand, Consumer.inHand] at drained
  | stop idle => exact ⟨rfl, rfl, rfl, rfl, rfl, fun drained => ⟨drained, rfl⟩⟩
  | join waiting finished => exact ⟨closed, rfl, rfl, rfl, rfl, fun drained => ⟨drained, rfl⟩⟩

theorem AfterClose.step {label : LifeEvent Thread T} (closed : sink.ledger.queue.closed = true)
    (step : LifeStep (.running sink) label (.running next)) : AfterClose sink next := by
  cases step with
  | within step => exact .within closed step
  | restart handler started joined =>
      exact ⟨closed, rfl, rfl, rfl, rfl, fun drained => ⟨⟨drained.1, rfl⟩, rfl⟩⟩

theorem AfterClose.run {capacity : Nat} {labels : List (LifeEvent Thread T)}
    (closed : sink.ledger.queue.closed = true)
    (run : (lives Thread T capacity).Run (.running sink) labels (.running later)) :
    AfterClose sink later := by
  induction labels generalizing sink with
  | nil =>
      cases run
      exact .refl closed
  | cons label labels inductionHypothesis =>
      obtain ⟨middle, step, rest⟩ := run.first_step
      cases middle with
      | running next =>
          have first := AfterClose.step closed step
          exact first.trans (inductionHypothesis first.closed rest)
      | terminated =>
          cases rest with
          | cons step _ => cases step

/-- What a `start` finds that does not terminate the process: no consumer yet, or one
that has returned from a closed and empty queue. -/
structure Succession (sink : QueueSink T) : Prop where
  unjoinable : sink.joinable = false → sink.consumer = .absent ∨ sink.consumer = .finished
  finished : sink.consumer = .finished →
    sink.ledger.queue.closed = true ∧ sink.ledger.queue.items = []

theorem Succession.within {label : SinkEvent Thread T} (succession : Succession sink)
    (step : SinkStep sink label next) : Succession next := by
  cases step with
  | start handler unstarted =>
      constructor
      · intro unjoinable
        cases unjoinable
      · intro finished
        cases finished
  | onTick thread locked =>
      refine ⟨succession.unjoinable, fun finished => ?_⟩
      obtain ⟨closed, empty⟩ := succession.finished finished
      obtain ⟨rfl, rfl⟩ := push_refused locked closed
      exact ⟨closed, empty⟩
  | consume popping locked =>
      refine ⟨fun unjoinable => ?_, fun finished => ?_⟩
      · rcases succession.unjoinable unjoinable with absent | finished
        · simp [absent] at popping
        · simp [finished] at popping
      · rcases BlockingQueue.pop_cases locked with
          ⟨entry, rest, -, rfl, -⟩ | ⟨empty, closed, rfl, rfl⟩ | ⟨-, -, rfl, -⟩
        · simp [Consumer.afterPop] at finished
        · exact ⟨closed, empty⟩
        · simp [Consumer.afterPop] at finished
  | handle inHand =>
      refine ⟨fun unjoinable => ?_, fun finished => ?_⟩
      · rcases succession.unjoinable unjoinable with absent | finished
        · simp [absent] at inHand
        · simp [finished] at inHand
      · cases finished
  | stop idle =>
      exact ⟨succession.unjoinable, fun finished => ⟨rfl, (succession.finished finished).2⟩⟩
  | join waiting finished => exact ⟨fun _ => .inr finished, succession.finished⟩

theorem succession_of_run {capacity : Nat} {labels : List (LifeEvent Thread T)}
    (succession : Succession sink)
    (run : (lives Thread T capacity).Run (.running sink) labels (.running later)) :
    Succession later := by
  induction labels generalizing sink with
  | nil =>
      cases run
      exact succession
  | cons label labels inductionHypothesis =>
      obtain ⟨middle, step, rest⟩ := run.first_step
      cases step with
      | within step => exact inductionHypothesis (succession.within step) rest
      | restart _ handler started joined =>
          refine inductionHypothesis ?_ rest
          exact ⟨nofun, nofun⟩
      | terminate _ handler unjoined =>
          cases rest with
          | cons step _ => cases step

theorem succession_of_reachable {capacity : Nat}
    (reachable : (lives Thread T capacity).Reachable (.running sink)) : Succession sink := by
  have initial : Succession (.make capacity : QueueSink T) := ⟨fun _ => .inl rfl, nofun⟩
  obtain ⟨_, labels, rfl, run⟩ := reachable
  exact succession_of_run initial run

/-- A sink is good for one `start`: after a second one that did not terminate the
process no tick is accepted, handed out, handled or counted as dropped any more. -/
theorem second_start_handles_nothing {capacity : Nat} {handler : Bool}
    {labels : List (LifeEvent Thread T)}
    (reachable : (lives Thread T capacity).Reachable (.running sink))
    (restart : LifeStep (.running sink) (.restart handler : LifeEvent Thread T) (.running next))
    (run : (lives Thread T capacity).Run (.running next) labels (.running later)) :
    later.ledger.accepted = sink.ledger.accepted ∧
    later.ledger.delivered = sink.ledger.delivered ∧
    later.ledger.displaced = sink.ledger.displaced ∧
    later.ledger.queue.dropped = sink.ledger.queue.dropped ∧
    later.ledger.queue.items = [] ∧ later.handled = sink.handled := by
  have succession := succession_of_reachable reachable
  have free : sink.consumer ≠ .absent ∧ sink.joinable = false := by
    cases restart with
    | restart _ _ started joined => exact ⟨started, joined⟩
  have finished := (succession.unjoinable free.2).resolve_left free.1
  obtain ⟨closed, empty⟩ := succession.finished finished
  have first := AfterClose.step closed restart
  have after := first.trans (.run first.closed run)
  obtain ⟨⟨drained, -⟩, handled⟩ := after.drained ⟨empty, by rw [finished]; rfl⟩
  have order := after.order
  simp only [drained, empty, List.append_nil] at order
  exact ⟨after.accepted, order, after.displaced, after.dropped, drained, handled⟩

/-- A sink that was started, fed, stopped, and has finished. -/
def fedSink : QueueSink Nat where
  ledger := ⟨⟨[], 4, 0, true⟩, [⟨0, 7⟩], [⟨0, 7⟩], []⟩
  onTick := true
  consumer := .finished
  joinable := false
  joining := false
  handled := [⟨0, 7⟩]

/-- The sink started again, and after one more tick. -/
def restartedSink : QueueSink Nat := { fedSink with consumer := .popping, joinable := true }

def refedSink : QueueSink Nat := { restartedSink with consumer := .finished }

theorem second_start_handles_nothing_fed :
    (lives Unit Nat 4).Reachable (.running fedSink) ∧
    (lives Unit Nat 4).Run (.running restartedSink)
      [.within (.onTick () 8 .refused), .within .consume] (.running refedSink) ∧
    refedSink.ledger.accepted = fedSink.ledger.accepted ∧ refedSink.handled = fedSink.handled := by
  have before : (lives Unit Nat 4).Run (.running (.make 4))
      [.within (.start true), .within (.onTick () 7 .stored), .within .consume, .within .handle,
        .within .stop, .within .consume, .within .join] (.running fedSink) :=
    .cons (.within (.start _ _ rfl)) <| .cons (.within (.onTick _ _ rfl)) <|
      .cons (.within (.consume _ rfl rfl)) <| .cons (.within (.handle _ rfl)) <|
      .cons (.within (.stop _ rfl)) <| .cons (.within (.consume _ rfl rfl)) <|
      .cons (.within (.join _ rfl rfl)) (.nil _)
  have reachable : (lives Unit Nat 4).Reachable (.running fedSink) := ⟨_, _, rfl, before⟩
  have restart : LifeStep (.running fedSink) (.restart true : LifeEvent Unit Nat)
      (.running restartedSink) := .restart fedSink true nofun rfl
  have after : (lives Unit Nat 4).Run (.running restartedSink)
      [.within (.onTick () 8 .refused), .within .consume] (.running refedSink) :=
    .cons (.within (.onTick _ _ rfl)) <| .cons (.within (.consume _ rfl rfl)) (.nil _)
  obtain ⟨accepted, -, -, -, -, handled⟩ := second_start_handles_nothing reachable restart after
  exact ⟨reachable, after, accepted, handled⟩

end QuantGateway.Sink
