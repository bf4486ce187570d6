import QuantGateway.Queue.Accounting

/-!
Owns `marketdata::QueueSink`: the producers calling `on_tick`, the consumer
thread running `consume`, and `stop` closing the queue and joining that thread.
The queue runs with its ledger, so that the ticks the handler saw can be compared
with the ticks that were pushed.

Does not own `on_feed_state`, an independent atomic store. The handler is only
known by the ticks it was called with; it returns normally.
-/

namespace QuantGateway.Sink

open QuantGateway.Foundation
open QuantGateway.Queue

universe u v

variable {T : Type u} {Thread : Type v}

/-- Where the thread `m_consumer` stands in `consume`. -/
inductive Consumer (T : Type u) where
  /-- `start` was not called. -/
  | absent
  /-- At the head of the loop, in `m_queue.pop(item)`. -/
  | popping
  /-- In the loop body, before the call of `m_on_tick`. -/
  | handling (entry : Numbered T)
  /-- `consume` returned. -/
  | finished
deriving DecidableEq, Repr

/-- Where `consume` continues after a `pop` section; `waits` is inside `pop`. -/
def Consumer.afterPop : PopResult (Numbered T) → Consumer T
  | .took entry => .handling entry
  | .drained => .finished
  | .waits => .popping

/-- The tick `consume` has popped and not handled yet. -/
def Consumer.inHand : Consumer T → List (Numbered T)
  | .handling entry => [entry]
  | .absent => []
  | .popping => []
  | .finished => []

/-- The members of `QueueSink` and what became of the ticks: `onTick` says
whether `m_on_tick` holds a target, `joining` whether a `stop` waits in
`m_consumer.join()`, and `handled` which ticks `m_on_tick` was called with. -/
structure QueueSink (T : Type u) where
  ledger : Ledger T
  onTick : Bool
  consumer : Consumer T
  joinable : Bool
  joining : Bool
  handled : List (Numbered T)
deriving DecidableEq, Repr

/-- `QueueSink(std::size_t capacity)`. -/
def QueueSink.make (capacity : Nat) : QueueSink T where
  ledger := .make capacity
  onTick := false
  consumer := .absent
  joinable := false
  joining := false
  handled := []

/-- One atomic step of one thread of the sink. `stop` is the call up to its
join, `join` the rest. -/
inductive SinkEvent (Thread : Type v) (T : Type u) where
  | start (handler : Bool)
  | onTick (thread : Thread) (item : T) (result : PushResult)
  | consume
  | handle
  | stop
  | join

/-- The steps of a sink. `start` is enabled once: it leaves no consumer absent. -/
inductive SinkStep : QueueSink T → SinkEvent Thread T → QueueSink T → Prop where
  | start (sink : QueueSink T) (handler : Bool) (unstarted : sink.consumer = .absent) :
      SinkStep sink (.start handler)
        { sink with onTick := handler, consumer := .popping, joinable := true }
  | onTick (sink : QueueSink T) (thread : Thread) {item : T} {result : PushResult}
      {queue : BlockingQueue (Numbered T)}
      (locked : sink.ledger.queue.push (sink.ledger.next item) = some (result, queue)) :
      SinkStep sink (.onTick thread item result)
        { sink with ledger := sink.ledger.afterPush item queue result }
  | consume (sink : QueueSink T) {result : PopResult (Numbered T)}
      {queue : BlockingQueue (Numbered T)} (popping : sink.consumer = .popping)
      (locked : sink.ledger.queue.pop = (result, queue)) :
      SinkStep sink .consume
        { sink with
          ledger := sink.ledger.afterPop queue result
          consumer := .afterPop result }
  | handle (sink : QueueSink T) {entry : Numbered T} (inHand : sink.consumer = .handling entry) :
      SinkStep sink .handle
        { sink with
          consumer := .popping
          handled := if sink.onTick then sink.handled ++ [entry] else sink.handled }
  | stop (sink : QueueSink T) (idle : sink.joining = false) :
      SinkStep sink .stop
        { sink with
          ledger := { sink.ledger with queue := sink.ledger.queue.close }
          joining := sink.joinable }
  | join (sink : QueueSink T) (waiting : sink.joining = true)
      (finished : sink.consumer = .finished) :
      SinkStep sink .join { sink with joining := false, joinable := false }

/-- Every interleaving of `on_tick` calls by any threads with the consumer and
with `start` and `stop`. -/
def sinks (Thread : Type v) (T : Type u) (capacity : Nat) :
    TransitionSystem (QueueSink T) (SinkEvent Thread T) where
  Initial := fun sink => sink = .make capacity
  Step := SinkStep

/-- The queue of a sink runs through an interleaving of critical sections; the
consumer and the stopper are the threads `none`. -/
def sinkSimulation (Thread : Type v) (T : Type u) (capacity : Nat) :
    TransitionSystem.Simulation (sinks Thread T capacity)
      (Ledger.system (Option Thread) T capacity) where
  view := QueueSink.ledger
  initial := by
    rintro _ rfl
    rfl
  step := by
    intro sink label next step
    cases step with
    | start handler _ => exact ⟨[], .nil _⟩
    | @onTick thread _ _ _ locked => exact ⟨_, .single (.push sink.ledger (some thread) locked)⟩
    | consume _ locked => exact ⟨_, .single (.pop sink.ledger none locked)⟩
    | handle _ => exact ⟨[], .nil _⟩
    | stop _ => exact ⟨_, .single (.close sink.ledger none)⟩
    | join _ _ => exact ⟨[], .nil _⟩

/-! ## What the sink accepts -/

/-- The tick an `on_tick` call brings. -/
def SinkEvent.arrival : SinkEvent Thread T → Option T
  | .start _ => none
  | .onTick _ item _ => some item
  | .consume => none
  | .handle => none
  | .stop => none
  | .join => none

/-- The step that closes the queue. -/
def SinkEvent.stops : SinkEvent Thread T → Bool
  | .start _ => false
  | .onTick _ _ _ => false
  | .consume => false
  | .handle => false
  | .stop => true
  | .join => false

/-- The ticks whose `on_tick` push ran before the first `stop` closed the queue, in
order. -/
def ticksBeforeStop (labels : List (SinkEvent Thread T)) : List T :=
  admitted SinkEvent.arrival SinkEvent.stops labels

/-- A sink accepts the ticks brought to it before the stop, and `stop` is all that
closes its queue. -/
theorem gated_of_run {capacity : Nat} {labels : List (SinkEvent Thread T)} {sink : QueueSink T}
    (run : (sinks Thread T capacity).Run (.make capacity) labels sink) :
    Gated SinkEvent.arrival SinkEvent.stops labels (sink.ledger.accepted.map Numbered.item)
      sink.ledger.queue.closed := by
  let Entered (past : List (SinkEvent Thread T)) (sink : QueueSink T) : Prop :=
    Gated SinkEvent.arrival SinkEvent.stops past (sink.ledger.accepted.map Numbered.item)
      sink.ledger.queue.closed
  have first : Entered [] (.make capacity) := .make
  refine run.history ?_ first
  intro past sink label next step gated
  cases step with
  | start handler unstarted => exact gated.idle rfl rfl
  | @onTick thread item result queue locked =>
      change Gated _ _ _ ((sink.ledger.afterPush item queue result).accepted.map _)
        (sink.ledger.afterPush item queue result).queue.closed
      rw [Ledger.accepted_afterPush, Ledger.queue_afterPush]
      exact BlockingQueue.push_gated gated locked rfl rfl
  | @consume result queue popping locked =>
      change Gated _ _ _ ((sink.ledger.afterPop queue result).accepted.map _)
        (sink.ledger.afterPop queue result).queue.closed
      rw [Ledger.accepted_afterPop, Ledger.queue_afterPop, BlockingQueue.pop_closed locked]
      exact gated.idle rfl rfl
  | handle inHand => exact gated.idle rfl rfl
  | stop idle => exact gated.close rfl
  | join waiting finished => exact gated.idle rfl rfl

/-! ## The shutdown invariant -/

/-- The consumer handles what it pops and returns only from a closed and
drained queue; `join` returns only after it. -/
structure Orderly (sink : QueueSink T) : Prop where
  unstarted : sink.consumer = .absent →
    sink.ledger.delivered = [] ∧ sink.handled = [] ∧ sink.joinable = false
  handled : sink.onTick = true →
    sink.ledger.delivered = sink.handled ++ sink.consumer.inHand
  finished : sink.consumer = .finished →
    sink.ledger.queue.closed = true ∧ sink.ledger.queue.items = []
  joined : sink.joinable = false → sink.joining = false

theorem Orderly.make (capacity : Nat) : Orderly (QueueSink.make capacity : QueueSink T) where
  unstarted := fun _ => ⟨rfl, rfl, rfl⟩
  handled := fun armed => by simp [QueueSink.make] at armed
  finished := fun finished => by simp [QueueSink.make] at finished
  joined := fun _ => rfl

private theorem delivered_afterPush (ledger : Ledger T) (item : T)
    (queue : BlockingQueue (Numbered T)) (result : PushResult) :
    (ledger.afterPush item queue result).delivered = ledger.delivered := by
  cases result <;> rfl

/-- A closed queue refuses the tick and nothing changes. -/
private theorem push_closed {ledger : Ledger T} {item : T} {result : PushResult}
    {queue : BlockingQueue (Numbered T)} (isClosed : ledger.queue.closed = true)
    (locked : ledger.queue.push (ledger.next item) = some (result, queue)) :
    ledger.afterPush item queue result = ledger := by
  rcases BlockingQueue.push_cases locked with
    ⟨-, rfl, rfl⟩ | ⟨opened, -⟩ | ⟨opened, -⟩
  · rfl
  · simp [opened] at isClosed
  · simp [opened] at isClosed

theorem Orderly.consume {sink : QueueSink T} {result : PopResult (Numbered T)}
    {queue : BlockingQueue (Numbered T)} (orderly : Orderly sink)
    (popping : sink.consumer = .popping) (locked : sink.ledger.queue.pop = (result, queue)) :
    Orderly { sink with
      ledger := sink.ledger.afterPop queue result
      consumer := .afterPop result } := by
  have handled : sink.onTick = true → sink.ledger.delivered = sink.handled := by
    intro armed
    simpa [popping, Consumer.inHand] using orderly.handled armed
  rcases BlockingQueue.pop_cases locked with
    ⟨entry, rest, itemsEq, rfl, rfl⟩ | ⟨itemsEq, closedEq, rfl, rfl⟩ | ⟨-, -, rfl, rfl⟩
  · refine ⟨?_, fun armed => ?_, ?_, orderly.joined⟩
    · intro absent
      cases absent
    · simp [Ledger.afterPop, Consumer.afterPop, Consumer.inHand, handled armed]
    · intro finished
      cases finished
  · refine ⟨?_, fun armed => ?_, fun _ => ⟨closedEq, itemsEq⟩, orderly.joined⟩
    · intro absent
      cases absent
    · simpa [Ledger.afterPop, Consumer.afterPop, Consumer.inHand] using handled armed
  · refine ⟨?_, fun armed => ?_, ?_, orderly.joined⟩
    · intro absent
      cases absent
    · simpa [Ledger.afterPop, Consumer.afterPop, Consumer.inHand] using handled armed
    · intro finished
      cases finished

theorem Orderly.step {sink next : QueueSink T} {label : SinkEvent Thread T}
    (step : SinkStep sink label next) (orderly : Orderly sink) : Orderly next := by
  cases step with
  | start handler unstarted =>
      obtain ⟨noneDelivered, noneHandled, -⟩ := orderly.unstarted unstarted
      refine ⟨?_, fun _ => ?_, ?_, ?_⟩
      · intro absent
        cases absent
      · simp [noneDelivered, noneHandled, Consumer.inHand]
      · intro finished
        cases finished
      · intro unjoinable
        cases unjoinable
  | @onTick thread item result queue locked =>
      refine ⟨fun unstarted => ?_, fun armed => ?_, fun finished => ?_, orderly.joined⟩
      · simpa only [delivered_afterPush] using orderly.unstarted unstarted
      · simpa only [delivered_afterPush] using orderly.handled armed
      · obtain ⟨isClosed, drained⟩ := orderly.finished finished
        simp only [push_closed isClosed locked]
        exact ⟨isClosed, drained⟩
  | consume popping locked => exact orderly.consume popping locked
  | @handle entry inHand =>
      refine ⟨?_, fun armed => ?_, ?_, orderly.joined⟩
      · intro absent
        cases absent
      · change sink.onTick = true at armed
        have delivered := orderly.handled armed
        simp only [inHand, Consumer.inHand] at delivered
        simpa [armed, Consumer.inHand] using delivered
      · intro finished
        cases finished
  | stop idle =>
      refine ⟨orderly.unstarted, orderly.handled, fun finished => ?_, fun gone => gone⟩
      exact ⟨rfl, (orderly.finished finished).2⟩
  | join waiting finished =>
      refine ⟨fun absent => ?_, orderly.handled, orderly.finished, fun _ => rfl⟩
      simp [finished] at absent

theorem orderly_of_reachable {capacity : Nat} {sink : QueueSink T}
    (reachable : (sinks Thread T capacity).Reachable sink) : Orderly sink :=
  reachable.invariant (by rintro _ rfl; exact .make capacity) Orderly.step

/-! ## After `stop` has returned -/

/-- `stop` joined the consumer and returned. -/
def QueueSink.Stopped (sink : QueueSink T) : Prop :=
  sink.consumer = .finished ∧ sink.joinable = false

/-- No step of any thread changes a stopped sink. -/
theorem Orderly.stopped_fixed {sink next : QueueSink T} {label : SinkEvent Thread T}
    (orderly : Orderly sink) (stopped : sink.Stopped) (step : SinkStep sink label next) :
    next = sink := by
  obtain ⟨finished, unjoinable⟩ := stopped
  have isClosed := (orderly.finished finished).1
  cases step with
  | start handler unstarted => simp [finished] at unstarted
  | onTick thread locked => rw [push_closed isClosed locked]
  | consume popping locked => simp [finished] at popping
  | handle inHand => simp [finished] at inHand
  | stop idle =>
      have closedAgain : sink.ledger.queue.close = sink.ledger.queue := by
        rw [BlockingQueue.close, ← isClosed]
      obtain ⟨ledger, onTick, consumer, joinable, joining, handled⟩ := sink
      simp_all
  | join waiting _ =>
      rw [orderly.joined unjoinable] at waiting
      exact Bool.noConfusion waiting

theorem Orderly.stopped_run_fixed {capacity : Nat} {sink later : QueueSink T}
    {labels : List (SinkEvent Thread T)} (orderly : Orderly sink) (stopped : sink.Stopped)
    (run : (sinks Thread T capacity).Run sink labels later) : later = sink := by
  induction run with
  | nil _ => rfl
  | cons step _ inductionHypothesis =>
      obtain rfl := orderly.stopped_fixed stopped step
      exact inductionHypothesis orderly stopped

/-- When `stop` has returned, every tick pushed before the close was handled
once and in order or counted as dropped, and nothing happens to the sink any
more. -/
theorem stop_loses_nothing_silently {capacity : Nat} {labels : List (SinkEvent Thread T)}
    {sink : QueueSink T} (run : (sinks Thread T capacity).Run (.make capacity) labels sink)
    (armed : sink.onTick = true) (stopped : sink.Stopped) :
    sink.ledger.queue.items = [] ∧
    sink.ledger.accepted.map Numbered.item = ticksBeforeStop labels ∧
    sink.handled.Sublist sink.ledger.accepted ∧
    (sink.handled.map Numbered.number).Pairwise (· < ·) ∧
    (sink.handled.map Numbered.item).Sublist (ticksBeforeStop labels) ∧
    sink.handled.length + sink.ledger.displaced.length = (ticksBeforeStop labels).length ∧
    sink.ledger.queue.dropped.toNat = sink.ledger.displaced.length % 2 ^ 64 ∧
    (∀ (more : List (SinkEvent Thread T)) (later : QueueSink T),
      (sinks Thread T capacity).Run sink more later → later = sink) := by
  have reachable : (sinks Thread T capacity).Reachable sink := ⟨_, labels, rfl, run⟩
  have orderly := orderly_of_reachable reachable
  have balanced := Ledger.balanced_of_reachable
    ((sinkSimulation Thread T capacity).reachable reachable)
  change Ledger.Balanced capacity sink.ledger at balanced
  have drained := (orderly.finished stopped.1).2
  have handled : sink.ledger.delivered = sink.handled := by
    simpa [stopped.1, Consumer.inHand] using orderly.handled armed
  have accepted : sink.ledger.accepted.map Numbered.item = ticksBeforeStop labels :=
    (gated_of_run run).entered
  have inOrder : sink.handled.Sublist sink.ledger.accepted := handled ▸ balanced.delivered_sublist
  refine ⟨drained, accepted, inOrder, handled ▸ balanced.delivered_increasing,
    accepted ▸ inOrder.map _, ?_, balanced.accounted.dropped,
    fun _ _ run => orderly.stopped_run_fixed stopped run⟩
  have total := balanced.fates_length
  rw [drained, handled, List.length_nil, Nat.add_zero] at total
  rw [total, ← accepted, List.length_map]

/-- The life of a sink of one place: two ticks before the stop, the second over the
first, and one after it. -/
def shortLife : List (SinkEvent Unit Nat) :=
  [.onTick () 7 .stored, .start true, .onTick () 8 .displaced, .stop, .onTick () 9 .refused,
    .consume, .handle, .consume, .join]

def afterShortLife : QueueSink Nat where
  ledger := ⟨⟨[], 1, 1, true⟩, [⟨0, 7⟩, ⟨1, 8⟩], [⟨1, 8⟩], [⟨0, 7⟩]⟩
  onTick := true
  consumer := .finished
  joinable := false
  joining := false
  handled := [⟨1, 8⟩]

theorem stop_loses_nothing_silently_overflow :
    (sinks Unit Nat 1).Run (.make 1) shortLife afterShortLife ∧
    (afterShortLife.handled.map Numbered.item).Sublist (ticksBeforeStop shortLife) ∧
    afterShortLife.handled.length + afterShortLife.ledger.displaced.length =
      (ticksBeforeStop shortLife).length := by
  have run : (sinks Unit Nat 1).Run (.make 1) shortLife afterShortLife :=
    .cons (.onTick _ _ rfl) <| .cons (.start _ _ rfl) <| .cons (.onTick _ _ rfl) <|
      .cons (.stop _ rfl) <| .cons (.onTick _ _ rfl) <| .cons (.consume _ rfl rfl) <|
      .cons (.handle _ rfl) <| .cons (.consume _ rfl rfl) <| .cons (.join _ rfl rfl) (.nil _)
  obtain ⟨-, -, -, -, inOrder, total, -⟩ := stop_loses_nothing_silently run rfl ⟨rfl, rfl⟩
  exact ⟨run, inOrder, total⟩

/-! ## The width of the drop counter -/

/-- Any run of `push` sections is a run of `on_tick` calls. -/
private theorem pushes_are_ticks {capacity : Nat} {first last : Ledger T}
    {labels : List (Section Thread T)}
    (pushes : ∀ label ∈ labels, ∃ thread item result, label = .push thread item result)
    (run : (Ledger.system Thread T capacity).Run first labels last) (sink : QueueSink T)
    (here : sink.ledger = first) :
    ∃ events, (sinks Thread T capacity).Run sink events { sink with ledger := last } := by
  induction run generalizing sink with
  | nil ledger =>
      subst here
      exact ⟨[], .nil sink⟩
  | cons step rest inductionHypothesis =>
      subst here
      obtain ⟨thread, item, result, rfl⟩ := pushes _ (.head _)
      cases step with
      | push _ locked =>
          obtain ⟨events, tail⟩ := inductionHypothesis
            (fun label member => pushes label (.tail _ member)) { sink with ledger := _ } rfl
          exact ⟨_, .cons (.onTick sink thread locked) tail⟩

/-- A sink of one place that is stopped after `count + 1` ticks nobody took. -/
private theorem flooded_sink (count : Nat) :
    ∃ (labels : List (SinkEvent Unit Unit)) (sink : QueueSink Unit),
      (sinks Unit Unit 1).Run (.make 1) labels sink ∧ sink.onTick = true ∧
      sink.Stopped ∧ sink.handled.length = 1 ∧
      sink.ledger.queue.dropped = UInt64.ofNat count ∧
      sink.ledger.accepted.length = count + 1 := by
  obtain ⟨ledger, pushRun, queueEq, accepted, -, -⟩ := Ledger.flood () () count
  obtain ⟨events, ticks⟩ := pushes_are_ticks (by simp [List.mem_replicate]) pushRun (.make 1) rfl
  have taken : BlockingQueue.pop ledger.queue.close =
      (.took ⟨count, ()⟩, ⟨[], 1, UInt64.ofNat count, true⟩) := by
    rw [queueEq]
    rfl
  have rest : (sinks Unit Unit 1).Run { QueueSink.make 1 with ledger := ledger }
      [.start true, .stop, .consume, .handle, .consume, .join] _ :=
    .cons (.start _ _ rfl) <| .cons (.stop _ rfl) <| .cons (.consume _ rfl taken) <|
      .cons (.handle _ rfl) <| .cons (.consume _ rfl rfl) <| .cons (.join _ rfl rfl) (.nil _)
  exact ⟨_, _, ticks.append rest, rfl, ⟨rfl, rfl⟩, rfl, rfl, accepted⟩

/-- After `2 ^ 64` displacements the handled ticks and `dropped()` no longer add
up to the ticks that were pushed before the stop. -/
theorem stop_drop_counter_wraps :
    ∃ (labels : List (SinkEvent Unit Unit)) (sink : QueueSink Unit),
      (sinks Unit Unit 1).Run (.make 1) labels sink ∧ sink.onTick = true ∧ sink.Stopped ∧
      sink.handled.length + sink.ledger.queue.dropped.toNat ≠ (ticksBeforeStop labels).length := by
  obtain ⟨labels, sink, run, armed, stopped, handled, dropped, accepted⟩ := flooded_sink (2 ^ 64)
  have pushed : sink.ledger.accepted.length = (ticksBeforeStop labels).length := by
    have entered : sink.ledger.accepted.map Numbered.item = ticksBeforeStop labels :=
      (gated_of_run run).entered
    rw [← entered, List.length_map]
  refine ⟨labels, sink, run, armed, stopped, ?_⟩
  rw [← pushed, handled, dropped, accepted, UInt64.toNat_ofNat', Nat.mod_self]
  omega

end QuantGateway.Sink
