import QuantGateway.Foundation.Rest
import QuantGateway.Queue.Shutdown
import QuantGateway.Sink.Feed
import QuantGateway.Sink.Waking

/-!
Owns what a `marketdata::QueueSink` gets done when it is left alone: its threads take a
bounded number of steps, and they come to rest only with every accepted tick handled
or displaced and no `stop` waiting.

Does not own how fast the threads are; a thread with a step left takes it at some time.
-/

namespace QuantGateway.Sink

open QuantGateway.Foundation
open QuantGateway.Queue

universe u v

variable {T : Type u} {Thread : Type v}

/-- Only a started sink has a handler, and only a closed one is waited for. -/
structure Engaged (sink : QueueSink T) : Prop where
  armed : sink.onTick = true → sink.consumer ≠ .absent
  waiting : sink.joining = true → sink.ledger.queue.closed = true

theorem Engaged.step {sink next : QueueSink T} {label : SinkEvent Thread T}
    (step : SinkStep sink label next) (engaged : Engaged sink) : Engaged next := by
  cases step with
  | start handler unstarted => exact ⟨fun _ => by simp, engaged.waiting⟩
  | @onTick thread item result queue locked =>
      refine ⟨engaged.armed, fun joining => ?_⟩
      have closed := engaged.waiting joining
      obtain ⟨rfl, rfl⟩ := push_refused locked closed
      exact closed
  | @consume result queue popping locked =>
      refine ⟨fun _ => by cases result <;> simp [Consumer.afterPop], fun joining => ?_⟩
      have closed := engaged.waiting joining
      rcases BlockingQueue.pop_cases locked with
        ⟨entry, rest, -, rfl, rfl⟩ | ⟨-, -, rfl, rfl⟩ | ⟨-, -, rfl, rfl⟩
      · exact closed
      · exact closed
      · exact closed
  | handle inHand => exact ⟨fun _ => by simp, engaged.waiting⟩
  | stop idle => exact ⟨engaged.armed, fun _ => rfl⟩
  | join waiting finished => exact ⟨engaged.armed, fun joining => by simp at joining⟩

/-! ## Work -/

/-- A step that a thread takes to go on with a call it is in, or with its loop. -/
def WakingEvent.ofWork : WakingEvent Thread T → Bool
  | .sink (.start _) => false
  | .sink (.onTick _ _ _) => false
  | .sink .consume => true
  | .sink .handle => true
  | .sink .stop => false
  | .sink .join => true
  | .notify _ => true
  | .spurious _ => false

variable [DecidableEq Thread]

/-- What a stationed sink does when it is left alone: no new calls, and nobody wakes
without a notification. -/
def workings (Thread : Type v) (T : Type u) [DecidableEq Thread] :
    TransitionSystem (WakingSink Thread T) (WakingEvent Thread T) where
  Initial := Stationed
  Step := fun state label next => label.ofWork = true ∧ WakingStep state label next

/-- The steps left to a consumer that has found what is queued. -/
def WakingSink.consumerWork (state : WakingSink Thread T) : Nat :=
  match state.sink.consumer with
  | .absent => 0
  | .popping => if state.phase .consumer = .asleep then 0 else 1
  | .handling _ => 2
  | .finished => 0

variable [Fintype Thread]

/-- A bound on the steps a sink takes that is left alone: three for each queued tick,
two for each notification due, and the consumer's and the owner's own. -/
def WakingSink.work (state : WakingSink Thread T) : Nat :=
  3 * state.sink.ledger.queue.items.length +
    2 * (census state.phase .notifyOne + census state.phase .notifyAll) +
    state.consumerWork + if state.sink.joining then 1 else 0

section Work

variable {state next : WakingSink Thread T} {label : WakingEvent Thread T}

omit [DecidableEq Thread] in
theorem census_awaken (phase : Actor Thread → Phase) {value : Phase} (other : value ≠ .asleep)
    (another : value ≠ .woken) :
    census (fun actor => (phase actor).awaken) value = census phase value := by
  have same : ∀ actor, (phase actor).awaken = value ↔ phase actor = value := by
    intro actor
    cases phase actor <;> simp [Phase.awaken, other.symm, another.symm]
  simp only [census, same]

/-- A notification sent is one less due, and wakes at most the consumer. -/
theorem Stationed.notify_work (stationed : Stationed state) {actor : Actor Thread}
    {pool : Pool (Actor Thread) (Numbered T)}
    (step : PoolStep state.pool (.notify actor) pool) :
    census pool.phase .notifyOne + census pool.phase .notifyAll + 1 =
      census state.phase .notifyOne + census state.phase .notifyAll ∧
    (⟨state.sink, pool.phase⟩ : WakingSink Thread T).consumerWork ≤ state.consumerWork + 1 := by
  constructor
  · rcases stationed.notify_cases step with
      ⟨thread, -, due, sleeps, phases⟩ | ⟨thread, -, due, -, phases⟩ | ⟨-, due, phases⟩
    · have stillDue : Function.update state.phase .consumer .woken (.producer thread) =
          .notifyOne := by
        simpa using due
      have one : census pool.phase .notifyOne + 1 = census state.phase .notifyOne := by
        rw [phases, census_update_leaves stillDue (by decide),
          census_update_other (by simp [sleeps]) (by decide)]
      have all : census pool.phase .notifyAll = census state.phase .notifyAll := by
        rw [phases, census_update_other (by simp [due]) (by decide),
          census_update_other (by simp [sleeps]) (by decide)]
      omega
    · have one : census pool.phase .notifyOne + 1 = census state.phase .notifyOne := by
        rw [phases, census_update_leaves due (by decide)]
      have all : census pool.phase .notifyAll = census state.phase .notifyAll := by
        rw [phases, census_update_other (by simp [due]) (by decide)]
      omega
    · have stillDue : (fun actor => (state.phase actor).awaken) Actor.owner = .notifyAll := by
        simp [due, Phase.awaken]
      have one : census pool.phase .notifyOne = census state.phase .notifyOne := by
        rw [phases, census_update_other (by simp [stillDue]) (by decide),
          census_awaken state.phase (by decide) (by decide)]
      have sent (phase : Actor Thread → Phase) (due : phase .owner = .notifyAll) :
          census (Function.update phase .owner .outside) .notifyAll + 1 =
            census phase .notifyAll :=
        census_update_leaves due (by decide)
      have all : census pool.phase .notifyAll + 1 = census state.phase .notifyAll := by
        rw [phases, sent (fun actor => (state.phase actor).awaken) stillDue,
          census_awaken state.phase (by decide) (by decide)]
      omega
  · unfold WakingSink.consumerWork
    cases consumerEq : state.sink.consumer with
    | absent => simp
    | popping =>
        simp only
        split <;> omega
    | handling entry => simp
    | finished => simp

/-- Whatever a sink that is left alone does, less is left to do. -/
theorem Stationed.work_falls (stationed : Stationed state) (ofWork : label.ofWork = true)
    (step : WakingStep state label next) : next.work < state.work := by
  cases step with
  | start _ _ => cases ofWork
  | onTick _ _ => cases ofWork
  | @consume result queue ready popping locked =>
      have awake : state.phase .consumer ≠ .asleep := by
        rcases ready with here | here <;> simp [here]
      have notOne : state.phase .consumer ≠ .notifyOne := by
        rcases ready with here | here <;> simp [here]
      have notAll : state.phase .consumer ≠ .notifyAll := by
        rcases ready with here | here <;> simp [here]
      have before : state.consumerWork = 1 := by
        simp [WakingSink.consumerWork, popping, awake]
      unfold WakingSink.work
      rw [before, census_update_other notOne (by cases result <;> simp),
        census_update_other notAll (by cases result <;> simp)]
      rcases BlockingQueue.pop_cases locked with
        ⟨entry, rest, itemsEq, rfl, rfl⟩ | ⟨-, -, rfl, rfl⟩ | ⟨-, -, rfl, rfl⟩
      · simp only [Ledger.afterPop, itemsEq, List.length_cons, WakingSink.consumerWork,
          Consumer.afterPop]
        omega
      · simp only [Ledger.afterPop, WakingSink.consumerWork, Consumer.afterPop]
        omega
      · simp only [Ledger.afterPop, WakingSink.consumerWork, Consumer.afterPop,
          PopResult.phase_waits, Function.update_self, if_true]
        omega
  | handle step =>
      cases step with
      | handle inHand =>
          have outside := stationed.occupied (by simp [inHand])
          simp only [WakingSink.work, WakingSink.consumerWork, inHand, outside]
          simp
  | stop _ _ => cases ofWork
  | join _ step =>
      cases step with
      | join waiting finished =>
          simp only [WakingSink.work, WakingSink.consumerWork, finished, waiting]
          simp
  | notify step =>
      obtain ⟨sent, consumerWork⟩ := stationed.notify_work step
      unfold WakingSink.work
      simp only
      omega
  | spurious _ => cases ofWork

theorem workings_descend : (workings Thread T).Descends Stationed WakingSink.work := by
  rintro state label next stationed ⟨ofWork, step⟩
  exact ⟨.step step stationed, stationed.work_falls ofWork step⟩

/-! ## Coming to rest -/

/-- A thread that is due to notify can do so. -/
theorem exists_notify {actor : Actor Thread}
    (due : state.phase actor = .notifyOne ∨ state.phase actor = .notifyAll) :
    ∃ next, WakingStep state (.notify actor) next := by
  rcases due with one | all
  · by_cases sleeping : ∃ sleeper, state.phase sleeper = .asleep
    · obtain ⟨sleeper, sleeps⟩ := sleeping
      exact ⟨_, .notify (.notifyOneWakes state.pool one sleeps)⟩
    · exact ⟨_, .notify (.notifyOneLost state.pool one (not_exists.mp sleeping))⟩
  · exact ⟨_, .notify (.notifyAll state.pool all)⟩

/-- A sink that is left with nothing to do. -/
structure Settled (sink : QueueSink T) : Prop where
  drained : sink.ledger.queue.items = []
  emptyHanded : sink.consumer.inHand = []
  joined : sink.joining = false
  ended : sink.ledger.queue.closed = true → sink.consumer = .finished

/-- A sink rests only when it is settled: a consumer asleep over a queued tick or a
closed queue would have a notification coming. -/
theorem Stationed.settled (stationed : Stationed state) (covered : Covered state.pool)
    (orderly : Orderly state.sink) (engaged : Engaged state.sink)
    (armed : state.sink.onTick = true) (resting : (workings Thread T).Resting state) :
    Settled state.sink := by
  have noneDue (actor : Actor Thread) :
      state.phase actor ≠ .notifyOne ∧ state.phase actor ≠ .notifyAll := by
    rw [← not_or]
    intro due
    obtain ⟨next, step⟩ := exists_notify due
    exact resting _ _ ⟨rfl, step⟩
  have ownerOutside : state.phase .owner = .outside :=
    stationed.owner.resolve_right (noneDue .owner).2
  cases consumerEq : state.sink.consumer with
  | absent => exact absurd consumerEq (engaged.armed armed)
  | handling entry => exact absurd ⟨rfl, .handle (.handle state.sink consumerEq)⟩ (resting _ _)
  | finished =>
      obtain ⟨-, drained⟩ := orderly.finished consumerEq
      refine ⟨drained, by rw [consumerEq]; rfl, ?_, fun _ => consumerEq⟩
      by_contra waiting
      rw [Bool.not_eq_false] at waiting
      exact resting _ _ ⟨rfl, .join ownerOutside (.join state.sink waiting consumerEq)⟩
  | popping =>
      have asleep : state.phase .consumer = .asleep := by
        by_contra awake
        have ready : state.phase .consumer = .outside ∨ state.phase .consumer = .woken := by
          rcases stationed.consumer with here | here | here
          · exact .inl here
          · exact absurd here awake
          · exact .inr here
        exact resting _ _ ⟨rfl, .consume ready consumerEq rfl⟩
      have noneWoken : census state.phase .woken = 0 := by
        refine Nat.eq_zero_of_not_pos fun some => ?_
        obtain ⟨actor, woken⟩ := census_pos.mp some
        rw [stationed.of_woken woken, asleep] at woken
        cases woken
      have noneToCome : census state.phase .notifyOne = 0 := by
        refine Nat.eq_zero_of_not_pos fun some => ?_
        obtain ⟨actor, due⟩ := census_pos.mp some
        exact (noneDue actor).1 due
      have isOpen : state.sink.ledger.queue.closed ≠ true := fun closed =>
        covered.closed closed (fun actor => (noneDue actor).2) .consumer asleep
      have items := covered.items ⟨.consumer, asleep⟩
      change state.sink.ledger.queue.items.length ≤
        census state.phase .notifyOne + census state.phase .woken at items
      rw [noneToCome, noneWoken] at items
      refine ⟨List.eq_nil_of_length_eq_zero (Nat.le_zero.mp items), by rw [consumerEq]; rfl, ?_,
        fun closed => absurd closed isOpen⟩
      by_contra waiting
      rw [Bool.not_eq_false] at waiting
      exact isOpen (engaged.waiting waiting)

/-- What a sink keeps while it is left alone. -/
structure Continues (first last : QueueSink T) : Prop where
  accepted : last.ledger.accepted = first.ledger.accepted
  displaced : last.ledger.displaced = first.ledger.displaced
  closed : last.ledger.queue.closed = first.ledger.queue.closed
  armed : last.onTick = first.onTick

omit [DecidableEq Thread] [Fintype Thread] in
theorem Continues.pop {sink : QueueSink T} {result : PopResult (Numbered T)}
    {queue : BlockingQueue (Numbered T)} (locked : sink.ledger.queue.pop = (result, queue)) :
    Continues sink { sink with
      ledger := sink.ledger.afterPop queue result
      consumer := .afterPop result } := by
  rcases BlockingQueue.pop_cases locked with
    ⟨entry, rest, -, rfl, rfl⟩ | ⟨-, -, rfl, rfl⟩ | ⟨-, -, rfl, rfl⟩
  · exact ⟨rfl, rfl, rfl, rfl⟩
  · exact ⟨rfl, rfl, rfl, rfl⟩
  · exact ⟨rfl, rfl, rfl, rfl⟩

omit [Fintype Thread] in
theorem Continues.step (ofWork : label.ofWork = true) (step : WakingStep state label next) :
    Continues state.sink next.sink := by
  cases step with
  | start _ _ => cases ofWork
  | onTick _ _ => cases ofWork
  | consume _ _ locked => exact .pop locked
  | handle step =>
      cases step with
      | handle _ => exact ⟨rfl, rfl, rfl, rfl⟩
  | stop _ _ => cases ofWork
  | join _ step =>
      cases step with
      | join _ _ => exact ⟨rfl, rfl, rfl, rfl⟩
  | notify _ => exact ⟨rfl, rfl, rfl, rfl⟩
  | spurious _ => cases ofWork

omit [Fintype Thread] in
/-- A sink that is left alone runs as any sink, and keeps what was accepted. -/
theorem Continues.run {capacity : Nat} {labels : List (WakingEvent Thread T)}
    (run : (workings Thread T).Run state labels next) :
    Continues state.sink next.sink ∧ (wakingSinks Thread T capacity).Run state labels next := by
  induction run with
  | nil state => exact ⟨⟨rfl, rfl, rfl, rfl⟩, .nil state⟩
  | cons step _ inductionHypothesis =>
      obtain ⟨later, rest⟩ := inductionHypothesis
      have first := Continues.step step.1 step.2
      exact ⟨⟨later.accepted.trans first.accepted, later.displaced.trans first.displaced,
        later.closed.trans first.closed, later.armed.trans first.armed⟩, .cons step.2 rest⟩

end Work

/-- A sink that is left alone comes to rest, and when it does every tick accepted before
was handled, in its order, or displaced before; the last of them was handled last, and
a `stop` has returned. In no interleaving of pushes, notifications, spurious wakeups and
the consumer is a tick stranded behind a sleeping consumer. -/
theorem sink_comes_to_rest {capacity : Nat} {state : WakingSink Thread T}
    (reachable : (wakingSinks Thread T capacity).Reachable state)
    (armed : state.sink.onTick = true) :
    (∃ labels later, (workings Thread T).Run state labels later ∧
      (workings Thread T).Resting later) ∧
    ∀ labels later, (workings Thread T).Run state labels later →
      labels.length ≤ state.work ∧
      ((workings Thread T).Resting later →
        later.sink.ledger.queue.items = [] ∧
        later.sink.handled.Sublist state.sink.ledger.accepted ∧
        later.sink.handled.length + state.sink.ledger.displaced.length =
          state.sink.ledger.accepted.length ∧
        later.sink.handled.getLast? = state.sink.ledger.accepted.getLast? ∧
        later.sink.joining = false ∧
        (state.sink.ledger.queue.closed = true → later.sink.consumer = .finished)) := by
  have stationed := stationed_of_reachable reachable
  refine ⟨workings_descend.exists_rest state stationed, fun labels later run => ?_⟩
  obtain ⟨laterStationed, bound⟩ := workings_descend.run run stationed
  refine ⟨(Nat.le_add_right _ _).trans bound, fun resting => ?_⟩
  obtain ⟨continues, ran⟩ := Continues.run run
  have later_reachable := reachable.run ran
  have sinkReachable := (wakingSimulation Thread T capacity).reachable later_reachable
  have orderly : Orderly later.sink := orderly_of_reachable sinkReachable
  have engaged : Engaged later.sink := sinkReachable.invariant
    (by rintro _ rfl; exact ⟨nofun, nofun⟩) Engaged.step
  have covered : Covered later.pool :=
    covered_of_reachable ((wakingPool Thread T capacity).reachable later_reachable)
  have laterArmed := continues.armed.trans armed
  have settled := laterStationed.settled covered orderly engaged laterArmed resting
  have ledgerReachable := (sinkSimulation Thread T capacity).reachable sinkReachable
  have balanced : Ledger.Balanced capacity later.sink.ledger :=
    Ledger.balanced_of_reachable ledgerReachable
  have fresh : Fresh later.sink.ledger := fresh_of_reachable ledgerReachable
  have handled : later.sink.ledger.delivered = later.sink.handled := by
    simpa [settled.emptyHanded] using orderly.handled laterArmed
  rw [← continues.accepted, ← continues.displaced, ← continues.closed]
  refine ⟨settled.drained, handled ▸ balanced.delivered_sublist, ?_, ?_, settled.joined,
    settled.ended⟩
  · have total := balanced.fates_length
    rw [settled.drained, handled] at total
    simpa using total
  · unfold Fresh at fresh
    rw [settled.drained, List.append_nil, handled] at fresh
    exact fresh

/-- A consumer that fell asleep before the first tick, whose producer has yet to
notify. -/
def sleepingSink : WakingSink Unit Nat where
  sink :=
    { ledger := ⟨⟨[⟨0, 7⟩], 4, 0, false⟩, [⟨0, 7⟩], [], []⟩
      onTick := true
      consumer := .popping
      joinable := true
      joining := false
      handled := [] }
  phase := Function.update (Function.update (fun _ => .outside) .consumer .asleep)
    (.producer ()) .notifyOne

theorem sink_comes_to_rest_sleepingSink :
    ∃ labels later, (workings Unit Nat).Run sleepingSink labels later ∧
      later.sink.handled.getLast? = some ⟨0, 7⟩ := by
  have run : (wakingSinks Unit Nat 4).Run ⟨.make 4, fun _ => .outside⟩
      [.sink (.start true), .sink .consume, .sink (.onTick () 7 .stored)] sleepingSink :=
    .cons (.start rfl (.start _ _ rfl)) <| .cons (.consume (.inl rfl) rfl rfl) <|
      .cons (.onTick rfl rfl) (.nil _)
  obtain ⟨⟨labels, later, working, resting⟩, settles⟩ :=
    sink_comes_to_rest ⟨_, _, rfl, run⟩ rfl
  obtain ⟨-, -, -, last, -⟩ := (settles labels later working).2 resting
  exact ⟨labels, later, working, last⟩

end QuantGateway.Sink
