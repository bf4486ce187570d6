import QuantGateway.Foundation.Census
import QuantGateway.Queue.BlockingQueue
import Mathlib.Data.Fintype.Basic
import Mathlib.Tactic.Common

/-!
Owns the condition variable of `queue::BlockingQueue<T>`. `push` and `close`
notify `m_not_empty` after they unlocked, so between the two steps another thread
may take the item, close the queue, wake spuriously or go to sleep. The model is
a pool of threads that each may push, pop and close; a pool of producers and
consumers is the special case in which they do not.

The invariant counts: while a thread sleeps, every queued item is covered by a
notification still to be sent or by a thread already woken.
-/

namespace QuantGateway.Queue

open QuantGateway.Foundation

universe u v

/-- Where a thread stands with respect to one queue. -/
inductive Phase where
  /-- In no call of the queue, or waiting for `m_mutex` to enter one. -/
  | outside
  /-- In `push`, unlocked, before `notify_one`. -/
  | notifyOne
  /-- In `close`, unlocked, before `notify_all`. -/
  | notifyAll
  /-- In `pop`, asleep on `m_not_empty`. -/
  | asleep
  /-- In `pop`, woken, before it checks the wait predicate again. -/
  | woken
deriving DecidableEq, Repr

/-- One queue and the threads that use it. -/
structure Pool (Thread : Type v) (T : Type u) where
  queue : BlockingQueue T
  phase : Thread → Phase

/-- One atomic step of one thread. -/
inductive PoolEvent (Thread : Type v) (T : Type u) where
  | locked (critical : Section Thread T)
  | notify (thread : Thread)
  | spurious (thread : Thread)

/-- Where `push` continues after its locked section. -/
def PushResult.phase (result : PushResult) : Phase :=
  if result.accepted then .notifyOne else .outside

/-- Where `pop` continues after its locked section. -/
def PopResult.phase {T : Type u} : PopResult T → Phase
  | .waits => .asleep
  | .drained => .outside
  | .took _ => .outside

@[simp] theorem PushResult.phase_refused : PushResult.refused.phase = .outside := rfl
@[simp] theorem PushResult.phase_stored : PushResult.stored.phase = .notifyOne := rfl
@[simp] theorem PushResult.phase_displaced : PushResult.displaced.phase = .notifyOne := rfl
@[simp] theorem PopResult.phase_waits {T : Type u} : (.waits : PopResult T).phase = .asleep := rfl
@[simp] theorem PopResult.phase_drained {T : Type u} :
    (.drained : PopResult T).phase = .outside := rfl
@[simp] theorem PopResult.phase_took {T : Type u} (item : T) :
    (PopResult.took item).phase = .outside := rfl

/-- `notify_all`: every sleeper is woken. -/
def Phase.awaken : Phase → Phase
  | .asleep => .woken
  | phase => phase

variable {Thread : Type v} {T : Type u} [DecidableEq Thread]

/-- The steps of a pool. A woken thread re-checks with the same locked section
a caller of `pop` starts with. -/
inductive PoolStep : Pool Thread T → PoolEvent Thread T → Pool Thread T → Prop where
  | push (pool : Pool Thread T) {thread : Thread} {item : T} {result : PushResult}
      {queue : BlockingQueue T} (ready : pool.phase thread = .outside)
      (locked : pool.queue.push item = some (result, queue)) :
      PoolStep pool (.locked (.push thread item result))
        ⟨queue, Function.update pool.phase thread result.phase⟩
  | pop (pool : Pool Thread T) {thread : Thread} {result : PopResult T}
      {queue : BlockingQueue T}
      (ready : pool.phase thread = .outside ∨ pool.phase thread = .woken)
      (locked : pool.queue.pop = (result, queue)) :
      PoolStep pool (.locked (.pop thread result))
        ⟨queue, Function.update pool.phase thread result.phase⟩
  | close (pool : Pool Thread T) {thread : Thread} (ready : pool.phase thread = .outside) :
      PoolStep pool (.locked (.close thread))
        ⟨pool.queue.close, Function.update pool.phase thread .notifyAll⟩
  | notifyOneWakes (pool : Pool Thread T) {thread sleeper : Thread}
      (due : pool.phase thread = .notifyOne) (sleeps : pool.phase sleeper = .asleep) :
      PoolStep pool (.notify thread)
        ⟨pool.queue, Function.update (Function.update pool.phase sleeper .woken) thread .outside⟩
  | notifyOneLost (pool : Pool Thread T) {thread : Thread}
      (due : pool.phase thread = .notifyOne) (noSleeper : ∀ other, pool.phase other ≠ .asleep) :
      PoolStep pool (.notify thread)
        ⟨pool.queue, Function.update pool.phase thread .outside⟩
  | notifyAll (pool : Pool Thread T) {thread : Thread}
      (due : pool.phase thread = .notifyAll) :
      PoolStep pool (.notify thread)
        ⟨pool.queue, Function.update (fun other => (pool.phase other).awaken) thread .outside⟩
  | spurious (pool : Pool Thread T) {sleeper : Thread}
      (sleeps : pool.phase sleeper = .asleep) :
      PoolStep pool (.spurious sleeper)
        ⟨pool.queue, Function.update pool.phase sleeper .woken⟩

/-- Every interleaving of the steps of the threads of a pool. -/
def pools (Thread : Type v) (T : Type u) [DecidableEq Thread] (capacity : Nat) :
    TransitionSystem (Pool Thread T) (PoolEvent Thread T) where
  Initial := fun pool => pool = ⟨.make capacity, fun _ => .outside⟩
  Step := PoolStep

/-- Notifications and wakeups are internal: a pool runs its queue through an
interleaving of critical sections. -/
def poolSimulation (Thread : Type v) (T : Type u) [DecidableEq Thread] (capacity : Nat) :
    TransitionSystem.Simulation (pools Thread T capacity) (sections Thread T capacity) where
  view := Pool.queue
  initial := by
    rintro _ rfl
    rfl
  step := by
    intro pool label next step
    cases step with
    | @push thread item result _ _ locked => exact ⟨_, .single (.push thread locked)⟩
    | @pop thread result _ _ locked => exact ⟨_, .single (.pop thread locked)⟩
    | @close thread _ => exact ⟨_, .single (.close pool.queue thread)⟩
    | notifyOneWakes _ _ => exact ⟨[], .nil _⟩
    | notifyOneLost _ _ => exact ⟨[], .nil _⟩
    | notifyAll _ => exact ⟨[], .nil _⟩
    | spurious _ => exact ⟨[], .nil _⟩

/-- What holds of a queue after any interleaving of critical sections holds of the
queue of a pool. -/
theorem queue_invariant {capacity : Nat} {holds : BlockingQueue T → Prop}
    (sectionsHold : ∀ {queue}, (sections Thread T capacity).Reachable queue → holds queue)
    {pool : Pool Thread T} (reachable : (pools Thread T capacity).Reachable pool) :
    holds pool.queue :=
  sectionsHold ((poolSimulation Thread T capacity).reachable reachable)

/-! ## The counting invariant -/

section Counting

variable [Fintype Thread]

/-- While some thread sleeps, the queued items are covered by notifications due
and threads woken; and a closed queue keeps nobody asleep once it notified. -/
structure Covered (pool : Pool Thread T) : Prop where
  items : (∃ sleeper, pool.phase sleeper = .asleep) →
    pool.queue.items.length ≤ census pool.phase .notifyOne + census pool.phase .woken
  closed : pool.queue.closed = true → (∀ thread, pool.phase thread ≠ .notifyAll) →
    ∀ sleeper, pool.phase sleeper ≠ .asleep

omit [Fintype Thread] in
/-- A thread that does not fall asleep leaves the sleepers as they were, or one
fewer. -/
private theorem asleep_before {phase : Thread → Phase} {thread sleeper : Thread} {target : Phase}
    (awake : target ≠ .asleep) (sleeps : Function.update phase thread target sleeper = .asleep) :
    phase sleeper = .asleep := by
  by_cases same : sleeper = thread
  · subst same
    rw [Function.update_self] at sleeps
    exact absurd sleeps awake
  · rwa [Function.update_of_ne same] at sleeps

omit [Fintype Thread] in
/-- A thread that had no `notify_all` to send does not take one away by moving. -/
private theorem notifyAll_before {phase : Thread → Phase} {thread : Thread} {target : Phase}
    (other : phase thread ≠ .notifyAll)
    (none : ∀ any, Function.update phase thread target any ≠ .notifyAll) (any : Thread) :
    phase any ≠ .notifyAll := by
  by_cases same : any = thread
  · exact same ▸ other
  · have := none any
    rwa [Function.update_of_ne same] at this

theorem Covered.push {pool : Pool Thread T} {thread : Thread} {item : T} {result : PushResult}
    {queue : BlockingQueue T} (covered : Covered pool) (ready : pool.phase thread = .outside)
    (locked : pool.queue.push item = some (result, queue)) :
    Covered ⟨queue, Function.update pool.phase thread result.phase⟩ := by
  have awake : result.phase ≠ .asleep := by cases result <;> decide
  have closedKept : queue.closed = pool.queue.closed := by
    rcases BlockingQueue.push_cases locked with
      ⟨-, -, rfl⟩ | ⟨-, -, -, rfl⟩ | ⟨-, -, -, -, -, -, rfl⟩ <;> rfl
  refine ⟨fun ⟨sleeper, sleeps⟩ => ?_, fun closed none sleeper sleeps => ?_⟩
  · have before := covered.items ⟨sleeper, asleep_before awake sleeps⟩
    have woken : census (Function.update pool.phase thread result.phase) .woken =
        census pool.phase .woken :=
      census_update_other (by simp [ready]) (by cases result <;> decide)
    rcases BlockingQueue.push_cases locked with
      ⟨-, rfl, rfl⟩ | ⟨-, -, rfl, rfl⟩ | ⟨-, -, rfl, oldest, rest, itemsEq, rfl⟩
    · have due : census (Function.update pool.phase thread PushResult.refused.phase) .notifyOne =
          census pool.phase .notifyOne :=
        census_update_other (by simp [ready]) (by decide)
      simp only
      omega
    · -- The stored item comes with its own `notify_one`.
      have due : census (Function.update pool.phase thread PushResult.stored.phase) .notifyOne =
          census pool.phase .notifyOne + 1 := census_update_arrives (by simp [ready])
      simp only [List.length_append, List.length_singleton]
      omega
    · have due : census (Function.update pool.phase thread PushResult.displaced.phase) .notifyOne =
          census pool.phase .notifyOne + 1 := census_update_arrives (by simp [ready])
      simp only [itemsEq, List.length_cons] at before
      simp only [List.length_append, List.length_singleton]
      omega
  · exact covered.closed (closedKept ▸ closed) (notifyAll_before (by simp [ready]) none) sleeper
      (asleep_before awake sleeps)

theorem Covered.pop {pool : Pool Thread T} {thread : Thread} {result : PopResult T}
    {queue : BlockingQueue T} (covered : Covered pool)
    (ready : pool.phase thread = .outside ∨ pool.phase thread = .woken)
    (locked : pool.queue.pop = (result, queue)) :
    Covered ⟨queue, Function.update pool.phase thread result.phase⟩ := by
  have notDue : pool.phase thread ≠ .notifyAll := by rcases ready with at_ | at_ <;> simp [at_]
  rcases BlockingQueue.pop_cases locked with
    ⟨item, rest, itemsEq, rfl, rfl⟩ | ⟨itemsEq, closedEq, rfl, rfl⟩ | ⟨itemsEq, openEq, rfl, rfl⟩
  · -- The taken item was covered at worst by the thread that took it.
    refine ⟨fun ⟨sleeper, sleeps⟩ => ?_, fun closed none sleeper sleeps => ?_⟩
    · have before := covered.items ⟨sleeper, asleep_before (by simp) sleeps⟩
      have due : census (Function.update pool.phase thread (PopResult.took item).phase)
          .notifyOne = census pool.phase .notifyOne :=
        census_update_other (by rcases ready with at_ | at_ <;> simp [at_]) (by simp)
      have woken : census pool.phase .woken ≤
          census (Function.update pool.phase thread (PopResult.took item).phase) .woken + 1 := by
        rcases ready with outside | wasWoken
        · rw [census_update_other (by simp [outside]) (by simp)]
          exact Nat.le_succ _
        · exact (census_update_leaves wasWoken (by simp)).ge
      simp only [itemsEq, List.length_cons] at before
      simp only
      omega
    · exact covered.closed closed (notifyAll_before notDue none) sleeper
        (asleep_before (by simp) sleeps)
  · refine ⟨fun _ => by simp [itemsEq], fun closed none sleeper sleeps => ?_⟩
    exact covered.closed closed (notifyAll_before notDue none) sleeper
      (asleep_before (by simp) sleeps)
  · -- Only here does a thread fall asleep: the queue is empty and open.
    refine ⟨fun _ => by simp [itemsEq], fun closed => ?_⟩
    simp [openEq] at closed

theorem Covered.close {pool : Pool Thread T} {thread : Thread} (covered : Covered pool)
    (ready : pool.phase thread = .outside) :
    Covered ⟨pool.queue.close, Function.update pool.phase thread .notifyAll⟩ := by
  refine ⟨fun ⟨sleeper, sleeps⟩ => ?_, fun _ none => ?_⟩
  · have before := covered.items ⟨sleeper, asleep_before (by decide) sleeps⟩
    rw [census_update_other (by simp [ready]) (by decide),
      census_update_other (by simp [ready]) (by decide)]
    exact before
  · exact absurd (Function.update_self thread _ pool.phase) (none thread)

theorem Covered.notifyOneWakes {pool : Pool Thread T} {thread sleeper : Thread}
    (covered : Covered pool) (due : pool.phase thread = .notifyOne)
    (sleeps : pool.phase sleeper = .asleep) :
    Covered ⟨pool.queue,
      Function.update (Function.update pool.phase sleeper .woken) thread .outside⟩ := by
  have apart : thread ≠ sleeper := by
    rintro rfl
    simp [due] at sleeps
  have stillDue : Function.update pool.phase sleeper .woken thread = .notifyOne := by
    rw [Function.update_of_ne apart, due]
  refine ⟨fun _ => ?_, fun closed none => ?_⟩
  · -- The notification becomes a woken thread.
    have before := covered.items ⟨sleeper, sleeps⟩
    have sent : census (Function.update (Function.update pool.phase sleeper .woken) thread
        .outside) .notifyOne + 1 = census pool.phase .notifyOne := by
      rw [census_update_leaves stillDue (by decide),
        census_update_other (by simp [sleeps]) (by decide)]
    have woken : census (Function.update (Function.update pool.phase sleeper .woken) thread
        .outside) .woken = census pool.phase .woken + 1 := by
      rw [census_update_other (by simp [stillDue]) (by decide),
        census_update_arrives (by simp [sleeps])]
    simp only
    omega
  · have noneBefore := notifyAll_before (by simp [sleeps])
      (notifyAll_before (by simp [stillDue]) none)
    exact absurd sleeps (covered.closed closed noneBefore sleeper)

omit [DecidableEq Thread] in
theorem Covered.ofNoSleeper {pool : Pool Thread T}
    (noSleeper : ∀ sleeper, pool.phase sleeper ≠ .asleep) : Covered pool :=
  ⟨fun ⟨sleeper, sleeps⟩ => absurd sleeps (noSleeper sleeper), fun _ _ => noSleeper⟩

theorem Covered.spurious {pool : Pool Thread T} {sleeper : Thread} (covered : Covered pool)
    (sleeps : pool.phase sleeper = .asleep) :
    Covered ⟨pool.queue, Function.update pool.phase sleeper .woken⟩ := by
  refine ⟨fun _ => ?_, fun closed none => ?_⟩
  · have before := covered.items ⟨sleeper, sleeps⟩
    rw [census_update_other (by simp [sleeps]) (by decide),
      census_update_arrives (by simp [sleeps])]
    simp only
    omega
  · exact absurd sleeps
      (covered.closed closed (notifyAll_before (by simp [sleeps]) none) sleeper)

theorem Covered.step {pool next : Pool Thread T} {label : PoolEvent Thread T}
    (step : PoolStep pool label next) (covered : Covered pool) : Covered next := by
  cases step with
  | push ready locked => exact covered.push ready locked
  | pop ready locked => exact covered.pop ready locked
  | close ready => exact covered.close ready
  | notifyOneWakes due sleeps => exact covered.notifyOneWakes due sleeps
  | notifyOneLost due noSleeper =>
      refine .ofNoSleeper fun other sleeps => ?_
      have slept := asleep_before (by decide) sleeps
      exact noSleeper other slept
  | @notifyAll thread due =>
      refine .ofNoSleeper fun other sleeps => ?_
      change Function.update (fun any => (pool.phase any).awaken) thread .outside other = .asleep
        at sleeps
      have slept := asleep_before (by decide) sleeps
      cases phaseEq : pool.phase other <;> simp [phaseEq, Phase.awaken] at slept
  | spurious sleeps => exact covered.spurious sleeps

/-- Every interleaving keeps the items covered. -/
theorem covered_of_reachable {capacity : Nat} {pool : Pool Thread T}
    (reachable : (pools Thread T capacity).Reachable pool) : Covered pool :=
  reachable.invariant (by rintro _ rfl; exact .ofNoSleeper (by simp)) Covered.step

/-- No wakeup is lost: with a consumer asleep over a non-empty queue, each item
has a notification due or a consumer already woken for it; and a closed queue
that has sent its `notify_all` leaves no consumer asleep. -/
theorem no_lost_wakeup {capacity : Nat} {pool : Pool Thread T}
    (reachable : (pools Thread T capacity).Reachable pool) :
    ((∃ sleeper, pool.phase sleeper = .asleep) → pool.queue.items ≠ [] →
      pool.queue.items.length ≤ census pool.phase .notifyOne + census pool.phase .woken ∧
        ∃ thread, pool.phase thread = .notifyOne ∨ pool.phase thread = .woken) ∧
    (pool.queue.closed = true → (∀ thread, pool.phase thread ≠ .notifyAll) →
      ∀ sleeper, pool.phase sleeper ≠ .asleep) := by
  have covered := covered_of_reachable reachable
  refine ⟨fun sleeping nonempty => ?_, covered.closed⟩
  have enough := covered.items sleeping
  refine ⟨enough, ?_⟩
  have some := List.length_pos_iff.mpr nonempty
  by_cases due : 0 < census pool.phase .notifyOne
  · obtain ⟨thread, here⟩ := census_pos.mp due
    exact ⟨thread, .inl here⟩
  · obtain ⟨thread, here⟩ := census_pos.mp (show 0 < census pool.phase .woken by omega)
    exact ⟨thread, .inr here⟩

/-- A consumer that went to sleep before the first push, while the producer has
yet to notify. -/
def beforeNotify : Pool Bool Nat where
  queue := ⟨[5], 1, 0, false⟩
  phase := Function.update (Function.update (fun _ => .outside) false .asleep) true .notifyOne

theorem no_lost_wakeup_before_notify :
    (pools Bool Nat 1).Reachable beforeNotify ∧
    beforeNotify.queue.items.length ≤
      census beforeNotify.phase .notifyOne + census beforeNotify.phase .woken ∧
    ∃ thread, beforeNotify.phase thread = .notifyOne ∨ beforeNotify.phase thread = .woken := by
  have run : (pools Bool Nat 1).Run ⟨.make 1, fun _ => .outside⟩
      [.locked (.pop false .waits), .locked (.push true 5 .stored)] beforeNotify :=
    .cons (.pop _ (.inl rfl) rfl) (.cons (.push _ (by decide) rfl) (.nil _))
  have reachable : (pools Bool Nat 1).Reachable beforeNotify := ⟨_, _, rfl, run⟩
  exact ⟨reachable, (no_lost_wakeup reachable).1 ⟨false, by decide⟩ (by decide)⟩

end Counting

end QuantGateway.Queue
