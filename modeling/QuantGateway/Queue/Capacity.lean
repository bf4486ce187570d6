import QuantGateway.Queue.BlockingQueue
import Mathlib.Data.List.Infix

/-!
Owns the capacity bound of `queue::BlockingQueue<T>` over every sequence of
`push`, `pop` and `close`, for every capacity the constructor admits: which
sequences keep clear of `pop_front` on an empty deque and of a `size()` over the
bound.

Sequences are the label sequences of `sections` without their results
(`performAll_eq_some_iff`), so the order of the operations is any interleaving.
-/

namespace QuantGateway.Queue

open QuantGateway.Foundation

universe u v

variable {T : Type u} {Thread : Type v}

/-- A member call that takes the lock to change the queue. -/
inductive Operation (T : Type u) where
  | push (item : T)
  | pop
  | close
deriving DecidableEq, Repr

namespace BlockingQueue

/-- The queue an operation's locked section leaves behind. `none` is `pop_front`
on an empty deque. A `pop` that goes to sleep leaves the queue as it is. -/
def perform (queue : BlockingQueue T) : Operation T → Option (BlockingQueue T)
  | .push item => (queue.push item).map Prod.snd
  | .pop => some queue.pop.2
  | .close => some queue.close

/-- The operations one after the other, up to the first undefined one. -/
def performAll (queue : BlockingQueue T) : List (Operation T) → Option (BlockingQueue T)
  | [] => some queue
  | operation :: rest => (queue.perform operation).bind fun next => next.performAll rest

theorem performAll_append (queue : BlockingQueue T) (operations more : List (Operation T)) :
    queue.performAll (operations ++ more) =
      (queue.performAll operations).bind fun middle => middle.performAll more := by
  induction operations generalizing queue with
  | nil => rfl
  | cons operation rest inductionHypothesis =>
      simp only [List.cons_append, performAll, inductionHypothesis, Option.bind_assoc]

theorem performAll_snoc (queue : BlockingQueue T) (operations : List (Operation T))
    (operation : Operation T) :
    queue.performAll (operations ++ [operation]) =
      (queue.performAll operations).bind fun middle => middle.perform operation := by
  simp [performAll_append, performAll]

end BlockingQueue

/-! ## Sequences are the histories of `sections` -/

/-- The operation a critical section carries out. -/
def Section.operation : Section Thread T → Operation T
  | .push _ item _ => .push item
  | .pop _ _ => .pop
  | .close _ => .close

theorem SectionStep.performs {queue next : BlockingQueue T} {label : Section Thread T}
    (step : SectionStep queue label next) : queue.perform label.operation = some next := by
  cases step with
  | push thread locked => simp [Section.operation, BlockingQueue.perform, locked]
  | pop thread locked => simp [Section.operation, BlockingQueue.perform, locked]
  | close thread => rfl

/-- Whichever thread carries an operation out, it is a section of `sections`. -/
theorem BlockingQueue.perform_step {queue next : BlockingQueue T} {operation : Operation T}
    (thread : Thread) (performed : queue.perform operation = some next) :
    ∃ label : Section Thread T, label.operation = operation ∧ SectionStep queue label next := by
  cases operation with
  | push item =>
      obtain ⟨⟨result, after⟩, locked, rfl⟩ := Option.map_eq_some_iff.mp performed
      exact ⟨.push thread item result, rfl, .push thread locked⟩
  | pop =>
      obtain rfl := Option.some.inj performed
      exact ⟨.pop thread queue.pop.1, rfl, .pop thread rfl⟩
  | close =>
      obtain rfl := Option.some.inj performed
      exact ⟨.close thread, rfl, .close queue thread⟩

theorem performAll_of_run {capacity : Nat} {queue last : BlockingQueue T}
    {labels : List (Section Thread T)} (run : (sections Thread T capacity).Run queue labels last) :
    queue.performAll (labels.map Section.operation) = some last := by
  induction run with
  | nil _ => rfl
  | cons step _ inductionHypothesis =>
      exact Option.bind_eq_some_iff.mpr ⟨_, step.performs, inductionHypothesis⟩

/-- A sequence runs to a queue exactly when some interleaving of sections with
these operations does. -/
theorem performAll_eq_some_iff [Nonempty Thread] {capacity : Nat} {queue last : BlockingQueue T}
    {operations : List (Operation T)} :
    queue.performAll operations = some last ↔
      ∃ labels : List (Section Thread T), labels.map Section.operation = operations ∧
        (sections Thread T capacity).Run queue labels last := by
  constructor
  · intro performed
    induction operations generalizing queue with
    | nil =>
        obtain rfl := Option.some.inj performed
        exact ⟨[], rfl, .nil queue⟩
    | cons operation rest inductionHypothesis =>
        obtain ⟨middle, first, others⟩ := Option.bind_eq_some_iff.mp performed
        obtain ⟨label, rfl, step⟩ := BlockingQueue.perform_step (Classical.arbitrary Thread) first
        obtain ⟨labels, rfl, run⟩ := inductionHypothesis others
        exact ⟨label :: labels, rfl, .cons step run⟩
  · rintro ⟨labels, rfl, run⟩
    exact performAll_of_run run

/-! ## The bound -/

/-- At no point of the sequence has `pop_front` run on an empty deque, and at
every point `size()` is within the capacity. -/
def HonoursCapacity (capacity : Nat) (operations : List (Operation T)) : Prop :=
  ∀ done, done <+: operations → ∃ queue,
    (BlockingQueue.make capacity).performAll done = some queue ∧ queue.items.length ≤ capacity

/-- No item is pushed while the queue is open. -/
def PushesOnlyClosed (operations : List (Operation T)) : Prop :=
  ∀ (before : List (Operation T)) (item : T),
    before ++ [.push item] <+: operations → .close ∈ before

/-- What every operation keeps: the constructor's capacity, and a size within
it. -/
structure BlockingQueue.Bounded (capacity : Nat) (queue : BlockingQueue T) : Prop where
  capacityKept : queue.capacity = capacity
  bounded : queue.items.length ≤ capacity

theorem BlockingQueue.Bounded.make (capacity : Nat) :
    (BlockingQueue.make capacity : BlockingQueue T).Bounded capacity :=
  ⟨rfl, Nat.zero_le capacity⟩

/-- The capacity and the closed flag after an operation that is defined. -/
theorem BlockingQueue.perform_frame {queue next : BlockingQueue T} {operation : Operation T}
    (performed : queue.perform operation = some next) :
    next.capacity = queue.capacity ∧
      (next.closed = true ↔ queue.closed = true ∨ operation = .close) := by
  cases operation with
  | push item =>
      obtain ⟨⟨result, after⟩, locked, rfl⟩ := Option.map_eq_some_iff.mp performed
      rcases push_cases locked with
        ⟨-, -, rfl⟩ | ⟨-, -, -, rfl⟩ | ⟨-, -, -, oldest, rest, -, rfl⟩ <;> simp
  | pop =>
      obtain rfl := Option.some.inj performed
      obtain ⟨result, next, popped⟩ : ∃ result next, queue.pop = (result, next) := ⟨_, _, rfl⟩
      rw [popped]
      rcases pop_cases popped with
        ⟨item, rest, -, -, rfl⟩ | ⟨-, -, -, rfl⟩ | ⟨-, -, -, rfl⟩ <;> simp
  | close =>
      obtain rfl := Option.some.inj performed
      simp [close]

/-- An operation on a bounded queue is defined and keeps the bound, unless it is
a push to an open queue of capacity 0. -/
theorem BlockingQueue.Bounded.perform {capacity : Nat} {queue : BlockingQueue T}
    {operation : Operation T} (bounded : queue.Bounded capacity)
    (safe : ∀ item, operation = .push item → 1 ≤ capacity ∨ queue.closed = true) :
    ∃ next, queue.perform operation = some next ∧ next.Bounded capacity := by
  obtain ⟨capacityKept, bounded⟩ := bounded
  cases operation with
  | push item =>
      by_cases isClosed : queue.closed = true
      · exact ⟨queue, by simp [BlockingQueue.perform, push, isClosed], capacityKept, bounded⟩
      · have positive : 1 ≤ queue.capacity :=
          capacityKept ▸ (safe item rfl).resolve_right isClosed
        obtain ⟨result, next, locked⟩ := queue.push_defined item positive
        refine ⟨next, by simp [BlockingQueue.perform, locked], ?_⟩
        rcases push_cases locked with
          ⟨-, -, rfl⟩ | ⟨-, room, -, rfl⟩ | ⟨-, full, -, oldest, rest, itemsEq, rfl⟩
        · exact ⟨capacityKept, bounded⟩
        · refine ⟨capacityKept, ?_⟩
          simp only [List.length_append, List.length_singleton]
          omega
        · -- The oldest item makes room for the new one.
          refine ⟨capacityKept, ?_⟩
          simp only [itemsEq, List.length_cons] at bounded
          simpa using bounded
  | pop =>
      obtain ⟨result, next, popped⟩ : ∃ result next, queue.pop = (result, next) := ⟨_, _, rfl⟩
      refine ⟨next, by simp [BlockingQueue.perform, popped], ?_⟩
      rcases pop_cases popped with
        ⟨item, rest, itemsEq, -, rfl⟩ | ⟨-, -, -, rfl⟩ | ⟨-, -, -, rfl⟩
      · simp only [itemsEq, List.length_cons] at bounded
        exact ⟨capacityKept, Nat.le_of_succ_le bounded⟩
      · exact ⟨capacityKept, bounded⟩
      · exact ⟨capacityKept, bounded⟩
  | close => exact ⟨queue.close, rfl, capacityKept, bounded⟩

/-- A push to an open empty queue of capacity 0 is `pop_front` on an empty
deque. -/
theorem BlockingQueue.Bounded.push_undefined {queue : BlockingQueue T} (bounded : queue.Bounded 0)
    (isOpen : queue.closed = false) (item : T) : queue.perform (.push item) = none := by
  have empty : queue.items = [] := List.length_eq_zero_iff.mp (Nat.le_zero.mp bounded.bounded)
  simp [BlockingQueue.perform, push, isOpen, bounded.capacityKept, empty, popFront]

/-- A new queue is closed after a sequence exactly when the sequence has a
`close`. -/
theorem performAll_frame {capacity : Nat} {operations : List (Operation T)}
    {last : BlockingQueue T}
    (performed : (BlockingQueue.make capacity).performAll operations = some last) :
    last.capacity = capacity ∧ (last.closed = true ↔ .close ∈ operations) := by
  induction operations using List.reverseRecOn generalizing last with
  | nil =>
      obtain rfl := Option.some.inj performed
      simp [BlockingQueue.make]
  | append_singleton before operation inductionHypothesis =>
      rw [BlockingQueue.performAll_snoc] at performed
      obtain ⟨middle, earlier, step⟩ := Option.bind_eq_some_iff.mp performed
      obtain ⟨capacityKept, closedIff⟩ := inductionHypothesis earlier
      obtain ⟨sameCapacity, closedNow⟩ := BlockingQueue.perform_frame step
      refine ⟨sameCapacity.trans capacityKept, ?_⟩
      rw [closedNow, closedIff, List.mem_append, List.mem_singleton]
      simp only [eq_comm]

/-- A sequence that pushes to open queues only when they have room for an item
runs through and stays within the bound. -/
theorem performAll_bounded {capacity : Nat} {operations : List (Operation T)}
    (safe : 1 ≤ capacity ∨ PushesOnlyClosed operations) :
    ∃ last, (BlockingQueue.make capacity).performAll operations = some last ∧
      last.Bounded capacity := by
  induction operations using List.reverseRecOn with
  | nil => exact ⟨_, rfl, .make capacity⟩
  | append_singleton before operation inductionHypothesis =>
      have safeBefore : 1 ≤ capacity ∨ PushesOnlyClosed before :=
        safe.imp_right fun closedFirst earlier item isPrefix =>
          closedFirst earlier item (isPrefix.trans (List.prefix_append before _))
      obtain ⟨middle, earlier, bounded⟩ := inductionHypothesis safeBefore
      have defined : ∀ item, operation = .push item → 1 ≤ capacity ∨ middle.closed = true := by
        rintro item rfl
        exact safe.imp_right fun closedFirst =>
          (performAll_frame earlier).2.mpr (closedFirst before item List.prefix_rfl)
      obtain ⟨last, step, boundedLast⟩ := bounded.perform defined
      refine ⟨last, ?_, boundedLast⟩
      rw [BlockingQueue.performAll_snoc, earlier]
      exact step

/-- The bound is honoured exactly when the capacity is positive or nothing is
pushed before the queue is closed. -/
theorem honours_capacity_iff (capacity : Nat) (operations : List (Operation T)) :
    HonoursCapacity capacity operations ↔ 1 ≤ capacity ∨ PushesOnlyClosed operations := by
  constructor
  · intro honours
    refine or_iff_not_imp_left.mpr fun notPositive before item isPrefix => ?_
    obtain rfl : capacity = 0 := by omega
    -- Up to the push the queue is empty; were it open, the push would not be defined.
    obtain ⟨middle, earlier, size⟩ := honours before ((List.prefix_append _ _).trans isPrefix)
    obtain ⟨last, performed, -⟩ := honours _ isPrefix
    rw [BlockingQueue.performAll_snoc, earlier] at performed
    obtain ⟨capacityKept, closedIff⟩ := performAll_frame earlier
    by_contra notClosed
    have isOpen : middle.closed = false := by
      rw [← Bool.not_eq_true, closedIff]
      exact notClosed
    have undefined :=
      BlockingQueue.Bounded.push_undefined ⟨capacityKept, size⟩ isOpen item
    simp [undefined] at performed
  · intro safe done isPrefix
    have safeDone : 1 ≤ capacity ∨ PushesOnlyClosed done :=
      safe.imp_right fun closedFirst earlier item earlierPrefix =>
        closedFirst earlier item (earlierPrefix.trans isPrefix)
    obtain ⟨last, performed, bounded⟩ := performAll_bounded safeDone
    exact ⟨last, performed, bounded.bounded⟩

/-- A single push to a queue of capacity 0. -/
theorem honours_capacity_zero : ¬ HonoursCapacity 0 [Operation.push 1] := by
  intro honours
  obtain ⟨queue, performed, -⟩ := honours [.push 1] List.prefix_rfl
  exact absurd performed (by simp [BlockingQueue.performAll, BlockingQueue.perform,
    BlockingQueue.push, BlockingQueue.make, popFront])

end QuantGateway.Queue
