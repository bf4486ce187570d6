import QuantGateway.Foundation.Gate
import QuantGateway.Foundation.TransitionSystem
import Mathlib.Data.List.Basic

/-!
Owns the critical sections of `queue::BlockingQueue<T>`, one definition for each
member function, as pure functions of the state `m_mutex` protects. The bool a
call returns and whether it notifies `m_not_empty` after the unlock are read off
the section's result.

Does not own threads, the condition variable or histories.
-/

namespace QuantGateway.Queue

open QuantGateway.Foundation

universe u v w x

variable {T : Type u} {U : Type v}

/-- The members of `BlockingQueue<T>` that `m_mutex` protects. -/
structure BlockingQueue (T : Type u) where
  items : List T
  capacity : Nat
  dropped : UInt64
  closed : Bool
deriving DecidableEq, Repr

/-- `std::deque::pop_front`: undefined on an empty deque. -/
def popFront : List T → Option (List T)
  | [] => none
  | _ :: rest => some rest

/-- How `push` left its locked section: refused by a closed queue, stored with
room to spare, or stored in place of the oldest item. -/
inductive PushResult where
  | refused
  | stored
  | displaced
deriving DecidableEq, Repr

/-- The bool `push` returns. -/
def PushResult.value : PushResult → Bool
  | .refused => false
  | .stored => true
  | .displaced => false

/-- Whether the item entered the queue; exactly then `push` goes on to
`notify_one`. -/
def PushResult.accepted : PushResult → Bool
  | .refused => false
  | .stored => true
  | .displaced => true

/-- How `pop` left its locked section: asleep on `m_not_empty`, returning false,
or returning true with the item moved out. -/
inductive PopResult (T : Type u) where
  | waits
  | drained
  | took (item : T)
deriving DecidableEq, Repr

/-- The bool `pop` returns; `none` while it is asleep. -/
def PopResult.value : PopResult T → Option Bool
  | .waits => none
  | .drained => some false
  | .took _ => some true

/-- The caller's `out` after the section; written only with an item. -/
def PopResult.out (before : T) : PopResult T → T
  | .waits => before
  | .drained => before
  | .took item => item

def PopResult.map (f : T → U) : PopResult T → PopResult U
  | .waits => .waits
  | .drained => .drained
  | .took item => .took (f item)

namespace BlockingQueue

/-- `BlockingQueue(std::size_t capacity)`; no capacity is refused. -/
def make (capacity : Nat) : BlockingQueue T where
  items := []
  capacity := capacity
  dropped := 0
  closed := false

/-- The locked section of `push`. `none` is `pop_front` on an empty deque. -/
def push (queue : BlockingQueue T) (item : T) : Option (PushResult × BlockingQueue T) :=
  if queue.closed then
    some (.refused, queue)
  else if queue.capacity ≤ queue.items.length then
    (popFront queue.items).map fun rest =>
      (.displaced, { queue with items := rest ++ [item], dropped := queue.dropped + 1 })
  else
    some (.stored, { queue with items := queue.items ++ [item] })

/-- The locked section of `pop` from a (re-)check of the wait predicate on. -/
def pop (queue : BlockingQueue T) : PopResult T × BlockingQueue T :=
  match queue.items with
  | item :: rest => (.took item, { queue with items := rest })
  | [] => if queue.closed then (.drained, queue) else (.waits, queue)

/-- The locked section of `close`. -/
def close (queue : BlockingQueue T) : BlockingQueue T :=
  { queue with closed := true }

/-- The queue with every item replaced by its image. -/
def map (f : T → U) (queue : BlockingQueue T) : BlockingQueue U where
  items := queue.items.map f
  capacity := queue.capacity
  dropped := queue.dropped
  closed := queue.closed

/-! ### What one section can do -/

/-- Everything a `push` section can do. -/
theorem push_cases {queue next : BlockingQueue T} {item : T} {result : PushResult}
    (locked : queue.push item = some (result, next)) :
    (queue.closed = true ∧ result = .refused ∧ next = queue) ∨
    (queue.closed = false ∧ queue.items.length < queue.capacity ∧ result = .stored ∧
      next = { queue with items := queue.items ++ [item] }) ∨
    (queue.closed = false ∧ queue.capacity ≤ queue.items.length ∧ result = .displaced ∧
      ∃ oldest rest, queue.items = oldest :: rest ∧
        next = { queue with items := rest ++ [item], dropped := queue.dropped + 1 }) := by
  unfold push at locked
  split at locked
  next isClosed =>
    obtain ⟨rfl, rfl⟩ := Prod.mk.inj (Option.some.inj locked)
    exact .inl ⟨isClosed, rfl, rfl⟩
  next isOpen =>
    have opened : queue.closed = false := by simpa using isOpen
    split at locked
    next full =>
      obtain ⟨rest, popped, made⟩ := Option.map_eq_some_iff.mp locked
      obtain ⟨rfl, rfl⟩ := Prod.mk.inj made
      cases itemsEq : queue.items with
      | nil => simp [itemsEq, popFront] at popped
      | cons oldest others =>
          obtain rfl : others = rest := by simpa [itemsEq, popFront] using popped
          exact .inr (.inr ⟨opened, by simpa [itemsEq] using full, rfl, oldest, others, rfl, rfl⟩)
    next room =>
      obtain ⟨rfl, rfl⟩ := Prod.mk.inj (Option.some.inj locked)
      exact .inr (.inl ⟨opened, Nat.lt_of_not_le room, rfl, rfl⟩)

/-- With a positive capacity `push` never reaches `pop_front` on an empty
deque. -/
theorem push_defined (queue : BlockingQueue T) (item : T) (positive : 1 ≤ queue.capacity) :
    ∃ result next, queue.push item = some (result, next) := by
  unfold push
  split
  · exact ⟨_, _, rfl⟩
  · split
    next full =>
      cases itemsEq : queue.items with
      | nil =>
          rw [itemsEq] at full
          exact absurd full (Nat.not_le.mpr positive)
      | cons oldest rest => exact ⟨_, _, rfl⟩
    next room => exact ⟨_, _, rfl⟩

/-- Everything a `pop` section can do. -/
theorem pop_cases {queue next : BlockingQueue T} {result : PopResult T}
    (locked : queue.pop = (result, next)) :
    (∃ item rest, queue.items = item :: rest ∧ result = .took item ∧
      next = { queue with items := rest }) ∨
    (queue.items = [] ∧ queue.closed = true ∧ result = .drained ∧ next = queue) ∨
    (queue.items = [] ∧ queue.closed = false ∧ result = .waits ∧ next = queue) := by
  unfold pop at locked
  cases itemsEq : queue.items with
  | cons item rest =>
      rw [itemsEq] at locked
      obtain ⟨rfl, rfl⟩ := Prod.mk.inj locked
      exact .inl ⟨item, rest, rfl, rfl, rfl⟩
  | nil =>
      rw [itemsEq] at locked
      cases closedEq : queue.closed with
      | true =>
          simp only [closedEq, ↓reduceIte] at locked
          obtain ⟨rfl, rfl⟩ := Prod.mk.inj locked
          exact .inr (.inl ⟨rfl, rfl, rfl, rfl⟩)
      | false =>
          simp only [closedEq, Bool.false_eq_true, ↓reduceIte] at locked
          obtain ⟨rfl, rfl⟩ := Prod.mk.inj locked
          exact .inr (.inr ⟨rfl, rfl, rfl, rfl⟩)

/-! ### The item type plays no part -/

/-- `push` commutes with a change of items. -/
theorem push_map (f : T → U) (queue : BlockingQueue T) (item : T) :
    (queue.map f).push (f item) =
      (queue.push item).map fun outcome => (outcome.1, outcome.2.map f) := by
  obtain ⟨items, capacity, dropped, closed⟩ := queue
  cases closed with
  | true => simp [push, map]
  | false =>
      by_cases full : capacity ≤ items.length
      · cases items with
        | nil =>
            have empty : capacity = 0 := by simpa using full
            simp [push, map, popFront, empty]
        | cons oldest rest =>
            have fullMapped : capacity ≤ rest.length + 1 := by simpa using full
            simp [push, map, popFront, fullMapped]
      · simp [push, map, full]

/-- `pop` commutes with a change of items. -/
theorem pop_map (f : T → U) (queue : BlockingQueue T) :
    (queue.map f).pop = (queue.pop.1.map f, queue.pop.2.map f) := by
  unfold pop map
  cases itemsEq : queue.items with
  | cons item rest => simp [PopResult.map]
  | nil => cases closedEq : queue.closed <;> simp [PopResult.map, itemsEq, closedEq]

end BlockingQueue

/-! ## Interleavings of critical sections -/

/-- One critical section of one thread, with what it returned. -/
inductive Section (Thread : Type u) (T : Type v) where
  | push (thread : Thread) (item : T) (result : PushResult)
  | pop (thread : Thread) (result : PopResult T)
  | close (thread : Thread)

variable {Thread : Type v}

/-- The effect of one critical section on the queue. -/
inductive SectionStep : BlockingQueue T → Section Thread T → BlockingQueue T → Prop where
  | push {queue next : BlockingQueue T} (thread : Thread) {item : T} {result : PushResult}
      (locked : queue.push item = some (result, next)) :
      SectionStep queue (.push thread item result) next
  | pop {queue next : BlockingQueue T} (thread : Thread) {result : PopResult T}
      (locked : queue.pop = (result, next)) :
      SectionStep queue (.pop thread result) next
  | close (queue : BlockingQueue T) (thread : Thread) :
      SectionStep queue (.close thread) queue.close

/-- Any interleaving of critical sections issued by any threads on one queue of
the given capacity. -/
def sections (Thread : Type v) (T : Type u) (capacity : Nat) :
    TransitionSystem (BlockingQueue T) (Section Thread T) where
  Initial := fun queue => queue = .make capacity
  Step := SectionStep

/-! ## What is pushed before the close -/

namespace Section

/-- The item a `push` brings to the queue. -/
def offered : Section Thread T → Option T
  | .push _ item _ => some item
  | .pop _ _ => none
  | .close _ => none

/-- The item with which the section says that it entered the queue. -/
def accepted : Section Thread T → Option T
  | .push _ item result => if result.accepted then some item else none
  | .pop _ _ => none
  | .close _ => none

def closes : Section Thread T → Bool
  | .push _ _ _ => false
  | .pop _ _ => false
  | .close _ => true

end Section

/-- The items a history pushes before its first `close`, in order. -/
def pushedBeforeClose (labels : List (Section Thread T)) : List T :=
  admitted Section.offered Section.closes labels

/-- An open queue accepts whatever is pushed, a closed one nothing. -/
theorem BlockingQueue.push_gated {Label : Type w} {Arrival : Type x}
    {offer : Label → Option Arrival} {shuts : Label → Bool} {past : List Label} {label : Label}
    {entered : List Arrival} {queue next : BlockingQueue T} {item : T} {result : PushResult} {arrival : Arrival}
    (gated : Gated offer shuts past entered queue.closed)
    (locked : queue.push item = some (result, next)) (offered : offer label = some arrival)
    (leaves : shuts label = false) :
    Gated offer shuts (past ++ [label]) (entered ++ if result.accepted then [arrival] else [])
      next.closed := by
  rcases push_cases locked with
    ⟨isClosed, rfl, rfl⟩ | ⟨isOpen, -, rfl, rfl⟩ | ⟨isOpen, -, rfl, oldest, rest, -, rfl⟩
  · rw [isClosed] at gated ⊢
    simpa [PushResult.accepted] using gated.refuse
  · simp only [isOpen] at gated ⊢
    exact gated.enter offered leaves
  · simp only [isOpen] at gated ⊢
    exact gated.enter offered leaves

/-- A `pop` does not close the queue. -/
theorem BlockingQueue.pop_closed {queue next : BlockingQueue T} {result : PopResult T}
    (locked : queue.pop = (result, next)) : next.closed = queue.closed := by
  rcases pop_cases locked with ⟨item, rest, -, -, rfl⟩ | ⟨-, -, -, rfl⟩ | ⟨-, -, -, rfl⟩
  · rfl
  · rfl
  · rfl

/-- A section lets in the item it says it accepted, and only `close` closes. -/
theorem SectionStep.gated {queue next : BlockingQueue T} {label : Section Thread T}
    {past : List (Section Thread T)} {entered : List T} (step : SectionStep queue label next)
    (gated : Gated Section.offered Section.closes past entered queue.closed) :
    Gated Section.offered Section.closes (past ++ [label]) (entered ++ label.accepted.toList)
      next.closed := by
  cases step with
  | @push _ thread item result locked =>
      have pushed : Gated Section.offered Section.closes (past ++ [.push thread item result])
          (entered ++ if result.accepted then [item] else []) next.closed :=
        BlockingQueue.push_gated gated locked rfl rfl
      cases result <;> exact pushed
  | pop thread locked =>
      rw [BlockingQueue.pop_closed locked, Section.accepted, Option.toList_none, List.append_nil]
      exact gated.idle rfl rfl
  | close thread =>
      rw [Section.accepted, Option.toList_none, List.append_nil]
      exact gated.close rfl

end QuantGateway.Queue
