import QuantGateway.Queue.Ledger
import Mathlib.Algebra.Group.Nat.Defs
import Mathlib.Data.List.Range

/-!
Owns what `queue::BlockingQueue<T>` does with every accepted item: the queue is
a window of the most recent ones, an item behind the window was either delivered
once or displaced once, deliveries are in order, and `m_dropped` counts the
displaced items modulo the width of its `std::uint64_t`.

`Balanced` is the invariant one critical section preserves; everything else is
read off it.
-/

namespace QuantGateway.Queue.Ledger

open QuantGateway.Foundation

universe u v

variable {T : Type u} {Thread : Type v} {capacity : Nat} {ledger after : Ledger T}

/-! ## The invariant -/

/-- The accepted items are those behind the window, then the window; behind the
window every item has exactly one fate, and fates are entered in order. -/
structure Balanced (capacity : Nat) (ledger : Ledger T) : Prop where
  capacityKept : ledger.queue.capacity = capacity
  bounded : ledger.queue.items.length ≤ capacity
  numbering : ledger.accepted.map Numbered.number = List.range ledger.accepted.length
  counter : ledger.queue.dropped = UInt64.ofNat ledger.displaced.length
  window : ∃ behind, ledger.accepted = behind ++ ledger.queue.items ∧
    (ledger.delivered ++ ledger.displaced).Perm behind ∧
    ledger.delivered.Sublist behind ∧ ledger.displaced.Sublist behind

theorem Balanced.make (capacity : Nat) : Balanced capacity (Ledger.make capacity : Ledger T) where
  capacityKept := rfl
  bounded := Nat.zero_le _
  numbering := rfl
  counter := rfl
  window := ⟨[], rfl, .refl _, .refl _, .refl _⟩

private theorem numbering_snoc (item : T)
    (numbering : ledger.accepted.map Numbered.number = List.range ledger.accepted.length) :
    (ledger.accepted ++ [ledger.next item]).map Numbered.number =
      List.range (ledger.accepted ++ [ledger.next item]).length := by
  rw [List.map_append, numbering, List.length_append, List.length_singleton, List.range_succ]
  rfl

/-- One `push` section keeps the books balanced. -/
theorem Balanced.push {item : T} {result : PushResult} {queue : BlockingQueue (Numbered T)}
    (balanced : Balanced capacity ledger)
    (locked : ledger.queue.push (ledger.next item) = some (result, queue)) :
    Balanced capacity (ledger.afterPush item queue result) := by
  obtain ⟨capacityKept, bounded, numbering, counter, behind, split, fates, delivered,
    displaced⟩ := balanced
  rcases BlockingQueue.push_cases locked with
    ⟨-, rfl, rfl⟩ | ⟨-, room, rfl, rfl⟩ | ⟨-, full, rfl, oldest, rest, itemsEq, rfl⟩
  · exact ⟨capacityKept, bounded, numbering, counter, behind, split, fates, delivered, displaced⟩
  · refine ⟨capacityKept, ?_, numbering_snoc item numbering, counter, behind, ?_, fates,
      delivered, displaced⟩
    · simp only [afterPush, List.length_append, List.length_singleton]
      omega
    · simp only [afterPush, split, List.append_assoc]
  · -- The window loses its oldest item, which goes behind it as displaced.
    refine ⟨capacityKept, ?_, numbering_snoc item numbering, ?_, behind ++ [oldest], ?_, ?_, ?_, ?_⟩
    · simp only [itemsEq, List.length_cons, afterPush, List.length_append,
        List.length_nil] at bounded ⊢
      omega
    · simp [afterPush, counter, itemsEq, UInt64.ofNat_add]
    · simp [afterPush, split, itemsEq]
    · simpa [afterPush, itemsEq] using fates.append_right [oldest]
    · exact delivered.trans (List.sublist_append_left _ _)
    · simpa [afterPush, itemsEq] using displaced.append (List.Sublist.refl [oldest])

/-- One `pop` section keeps the books balanced. -/
theorem Balanced.pop {result : PopResult (Numbered T)} {queue : BlockingQueue (Numbered T)}
    (balanced : Balanced capacity ledger) (locked : ledger.queue.pop = (result, queue)) :
    Balanced capacity (ledger.afterPop queue result) := by
  obtain ⟨capacityKept, bounded, numbering, counter, behind, split, fates, delivered,
    displaced⟩ := balanced
  rcases BlockingQueue.pop_cases locked with
    ⟨oldest, rest, itemsEq, rfl, rfl⟩ | ⟨-, -, rfl, rfl⟩ | ⟨-, -, rfl, rfl⟩
  · -- The oldest item of the window goes behind it as delivered.
    refine ⟨capacityKept, ?_, numbering, counter, behind ++ [oldest], ?_, ?_, ?_, ?_⟩
    · simp only [itemsEq, List.length_cons, afterPop] at bounded ⊢
      omega
    · simp [afterPop, split, itemsEq]
    · have moved : (ledger.delivered ++ [oldest] ++ ledger.displaced).Perm
          (ledger.delivered ++ ledger.displaced ++ [oldest]) := by
        have swapped : ([oldest] ++ ledger.displaced).Perm (ledger.displaced ++ [oldest]) :=
          List.perm_append_comm
        simpa using swapped.append_left ledger.delivered
      exact moved.trans (fates.append_right [oldest])
    · exact delivered.append (List.Sublist.refl [oldest])
    · exact displaced.trans (List.sublist_append_left _ _)
  · exact ⟨capacityKept, bounded, numbering, counter, behind, split, fates, delivered, displaced⟩
  · exact ⟨capacityKept, bounded, numbering, counter, behind, split, fates, delivered, displaced⟩

theorem Balanced.close (balanced : Balanced capacity ledger) :
    Balanced capacity { ledger with queue := ledger.queue.close } :=
  ⟨balanced.capacityKept, balanced.bounded, balanced.numbering, balanced.counter,
    balanced.window⟩

theorem Balanced.step {label : Section Thread T} (step : Step ledger label after)
    (balanced : Balanced capacity ledger) : Balanced capacity after := by
  cases step with
  | push thread locked => exact balanced.push locked
  | pop thread locked => exact balanced.pop locked
  | close thread => exact balanced.close

/-- Every interleaving keeps the books balanced. -/
theorem balanced_of_reachable (reachable : (system Thread T capacity).Reachable ledger) :
    Balanced capacity ledger :=
  reachable.invariant (by rintro _ rfl; exact .make capacity) Balanced.step

/-! ## Reading the books by number -/

/-- How often the item with a number was handed to a `pop`. -/
def deliveries (ledger : Ledger T) (number : Nat) : Nat :=
  (ledger.delivered.map Numbered.number).count number

/-- How often the item with a number was displaced by a `push`. -/
def displacements (ledger : Ledger T) (number : Nat) : Nat :=
  (ledger.displaced.map Numbered.number).count number

/-- The item with a number is still in the queue. -/
def Queued (ledger : Ledger T) (number : Nat) : Prop :=
  number ∈ ledger.queue.items.map Numbered.number

/-- The number of the first item of the window. -/
def windowStart (ledger : Ledger T) : Nat :=
  ledger.accepted.length - ledger.queue.items.length

theorem windowStart_eq {behind : List (Numbered T)}
    (split : ledger.accepted = behind ++ ledger.queue.items) :
    ledger.windowStart = behind.length := by
  simp [windowStart, split]

namespace Balanced

/-- The window holds the most recently accepted items. -/
theorem items_eq_drop (balanced : Balanced capacity ledger) :
    ledger.queue.items = ledger.accepted.drop ledger.windowStart := by
  obtain ⟨behind, split, -⟩ := balanced.window
  rw [windowStart_eq split, split, List.drop_left]

private theorem behind_numbers (balanced : Balanced capacity ledger)
    {behind : List (Numbered T)} (split : ledger.accepted = behind ++ ledger.queue.items) :
    behind.map Numbered.number = List.range ledger.windowStart := by
  have taken : behind = ledger.accepted.take ledger.windowStart := by
    rw [windowStart_eq split, split, List.take_left]
  rw [taken, List.map_take, balanced.numbering, List.take_range,
    Nat.min_eq_left (show ledger.windowStart ≤ _ from Nat.sub_le _ _)]

/-- The numbers of the window run from its start to the last accepted item. -/
theorem queued_iff (balanced : Balanced capacity ledger) (number : Nat) :
    ledger.Queued number ↔ ledger.windowStart ≤ number ∧ number < ledger.accepted.length := by
  obtain ⟨behind, split, -⟩ := balanced.window
  have numbers : List.range ledger.windowStart ++ ledger.queue.items.map Numbered.number =
      List.range ledger.accepted.length := by
    rw [← balanced.behind_numbers split, ← List.map_append, ← split, balanced.numbering]
  have distinct : (List.range ledger.windowStart ++
      ledger.queue.items.map Numbered.number).Nodup := numbers ▸ List.nodup_range
  have member : number < ledger.accepted.length ↔
      number < ledger.windowStart ∨ ledger.Queued number := by
    rw [← List.mem_range, ← numbers, List.mem_append, List.mem_range]
    rfl
  constructor
  · intro queued
    refine ⟨Nat.le_of_not_lt fun below => ?_, member.mpr (.inr queued)⟩
    exact List.disjoint_of_nodup_append distinct (List.mem_range.mpr below) queued
  · rintro ⟨inWindow, below⟩
    exact (member.mp below).resolve_left (Nat.not_lt.mpr inWindow)

/-- The window starts with the item `pop` delivers and `push` displaces. -/
theorem oldest_number (balanced : Balanced capacity ledger) {oldest : Numbered T}
    {rest : List (Numbered T)} (itemsEq : ledger.queue.items = oldest :: rest) :
    oldest.number = ledger.windowStart := by
  have first : (ledger.accepted.map Numbered.number)[ledger.windowStart]? =
      some oldest.number := by
    rw [← List.head?_drop, ← List.map_drop, ← balanced.items_eq_drop, itemsEq]
    rfl
  rw [balanced.numbering] at first
  obtain ⟨below, equal⟩ := List.getElem?_eq_some_iff.mp first
  simpa using equal.symm

/-- Behind the window every number has exactly one fate, in the window none. -/
theorem one_fate (balanced : Balanced capacity ledger) (number : Nat) :
    ledger.deliveries number + ledger.displacements number =
      if number < ledger.windowStart then 1 else 0 := by
  obtain ⟨behind, split, fates, -⟩ := balanced.window
  have counted := (fates.map Numbered.number).count_eq number
  rw [List.map_append, List.count_append, balanced.behind_numbers split] at counted
  rw [deliveries, displacements, counted]
  split
  next below => exact List.count_eq_one_of_mem List.nodup_range (List.mem_range.mpr below)
  next above => exact List.count_eq_zero_of_not_mem (by simpa using above)

theorem accepted_increasing (balanced : Balanced capacity ledger) :
    (ledger.accepted.map Numbered.number).Pairwise (· < ·) := by
  rw [balanced.numbering]
  exact List.pairwise_lt_range

theorem delivered_sublist (balanced : Balanced capacity ledger) :
    ledger.delivered.Sublist ledger.accepted := by
  obtain ⟨behind, split, -, delivered, -⟩ := balanced.window
  exact split ▸ delivered.trans (List.sublist_append_left _ _)

theorem displaced_sublist (balanced : Balanced capacity ledger) :
    ledger.displaced.Sublist ledger.accepted := by
  obtain ⟨behind, split, -, -, displaced⟩ := balanced.window
  exact split ▸ displaced.trans (List.sublist_append_left _ _)

/-- Deliveries are in the order of the accepted pushes. -/
theorem delivered_increasing (balanced : Balanced capacity ledger) :
    (ledger.delivered.map Numbered.number).Pairwise (· < ·) :=
  balanced.accepted_increasing.sublist (balanced.delivered_sublist.map _)

/-- Every item behind the window was delivered or displaced. -/
theorem fates_length (balanced : Balanced capacity ledger) :
    ledger.delivered.length + ledger.displaced.length + ledger.queue.items.length =
      ledger.accepted.length := by
  obtain ⟨behind, split, fates, -⟩ := balanced.window
  rw [split, List.length_append, ← fates.length_eq, List.length_append]

end Balanced

/-! ## What one section displaces -/

/-- The section makes the item with the number one of the displaced ones. -/
def Displaces (ledger after : Ledger T) (number : Nat) : Prop :=
  ledger.displacements number = 0 ∧ 0 < after.displacements number

theorem Balanced.queued_le_accepted (balanced : Balanced capacity ledger) :
    ledger.queue.items.length ≤ ledger.accepted.length := by
  have length := balanced.fates_length
  omega

/-- A push into a full queue displaces the oldest item, which is `capacity` numbers
behind the one accepted. -/
theorem Balanced.displaces_full (balanced : Balanced capacity ledger) {item : T}
    {queue : BlockingQueue (Numbered T)} {oldest : Numbered T} {rest : List (Numbered T)}
    (full : ledger.queue.capacity ≤ ledger.queue.items.length)
    (itemsEq : ledger.queue.items = oldest :: rest) (number : Nat) :
    Displaces ledger (ledger.afterPush item queue .displaced) number ↔
      ledger.accepted.length = number + capacity ∧ ledger.Queued number := by
  have size : ledger.queue.items.length = capacity :=
    Nat.le_antisymm balanced.bounded (balanced.capacityKept ▸ full)
  have oldestQueued : ledger.Queued oldest.number := by simp [Queued, itemsEq]
  have oldestNumber := balanced.oldest_number itemsEq
  have displacedNow : (ledger.displaced ++ ledger.queue.items.take 1).map Numbered.number =
      ledger.displaced.map Numbered.number ++ [oldest.number] := by
    simp [itemsEq]
  have startEq : ledger.windowStart + capacity = ledger.accepted.length := by
    have windowLe := balanced.queued_le_accepted
    simp only [windowStart]
    omega
  have untouched := balanced.one_fate oldest.number
  rw [if_neg (by omega)] at untouched
  simp only [Displaces, displacements, afterPush, displacedNow, List.count_append]
  constructor
  · rintro ⟨none, some⟩
    have here : number = oldest.number := by
      by_contra other
      rw [none, List.count_singleton, if_neg (by simpa using Ne.symm other)] at some
      exact absurd some (Nat.lt_irrefl 0)
    exact ⟨by omega, here ▸ oldestQueued⟩
  · rintro ⟨apart, -⟩
    have here : number = oldest.number := by omega
    subst here
    simp only [displacements] at untouched
    exact ⟨by omega, by simp⟩

/-- An item is displaced exactly when the item `capacity` later is accepted
while it is still queued. -/
theorem Balanced.displaces_iff {label : Section Thread T} (balanced : Balanced capacity ledger)
    (step : Step ledger label after) (number : Nat) :
    Displaces ledger after number ↔
      after.accepted.length = ledger.accepted.length + 1 ∧
        ledger.accepted.length = number + capacity ∧ ledger.Queued number := by
  have unchanged : after.displaced = ledger.displaced → ¬ Displaces ledger after number := by
    rintro same ⟨none, some⟩
    simp only [displacements, same] at none some
    omega
  cases step with
  | @push thread item result queue locked =>
      rcases BlockingQueue.push_cases locked with
        ⟨-, rfl, rfl⟩ | ⟨-, room, rfl, rfl⟩ | ⟨-, full, rfl, oldest, rest, itemsEq, rfl⟩
      · refine iff_of_false (unchanged rfl) fun accepted => ?_
        simp [afterPush] at accepted
      · -- With room to spare the item `capacity` earlier has left the queue.
        refine iff_of_false (unchanged rfl) fun found => ?_
        obtain ⟨-, apart, queued⟩ := found
        have inWindow := ((balanced.queued_iff number).mp queued).1
        have windowLe := balanced.queued_le_accepted
        rw [balanced.capacityKept] at room
        simp only [windowStart] at inWindow
        omega
      · rw [balanced.displaces_full full itemsEq]
        simp [afterPush]
  | @pop thread result queue locked =>
      have same : (ledger.afterPop queue result).displaced = ledger.displaced ∧
          (ledger.afterPop queue result).accepted = ledger.accepted := by
        cases result <;> exact ⟨rfl, rfl⟩
      refine iff_of_false (unchanged same.1) fun accepted => ?_
      rw [same.2] at accepted
      omega
  | close thread =>
      refine iff_of_false (unchanged rfl) fun accepted => ?_
      simp at accepted

/-- `push` returns true exactly when the item was accepted and displaced none. -/
theorem push_value_iff {thread : Thread} {item : T} {result : PushResult}
    (step : Step ledger (.push thread item result) after) :
    result.value = true ↔
      after.accepted = ledger.accepted ++ [ledger.next item] ∧
        after.displaced = ledger.displaced := by
  cases step with
  | push thread locked =>
      rcases BlockingQueue.push_cases locked with
        ⟨-, rfl, rfl⟩ | ⟨-, -, rfl, rfl⟩ | ⟨-, -, rfl, oldest, rest, itemsEq, rfl⟩
      · simp [PushResult.value, afterPush]
      · simp [PushResult.value, afterPush]
      · simp [PushResult.value, afterPush, itemsEq]

/-- With a positive capacity every thread can always push. -/
theorem Balanced.push_enabled (balanced : Balanced capacity ledger) (positive : 1 ≤ capacity)
    (thread : Thread) (item : T) :
    ∃ result after, Step ledger (.push thread item result) after := by
  obtain ⟨result, queue, locked⟩ := ledger.queue.push_defined (ledger.next item)
    (balanced.capacityKept.symm ▸ positive)
  exact ⟨result, _, .push ledger thread locked⟩

/-! ## The whole account -/

/-- What a ledger says of the queue at one moment. -/
structure Accounted (capacity : Nat) (ledger : Ledger T) : Prop where
  numbering : ledger.accepted.map Numbered.number = List.range ledger.accepted.length
  window : ledger.queue.items = ledger.accepted.drop ledger.windowStart
  bounded : ledger.queue.items.length ≤ capacity
  fates : ∀ number, ledger.deliveries number + ledger.displacements number =
    if number < ledger.windowStart then 1 else 0
  delivered : ledger.delivered.Sublist ledger.accepted
  displaced : ledger.displaced.Sublist ledger.accepted
  inOrder : (ledger.delivered.map Numbered.number).Pairwise (· < ·)
  dropped : ledger.queue.dropped.toNat = ledger.displaced.length % 2 ^ 64

theorem Balanced.accounted (balanced : Balanced capacity ledger) : Accounted capacity ledger where
  numbering := balanced.numbering
  window := balanced.items_eq_drop
  bounded := balanced.bounded
  fates := balanced.one_fate
  delivered := balanced.delivered_sublist
  displaced := balanced.displaced_sublist
  inOrder := balanced.delivered_increasing
  dropped := by rw [balanced.counter, UInt64.toNat_ofNat']

/-- A push to a closed queue is refused and changes nothing, any other push enters its
item under the next number. -/
theorem push_accepts {thread : Thread} {item : T} {result : PushResult}
    (step : Step ledger (.push thread item result) after) :
    (result = .refused ↔ ledger.queue.closed = true) ∧
    (ledger.queue.closed = true → after = ledger) ∧
    (ledger.queue.closed = false → after.accepted = ledger.accepted ++ [ledger.next item]) := by
  cases step with
  | push thread locked =>
      rcases BlockingQueue.push_cases locked with
        ⟨isClosed, rfl, rfl⟩ | ⟨isOpen, -, rfl, rfl⟩ | ⟨isOpen, -, rfl, oldest, rest, -, rfl⟩
      · exact ⟨by simp [isClosed], fun _ => rfl, by simp [isClosed]⟩
      · exact ⟨by simp [isOpen], by simp [isOpen], fun _ => rfl⟩
      · exact ⟨by simp [isOpen], by simp [isOpen], fun _ => rfl⟩

/-- After every interleaving the items pushed before the close are accepted, in their
order, and fully accounted for. A push is refused by a closed queue and accepted by an
open one, the next section displaces an item exactly when the item `capacity` later is
accepted over it, and `push` tells the two cases apart. -/
theorem accepted_items_accounted {labels : List (Section Thread T)} (positive : 1 ≤ capacity)
    (run : (system Thread T capacity).Run (.make capacity) labels ledger) :
    ledger.accepted.map Numbered.item = pushedBeforeClose labels ∧
    Accounted capacity ledger ∧
    (∀ (thread : Thread) (item : T) (result : PushResult) (after : Ledger T),
      Step ledger (.push thread item result) after →
        (result = .refused ↔ ledger.queue.closed = true) ∧
        (ledger.queue.closed = true → after = ledger) ∧
        (ledger.queue.closed = false →
          after.accepted = ledger.accepted ++ [ledger.next item])) ∧
    (∀ (label : Section Thread T) (after : Ledger T), Step ledger label after → ∀ number,
      Displaces ledger after number ↔
        after.accepted.length = ledger.accepted.length + 1 ∧
          ledger.accepted.length = number + capacity ∧ ledger.Queued number) ∧
    (∀ (thread : Thread) (item : T) (result : PushResult) (after : Ledger T),
      Step ledger (.push thread item result) after →
        (result.value = true ↔
          after.accepted = ledger.accepted ++ [ledger.next item] ∧
            after.displaced = ledger.displaced)) ∧
    (∀ (thread : Thread) (item : T),
      ∃ result after, Step ledger (.push thread item result) after) := by
  have balanced := balanced_of_reachable ⟨_, labels, rfl, run⟩
  exact ⟨(gated_of_run run).entered, balanced.accounted, fun _ _ _ _ step => push_accepts step,
    fun _ _ step => balanced.displaces_iff step, fun _ _ _ _ step => push_value_iff step,
    balanced.push_enabled positive⟩

/-- A closed queue of one place after two pushes, the second over the first, and a pop. -/
def overflowed : Ledger Nat :=
  ⟨⟨[], 1, 1, true⟩, [⟨0, 7⟩, ⟨1, 8⟩], [⟨1, 8⟩], [⟨0, 7⟩]⟩

theorem accepted_items_accounted_overflow :
    (system Unit Nat 1).Run (.make 1)
        [.push () 7 .stored, .push () 8 .displaced, .pop () (.took 8), .close ()] overflowed ∧
      overflowed.accepted.map Numbered.item = [7, 8] ∧ Accounted 1 overflowed ∧
      ∀ (result : PushResult) (after : Ledger Nat),
        Step overflowed (.push () 9 result) after → after = overflowed := by
  have run : (system Unit Nat 1).Run (.make 1)
      [.push () 7 .stored, .push () 8 .displaced, .pop () (.took 8), .close ()] overflowed :=
    .cons (.push _ _ rfl) (.cons (.push _ _ rfl) (.cons (.pop _ _ rfl) (.cons (.close _ _)
      (.nil _))))
  obtain ⟨accepted, accounted, push, -⟩ := accepted_items_accounted (by decide) run
  exact ⟨run, accepted, accounted,
    fun result after step => (push _ _ result after step).2.1 rfl⟩

/-! ## The width of the drop counter -/

/-- A queue of one place that is pushed to `count + 1` times and never popped. -/
theorem flood (thread : Thread) (item : T) (count : Nat) :
    ∃ ledger, (system Thread T 1).Run (.make 1)
        (.push thread item .stored :: List.replicate count (.push thread item .displaced))
        ledger ∧
      ledger.queue = ⟨[⟨count, item⟩], 1, UInt64.ofNat count, false⟩ ∧
      ledger.accepted.length = count + 1 ∧ ledger.displaced.length = count ∧
      ledger.delivered = [] := by
  induction count with
  | zero => exact ⟨_, .single (.push _ thread rfl), rfl, rfl, rfl, rfl⟩
  | succ count inductionHypothesis =>
      obtain ⟨ledger, run, queueEq, accepted, displaced, delivered⟩ := inductionHypothesis
      have locked : ledger.queue.push (ledger.next item) =
          some (.displaced, ⟨[⟨count + 1, item⟩], 1, UInt64.ofNat (count + 1), false⟩) := by
        simp [queueEq, BlockingQueue.push, popFront, next, accepted, UInt64.ofNat_add]
      refine ⟨ledger.afterPush item ⟨[⟨count + 1, item⟩], 1, UInt64.ofNat (count + 1), false⟩
        .displaced, ?_, rfl, ?_, ?_, delivered⟩
      · rw [List.replicate_succ', ← List.cons_append]
        exact run.snoc (.push ledger thread locked)
      · simp [afterPush, accepted]
      · simp [afterPush, displaced, queueEq]

/-- After `2 ^ 64` displacements `m_dropped` has wrapped to zero. -/
theorem dropped_wraps :
    ∃ ledger, (system Unit Unit 1).Run (.make 1)
        (.push () () .stored :: List.replicate (2 ^ 64) (.push () () .displaced)) ledger ∧
      ledger.displaced.length = 2 ^ 64 ∧ ledger.queue.dropped.toNat = 0 := by
  obtain ⟨ledger, run, queueEq, -, displaced, -⟩ := flood () () (2 ^ 64)
  refine ⟨ledger, run, displaced, ?_⟩
  rw [queueEq, UInt64.toNat_ofNat', Nat.mod_self]

end QuantGateway.Queue.Ledger
