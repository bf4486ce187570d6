import QuantGateway.Queue.BlockingQueue
import Mathlib.Order.Bounds.Basic
import Mathlib.Tactic.Common

/-!
Owns how many items `queue::BlockingQueue<T>` gives up: as many as the backlog ever
exceeded its capacity by. The backlog of a history is what a queue without a bound
would hold after the same pushes, closes and deliveries.

Does not own which items are given up (`Queue.Accounting`).
-/

namespace QuantGateway.Queue

open QuantGateway.Foundation

universe u v

variable {T : Type u} {Thread : Type v}

namespace Section

/-- A pop that took an item. -/
def takes : Section Thread T → Bool
  | .push _ _ _ => false
  | .pop _ result => result.value = some true
  | .close _ => false

/-- A push that displaced the oldest item. -/
def displaces : Section Thread T → Bool
  | .push _ _ result => result = .displaced
  | .pop _ _ => false
  | .close _ => false

end Section

/-- What the history leaves in a queue without a bound: every item pushed before the
close, less one for each `pop` that took an item. -/
def backlog (labels : List (Section Thread T)) : Nat :=
  (pushedBeforeClose labels).length - labels.countP Section.takes

/-- How many items the history displaced. -/
def drops (labels : List (Section Thread T)) : Nat :=
  labels.countP Section.displaces

/-- The largest excess of the backlog over the capacity at any time. -/
def ForcedDrops (capacity : Nat) (labels : List (Section Thread T)) (count : Nat) : Prop :=
  IsGreatest { excess | ∃ before, before <+: labels ∧ excess = backlog before - capacity } count

/-! ## The invariant -/

/-- The queue holds the backlog but for the drops, and has never dropped more than its
capacity forced it to. -/
structure Counted (capacity : Nat) (past : List (Section Thread T)) (queue : BlockingQueue T) :
    Prop where
  capacityKept : queue.capacity = capacity
  bounded : queue.items.length ≤ capacity
  gated : Gated Section.offered Section.closes past (pushedBeforeClose past) queue.closed
  held : queue.items.length + drops past + past.countP Section.takes =
    (pushedBeforeClose past).length
  counter : queue.dropped = UInt64.ofNat (drops past)
  forced : ForcedDrops capacity past (drops past)

theorem Counted.make (capacity : Nat) :
    Counted capacity ([] : List (Section Thread T)) (.make capacity) where
  capacityKept := rfl
  bounded := Nat.zero_le _
  gated := .make
  held := rfl
  counter := rfl
  forced := by
    constructor
    · exact ⟨[], List.nil_prefix, (Nat.zero_sub capacity).symm⟩
    · rintro excess ⟨before, isPrefix, rfl⟩
      rw [List.prefix_nil.mp isPrefix]
      exact le_of_eq (Nat.zero_sub capacity)

section Step

variable {capacity : Nat} {past : List (Section Thread T)} {label : Section Thread T} {count : Nat}

/-- One more section, whose own excess is known, forces the larger of two counts. -/
theorem ForcedDrops.snoc (forced : ForcedDrops capacity past count) {more : Nat}
    (excess : backlog (past ++ [label]) - capacity ≤ more) (least : count ≤ more)
    (reached : more = count ∨ more = backlog (past ++ [label]) - capacity) :
    ForcedDrops capacity (past ++ [label]) more := by
  constructor
  · rcases reached with rfl | rfl
    · obtain ⟨before, isPrefix, isExcess⟩ := forced.1
      exact ⟨before, isPrefix.trans (List.prefix_append _ _), isExcess⟩
    · exact ⟨past ++ [label], List.prefix_refl _, rfl⟩
  · rintro other ⟨before, isPrefix, rfl⟩
    rcases List.prefix_concat_iff.mp isPrefix with rfl | earlier
    · exact excess
    · exact (forced.2 ⟨before, earlier, rfl⟩).trans least

/-- A section that brings nothing in forces nothing more. -/
theorem ForcedDrops.idle (forced : ForcedDrops capacity past count)
    (same : (pushedBeforeClose (past ++ [label])).length = (pushedBeforeClose past).length) :
    ForcedDrops capacity (past ++ [label]) count := by
  have smaller : backlog (past ++ [label]) ≤ backlog past := by
    unfold backlog
    rw [same, List.countP_append]
    omega
  have bounded : backlog past - capacity ≤ count := forced.2 ⟨past, List.prefix_refl _, rfl⟩
  exact forced.snoc (by omega) (le_refl _) (.inl rfl)

variable {queue next : BlockingQueue T}

/-- What was pushed before the close grows by what the section says it accepted. -/
theorem Counted.grown (counted : Counted capacity past queue)
    (step : SectionStep queue label next) :
    Gated Section.offered Section.closes (past ++ [label]) (pushedBeforeClose (past ++ [label]))
      next.closed ∧
    (pushedBeforeClose (past ++ [label])).length =
      (pushedBeforeClose past).length + label.accepted.toList.length := by
  have gated := step.gated counted.gated
  have grown : pushedBeforeClose past ++ label.accepted.toList =
      pushedBeforeClose (past ++ [label]) := gated.entered
  rw [grown] at gated
  exact ⟨gated, by rw [← grown, List.length_append]⟩

/-- A section that takes nothing in leaves what is forced. -/
theorem Counted.idle (counted : Counted capacity past queue)
    (step : SectionStep queue label next)
    (capacityKept : next.capacity = queue.capacity) (dropped : next.dropped = queue.dropped)
    (accepted : label.accepted = none) (displaces : label.displaces = false)
    (items : next.items.length + [label].countP Section.takes = queue.items.length) :
    Counted capacity (past ++ [label]) next := by
  obtain ⟨gated, pushed⟩ := counted.grown step
  rw [accepted, Option.toList_none, List.length_nil, Nat.add_zero] at pushed
  have sameDrops : drops (past ++ [label]) = drops past := by
    unfold drops
    rw [List.countP_append, List.countP_singleton, displaces]
    rfl
  have held := counted.held
  have bounded := counted.bounded
  constructor
  · exact capacityKept.trans counted.capacityKept
  · omega
  · exact gated
  · rw [sameDrops, pushed, List.countP_append]
    omega
  · rw [dropped, sameDrops]
    exact counted.counter
  · rw [sameDrops]
    exact counted.forced.idle pushed

/-- An accepted push takes in one item and gives up at most one. -/
theorem Counted.push {item : T} (counted : Counted capacity past queue)
    (step : SectionStep queue label next)
    (capacityKept : next.capacity = queue.capacity) (accepted : label.accepted = some item)
    (takes : label.takes = false)
    (dropped : next.dropped = queue.dropped + UInt64.ofNat ([label].countP Section.displaces))
    (items : next.items.length + [label].countP Section.displaces = queue.items.length + 1)
    (room : next.items.length ≤ capacity)
    (full : label.displaces = true → next.items.length = capacity) :
    Counted capacity (past ++ [label]) next := by
  obtain ⟨gated, pushed⟩ := counted.grown step
  rw [accepted, Option.toList_some, List.length_singleton] at pushed
  have moreDrops : drops (past ++ [label]) = drops past + [label].countP Section.displaces :=
    List.countP_append
  have taken : (past ++ [label]).countP Section.takes = past.countP Section.takes := by
    rw [List.countP_append, List.countP_singleton, takes]
    rfl
  have held := counted.held
  have isBacklog : backlog (past ++ [label]) = next.items.length + drops (past ++ [label]) := by
    unfold backlog
    rw [pushed, taken, moreDrops]
    omega
  constructor
  · exact capacityKept.trans counted.capacityKept
  · exact room
  · exact gated
  · rw [pushed, taken, moreDrops]
    omega
  · rw [dropped, counted.counter, moreDrops, UInt64.ofNat_add]
  · refine counted.forced.snoc ?_ ?_ ?_
    · omega
    · omega
    · cases displaces : label.displaces with
      | false =>
          rw [moreDrops, List.countP_singleton, displaces]
          exact .inl rfl
      | true =>
          have isFull := full displaces
          exact .inr (by omega)

theorem Counted.step (step : SectionStep queue label next)
    (counted : Counted capacity past queue) : Counted capacity (past ++ [label]) next := by
  have bounded := counted.bounded
  have capacityKept := counted.capacityKept
  have taking := step
  cases step with
  | push thread locked =>
      rcases BlockingQueue.push_cases locked with
        ⟨-, rfl, rfl⟩ | ⟨-, room, rfl, rfl⟩ | ⟨-, full, rfl, oldest, rest, itemsEq, rfl⟩
      · exact counted.idle taking rfl rfl rfl rfl rfl
      · refine counted.push taking rfl rfl rfl ?_ ?_ ?_ ?_
        · simp [Section.displaces]
        · simp [Section.displaces]
        · simp only [List.length_append, List.length_singleton]
          omega
        · simp [Section.displaces]
      · rw [itemsEq] at bounded full
        simp only [List.length_cons] at bounded full
        refine counted.push taking rfl rfl rfl ?_ ?_ ?_ ?_
        · simp [Section.displaces]
        · simp [Section.displaces, itemsEq]
        · simp only [List.length_append, List.length_singleton]
          omega
        · simp only [List.length_append, List.length_singleton]
          omega
  | pop thread locked =>
      rcases BlockingQueue.pop_cases locked with
        ⟨item, rest, itemsEq, rfl, rfl⟩ | ⟨-, -, rfl, rfl⟩ | ⟨-, -, rfl, rfl⟩
      · refine counted.idle taking rfl rfl rfl rfl ?_
        simp [Section.takes, PopResult.value, itemsEq]
      · exact counted.idle taking rfl rfl rfl rfl rfl
      · exact counted.idle taking rfl rfl rfl rfl rfl
  | close thread => exact counted.idle taking rfl rfl rfl rfl rfl

end Step

/-- In every interleaving the queue gives up as many items as the largest excess of
the backlog over its capacity at any time, so nothing at all as long as the backlog
fits. It holds the rest of the backlog, and a `pop` takes an item as long as there is
one. `m_dropped` is the number of items given up modulo its width. -/
theorem drops_are_forced {capacity : Nat} {labels : List (Section Thread T)}
    {queue : BlockingQueue T}
    (run : (sections Thread T capacity).Run (.make capacity) labels queue) :
    ForcedDrops capacity labels (drops labels) ∧
      (drops labels = 0 ↔ ∀ before, before <+: labels → backlog before ≤ capacity) ∧
      queue.items.length + drops labels = backlog labels ∧
      (∀ (thread : Thread) (result : PopResult T) (next : BlockingQueue T),
        SectionStep queue (.pop thread result) next →
          (result.value = some true ↔ drops labels < backlog labels)) ∧
      queue.dropped = UInt64.ofNat (drops labels) := by
  have counted : Counted capacity labels queue := run.history Counted.step (Counted.make capacity)
  have held : queue.items.length + drops labels = backlog labels := by
    have held := counted.held
    unfold backlog
    omega
  refine ⟨counted.forced, ?_, held, ?_, counted.counter⟩
  · constructor
    · intro none before isPrefix
      have bounded : backlog before - capacity ≤ drops labels :=
        counted.forced.2 ⟨before, isPrefix, rfl⟩
      omega
    · intro fits
      obtain ⟨before, isPrefix, isExcess⟩ := counted.forced.1
      have within := fits before isPrefix
      omega
  · intro thread result next step
    cases step with
    | pop _ locked =>
        rcases BlockingQueue.pop_cases locked with
          ⟨item, rest, itemsEq, rfl, -⟩ | ⟨empty, -, rfl, -⟩ | ⟨empty, -, rfl, -⟩
        · rw [itemsEq, List.length_cons] at held
          exact iff_of_true rfl (by omega)
        · rw [empty, List.length_nil] at held
          exact iff_of_false (by simp [PopResult.value]) (by omega)
        · rw [empty, List.length_nil] at held
          exact iff_of_false (by simp [PopResult.value]) (by omega)

/-- Two pushes to a queue of one place, a pop, and a push after the close. -/
def burst : List (Section Unit Nat) :=
  [.push () 7 .stored, .push () 8 .displaced, .pop () (.took 8), .close (), .push () 9 .refused]

def afterBurst : BlockingQueue Nat := ⟨[], 1, 1, true⟩

theorem drops_are_forced_burst :
    (sections Unit Nat 1).Run (.make 1) burst afterBurst ∧ ForcedDrops 1 burst (drops burst) ∧
      afterBurst.items.length + drops burst = backlog burst ∧
      afterBurst.dropped = UInt64.ofNat (drops burst) := by
  have run : (sections Unit Nat 1).Run (.make 1) burst afterBurst :=
    .cons (.push () rfl) <| .cons (.push () rfl) <| .cons (.pop () rfl) <|
      .cons (.close _ ()) <| .cons (.push () rfl) (.nil _)
  obtain ⟨forced, -, held, -, counter⟩ := drops_are_forced run
  exact ⟨run, forced, held, counter⟩

end QuantGateway.Queue
