import QuantGateway.Queue.BlockingQueue
import Mathlib.Data.List.Perm.Basic
import Mathlib.Data.List.Sublists
import Mathlib.Tactic.Common

/-!
Owns the accounting of `queue::BlockingQueue<T>` over whole interleavings. The
queue runs on numbered items: the accepted pushes are numbered 0, 1, 2, ... in
the order of their critical sections, and the ledger keeps which items were
accepted, delivered by a `pop` and displaced by a `push`.

The numbers are bookkeeping only: `eraseNumbers` maps every run of the ledger
to a run of the plain queue, and every run of the plain queue comes from one
(`ledger_covers`).

Does not own the condition variable (`Queue.Wakeup`).
-/

namespace QuantGateway.Queue

open QuantGateway.Foundation

universe u v

variable {T : Type u} {Thread : Type v}

/-- An item with the position of its push among the accepted pushes. -/
structure Numbered (T : Type u) where
  number : Nat
  item : T
deriving DecidableEq, Repr

/-- A queue of numbered items with the history of what became of them. -/
structure Ledger (T : Type u) where
  queue : BlockingQueue (Numbered T)
  accepted : List (Numbered T)
  delivered : List (Numbered T)
  displaced : List (Numbered T)
deriving DecidableEq, Repr

namespace Ledger

def make (capacity : Nat) : Ledger T where
  queue := .make capacity
  accepted := []
  delivered := []
  displaced := []

/-- The number the next accepted push gets, with its item. -/
def next (ledger : Ledger T) (item : T) : Numbered T :=
  ⟨ledger.accepted.length, item⟩

/-- Enter a `push` section that left the queue as `queue`. -/
def afterPush (ledger : Ledger T) (item : T) (queue : BlockingQueue (Numbered T)) :
    PushResult → Ledger T
  | .refused => { ledger with queue := queue }
  | .stored => { ledger with queue := queue, accepted := ledger.accepted ++ [ledger.next item] }
  | .displaced =>
      { ledger with
        queue := queue
        accepted := ledger.accepted ++ [ledger.next item]
        displaced := ledger.displaced ++ ledger.queue.items.take 1 }

/-- Enter a `pop` section that left the queue as `queue`. -/
def afterPop (ledger : Ledger T) (queue : BlockingQueue (Numbered T)) :
    PopResult (Numbered T) → Ledger T
  | .took entry => { ledger with queue := queue, delivered := ledger.delivered ++ [entry] }
  | .drained => { ledger with queue := queue }
  | .waits => { ledger with queue := queue }

/-- One critical section on the numbered queue, entered in the ledger. -/
inductive Step : Ledger T → Section Thread T → Ledger T → Prop where
  | push (ledger : Ledger T) (thread : Thread) {item : T} {result : PushResult}
      {queue : BlockingQueue (Numbered T)}
      (locked : ledger.queue.push (ledger.next item) = some (result, queue)) :
      Step ledger (.push thread item result) (ledger.afterPush item queue result)
  | pop (ledger : Ledger T) (thread : Thread) {result : PopResult (Numbered T)}
      {queue : BlockingQueue (Numbered T)}
      (locked : ledger.queue.pop = (result, queue)) :
      Step ledger (.pop thread (result.map Numbered.item)) (ledger.afterPop queue result)
  | close (ledger : Ledger T) (thread : Thread) :
      Step ledger (.close thread) { ledger with queue := ledger.queue.close }

/-- Any interleaving of critical sections by any threads, with its ledger. -/
def system (Thread : Type v) (T : Type u) (capacity : Nat) :
    TransitionSystem (Ledger T) (Section Thread T) where
  Initial := fun ledger => ledger = .make capacity
  Step := Step

/-! ## The ledger is bookkeeping -/

/-- The queue the code runs on: the numbers forgotten. -/
def eraseNumbers (ledger : Ledger T) : BlockingQueue T :=
  ledger.queue.map Numbered.item

theorem step_erases {ledger after : Ledger T} {label : Section Thread T}
    (step : Step ledger label after) :
    SectionStep ledger.eraseNumbers label after.eraseNumbers := by
  cases step with
  | @push thread item result queue locked =>
      have erased : ledger.eraseNumbers.push item =
          some (result, queue.map Numbered.item) := by
        have mapped := BlockingQueue.push_map Numbered.item ledger.queue (ledger.next item)
        rw [locked] at mapped
        exact mapped
      have view : (ledger.afterPush item queue result).eraseNumbers = queue.map Numbered.item := by
        cases result <;> rfl
      rw [view]
      exact .push thread erased
  | @pop thread result queue locked =>
      have erased : ledger.eraseNumbers.pop =
          (result.map Numbered.item, queue.map Numbered.item) := by
        have mapped := BlockingQueue.pop_map Numbered.item ledger.queue
        rw [locked] at mapped
        exact mapped
      have view : (ledger.afterPop queue result).eraseNumbers = queue.map Numbered.item := by
        cases result <;> rfl
      rw [view]
      exact .pop thread erased
  | close thread => exact .close _ thread

/-- Every run of the ledger is a run of the plain queue. -/
def simulation (Thread : Type v) (T : Type u) (capacity : Nat) :
    TransitionSystem.Simulation (system Thread T capacity) (sections Thread T capacity) where
  view := eraseNumbers
  initial := by
    rintro _ rfl
    rfl
  step := fun step => ⟨_, .single (step_erases step)⟩

theorem step_covers {ledger : Ledger T} {queue : BlockingQueue T} {label : Section Thread T}
    (step : SectionStep ledger.eraseNumbers label queue) :
    ∃ after, Step ledger label after ∧ after.eraseNumbers = queue := by
  cases step with
  | @push _ thread item result locked =>
      have mapped := BlockingQueue.push_map Numbered.item ledger.queue (ledger.next item)
      change ledger.eraseNumbers.push item = _ at mapped
      rw [locked] at mapped
      obtain ⟨⟨result', numbered⟩, made, equal⟩ := Option.map_eq_some_iff.mp mapped.symm
      obtain ⟨rfl, rfl⟩ := Prod.mk.inj equal
      refine ⟨ledger.afterPush item numbered result', .push ledger thread made, ?_⟩
      cases result' <;> rfl
  | @pop _ thread result locked =>
      have mapped := BlockingQueue.pop_map Numbered.item ledger.queue
      change ledger.eraseNumbers.pop = _ at mapped
      rw [locked] at mapped
      obtain ⟨rfl, rfl⟩ := Prod.mk.inj mapped
      refine ⟨ledger.afterPop ledger.queue.pop.2 ledger.queue.pop.1, .pop ledger thread rfl, ?_⟩
      cases ledger.queue.pop.1 <;> rfl
  | close thread => exact ⟨_, .close ledger thread, rfl⟩

/-- Every run of the plain queue is the erasure of a run of the ledger with the
same sections and results. -/
theorem ledger_covers {capacity : Nat} {labels : List (Section Thread T)}
    {queue : BlockingQueue T}
    (run : (sections Thread T capacity).Run (.make capacity) labels queue) :
    ∃ ledger, (system Thread T capacity).Run (.make capacity) labels ledger ∧
      ledger.eraseNumbers = queue := by
  have lifted : ∀ {first last : BlockingQueue T} {labels : List (Section Thread T)},
      (sections Thread T capacity).Run first labels last →
      ∀ ledger : Ledger T, ledger.eraseNumbers = first →
        ∃ after, (system Thread T capacity).Run ledger labels after ∧
          after.eraseNumbers = last := by
    intro first last labels run
    induction run with
    | nil _ => exact fun ledger erased => ⟨ledger, .nil ledger, erased⟩
    | cons step _ inductionHypothesis =>
        rintro ledger rfl
        obtain ⟨middle, middleStep, middleErased⟩ := step_covers step
        obtain ⟨after, rest, erased⟩ := inductionHypothesis middle middleErased
        exact ⟨after, .cons middleStep rest, erased⟩
  exact lifted run (.make capacity) rfl

/-! ## What is accepted -/

section Accepted

variable {ledger after : Ledger T} {label : Section Thread T}

/-- The ledger enters an item exactly if `push` says that it entered the queue. -/
theorem accepted_afterPush (item : T) (queue : BlockingQueue (Numbered T))
    (result : PushResult) :
    (ledger.afterPush item queue result).accepted.map Numbered.item =
      ledger.accepted.map Numbered.item ++ if result.accepted then [item] else [] := by
  cases result <;> simp [afterPush, next, PushResult.accepted]

theorem accepted_afterPop (queue : BlockingQueue (Numbered T))
    (result : PopResult (Numbered T)) :
    (ledger.afterPop queue result).accepted = ledger.accepted := by
  cases result <;> rfl

theorem queue_afterPush (item : T) (queue : BlockingQueue (Numbered T)) (result : PushResult) :
    (ledger.afterPush item queue result).queue = queue := by
  cases result <;> rfl

theorem queue_afterPop (queue : BlockingQueue (Numbered T)) (result : PopResult (Numbered T)) :
    (ledger.afterPop queue result).queue = queue := by
  cases result <;> rfl

/-- The ledger enters the item the section says it accepted. -/
theorem Step.accepted (step : Step ledger label after) :
    after.accepted.map Numbered.item =
      ledger.accepted.map Numbered.item ++ label.accepted.toList := by
  cases step with
  | @push thread item result queue locked =>
      rw [accepted_afterPush]
      cases result <;> rfl
  | @pop thread result queue locked =>
      rw [accepted_afterPop, Section.accepted, Option.toList_none, List.append_nil]
  | close thread =>
      rw [Section.accepted, Option.toList_none, List.append_nil]

/-- Accepted is what was pushed before the close. -/
theorem gated_of_run {capacity : Nat} {labels : List (Section Thread T)}
    (run : (system Thread T capacity).Run (.make capacity) labels ledger) :
    Gated Section.offered Section.closes labels (ledger.accepted.map Numbered.item)
      ledger.queue.closed := by
  let Entered (past : List (Section Thread T)) (ledger : Ledger T) : Prop :=
    Gated Section.offered Section.closes past (ledger.accepted.map Numbered.item)
      ledger.queue.closed
  have start : Entered [] (.make capacity) := .make
  refine run.history ?_ start
  intro past ledger label after step gated
  change Gated _ _ _ (after.accepted.map Numbered.item) _
  rw [Step.accepted step]
  exact (step_erases step).gated gated

end Accepted

end Ledger

end QuantGateway.Queue
