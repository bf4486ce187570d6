import QuantGateway.Queue.Capacity
import Mathlib.Tactic.Common

/-!
Owns what `close` does to every run of `queue::BlockingQueue<T>`: the queue stays
closed, pushes are refused, and the pops drain what was queued at the close
before they return false, which no pop does otherwise.

Does not own the notification that lets a sleeping pop take its section
(`Queue.Wakeup`).
-/

namespace QuantGateway.Queue

open QuantGateway.Foundation

universe u v

variable {T : Type u} {Thread : Type v} {capacity : Nat}

/-- What a section returned, if it is one of `pop`. -/
def Section.popResult : Section Thread T → Option (PopResult T)
  | .push _ _ _ => none
  | .pop _ result => some result
  | .close _ => none

/-- The results of the `pop` sections of a history, in order. -/
def popResults (labels : List (Section Thread T)) : List (PopResult T) :=
  labels.filterMap Section.popResult

/-- What `count` pops return from a closed queue that holds `items`: the items
first in, first out, then false. -/
def drain (items : List T) (count : Nat) : List (PopResult T) :=
  (items.map .took).take count ++ List.replicate (count - items.length) .drained

theorem drain_cons (item : T) (rest : List T) (count : Nat) :
    drain (item :: rest) (count + 1) = .took item :: drain rest count := by
  simp [drain]

theorem drain_nil (count : Nat) :
    drain ([] : List T) (count + 1) = .drained :: drain [] count := by
  simp [drain, List.replicate_succ]

/-! ## After the close -/

/-- A push to a closed queue is refused and changes nothing. -/
theorem push_refused {queue next : BlockingQueue T} {item : T} {result : PushResult}
    (locked : queue.push item = some (result, next)) (isClosed : queue.closed = true) :
    result = .refused ∧ next = queue := by
  rcases BlockingQueue.push_cases locked with ⟨-, rfl, rfl⟩ | ⟨isOpen, -⟩ | ⟨isOpen, -⟩
  · exact ⟨rfl, rfl⟩
  · simp [isClosed] at isOpen
  · simp [isClosed] at isOpen

/-- Everything a section can do to a closed queue: nothing to its items, take
the first of them, or report that there are none. -/
theorem SectionStep.closed_cases {queue next : BlockingQueue T} {label : Section Thread T}
    (step : SectionStep queue label next) (isClosed : queue.closed = true) :
    next.closed = true ∧ next.dropped = queue.dropped ∧
      ((label.popResult = none ∧ next.items = queue.items) ∨
      (∃ item, label.popResult = some (.took item) ∧ queue.items = item :: next.items) ∨
      (label.popResult = some .drained ∧ queue.items = [] ∧ next.items = [])) := by
  cases step with
  | push thread locked =>
      obtain ⟨-, rfl⟩ := push_refused locked isClosed
      exact ⟨isClosed, rfl, .inl ⟨rfl, rfl⟩⟩
  | pop thread locked =>
      rcases BlockingQueue.pop_cases locked with
        ⟨item, rest, itemsEq, rfl, rfl⟩ | ⟨empty, -, rfl, rfl⟩ | ⟨-, isOpen, -⟩
      · exact ⟨isClosed, rfl, .inr (.inl ⟨item, rfl, itemsEq⟩)⟩
      · exact ⟨isClosed, rfl, .inr (.inr ⟨rfl, empty, empty⟩)⟩
      · simp [isClosed] at isOpen
  | close thread => exact ⟨rfl, rfl, .inl ⟨rfl, rfl⟩⟩

/-- A queue after sections that ran while it was closed. -/
structure Drained (atClose : BlockingQueue T) (later : List (Section Thread T))
    (last : BlockingQueue T) : Prop where
  closed : last.closed = true
  dropped : last.dropped = atClose.dropped
  results : popResults later = drain atClose.items (popResults later).length
  items : last.items = atClose.items.drop (popResults later).length

theorem drained_of_closed {queue last : BlockingQueue T} {labels : List (Section Thread T)}
    (run : (sections Thread T capacity).Run queue labels last) (isClosed : queue.closed = true) :
    Drained queue labels last := by
  induction run with
  | nil queue => exact ⟨isClosed, rfl, by simp [popResults, drain], by simp [popResults]⟩
  | @cons queue middle last label labels step rest inductionHypothesis =>
      obtain ⟨stillClosed, sameDropped, effect⟩ := step.closed_cases isClosed
      obtain ⟨closed, dropped, results, items⟩ := inductionHypothesis stillClosed
      suffices kept : popResults (label :: labels) =
          drain queue.items (popResults (label :: labels)).length ∧
          last.items = queue.items.drop (popResults (label :: labels)).length from
        ⟨closed, dropped.trans sameDropped, kept.1, kept.2⟩
      rcases effect with ⟨noPop, itemsEq⟩ | ⟨item, took, itemsEq⟩ | ⟨drained, empty, stillEmpty⟩
      · have same : popResults (label :: labels) = popResults labels :=
          List.filterMap_cons_none noPop
        rw [same, ← itemsEq]
        exact ⟨results, items⟩
      · have more : popResults (label :: labels) = .took item :: popResults labels :=
          List.filterMap_cons_some took
        rw [more, itemsEq, List.length_cons, drain_cons, ← results]
        exact ⟨rfl, items⟩
      · have more : popResults (label :: labels) = .drained :: popResults labels :=
          List.filterMap_cons_some drained
        rw [stillEmpty] at results items
        rw [more, empty, List.length_cons, drain_nil, ← results]
        exact ⟨rfl, by simpa using items⟩

/-! ## What it takes to return false -/

/-- A `pop` returns false exactly from a closed and empty queue, leaving the
queue and the caller's `out` alone. -/
theorem pop_false_iff {queue next : BlockingQueue T} {result : PopResult T}
    (locked : queue.pop = (result, next)) :
    (result.value = some false ↔ queue.closed = true ∧ queue.items = []) ∧
      (result.value = some false → next = queue ∧ ∀ out, result.out out = out) := by
  rcases BlockingQueue.pop_cases locked with
    ⟨item, rest, itemsEq, rfl, rfl⟩ | ⟨empty, isClosed, rfl, rfl⟩ | ⟨empty, isOpen, rfl, rfl⟩
  · simp [PopResult.value, itemsEq]
  · simp [PopResult.value, PopResult.out, empty, isClosed]
  · simp [PopResult.value, isOpen]

/-- Whether a history has closed the queue. -/
def Closes (labels : List (Section Thread T)) : Prop :=
  ∃ closer, .close closer ∈ labels

/-- A queue is closed exactly when its history has a `close`. -/
theorem closed_iff_closes {labels : List (Section Thread T)} {queue : BlockingQueue T}
    (run : (sections Thread T capacity).Run (.make capacity) labels queue) :
    queue.closed = true ↔ Closes labels := by
  rw [(performAll_frame (performAll_of_run run)).2, List.mem_map]
  constructor
  · rintro ⟨label, member, isClose⟩
    cases label with
    | push => cases isClose
    | pop => cases isClose
    | close closer => exact ⟨closer, member⟩
  · rintro ⟨closer, member⟩
    exact ⟨.close closer, member, rfl⟩

/-- After a close a push is refused, and a pop returns the next of the items
queued at the close as long as there is one. -/
theorem Drained.sections {atClose last : BlockingQueue T} {later : List (Section Thread T)}
    (drained : Drained atClose later last) :
    (∀ {item : T} {result : PushResult} {next : BlockingQueue T},
      last.push item = some (result, next) →
        result.value = false ∧ result.accepted = false ∧ next = last) ∧
    (∀ {result : PopResult T} {next : BlockingQueue T}, last.pop = (result, next) →
      result.value = some (decide ((popResults later).length < atClose.items.length))) := by
  refine ⟨fun locked => ?_, fun locked => ?_⟩
  · obtain ⟨rfl, rfl⟩ := push_refused locked drained.closed
    exact ⟨rfl, rfl, rfl⟩
  · have remaining : last.items.length = atClose.items.length - (popResults later).length := by
      rw [drained.items, List.length_drop]
    rcases BlockingQueue.pop_cases locked with
      ⟨item, rest, itemsEq, rfl, -⟩ | ⟨empty, -, rfl, -⟩ | ⟨-, isOpen, -⟩
    · rw [itemsEq, List.length_cons] at remaining
      have left : (popResults later).length < atClose.items.length := by omega
      simp [PopResult.value, left]
    · rw [empty, List.length_nil] at remaining
      have noneLeft : ¬ (popResults later).length < atClose.items.length := by omega
      simp [PopResult.value, noneLeft]
    · simp [drained.closed] at isOpen

/-- After any history a pop returns false only from a closed queue without items.
From each `close` of the history on, the queue stays closed and refuses every
push, the next pops take exactly what was queued at that close, and the pops
after them return false. -/
theorem close_is_final_and_drains {labels : List (Section Thread T)} {last : BlockingQueue T}
    (run : (sections Thread T capacity).Run (.make capacity) labels last) :
    (∀ {thread : Thread} {result : PopResult T} {next : BlockingQueue T},
      (sections Thread T capacity).Step last (.pop thread result) next →
        (result.value = some false ↔ Closes labels ∧ last.items = []) ∧
        (result.value = some false → next = last ∧ ∀ out, result.out out = out)) ∧
    ∀ (before later : List (Section Thread T)) (closer : Thread),
      labels = before ++ .close closer :: later →
      ∃ queue, (sections Thread T capacity).Run (.make capacity) before queue ∧
        (sections Thread T capacity).Run queue.close later last ∧
        Drained queue.close later last ∧
        (∀ {thread : Thread} {item : T} {result : PushResult} {next : BlockingQueue T},
          (sections Thread T capacity).Step last (.push thread item result) next →
            result.value = false ∧ result.accepted = false ∧ next = last) ∧
        (∀ {thread : Thread} {result : PopResult T} {next : BlockingQueue T},
          (sections Thread T capacity).Step last (.pop thread result) next →
            result.value =
              some (decide ((popResults later).length < queue.close.items.length))) := by
  refine ⟨?_, ?_⟩
  · intro thread result next step
    cases step with
    | pop _ locked =>
        obtain ⟨falseIff, untouched⟩ := pop_false_iff locked
        rw [closed_iff_closes run] at falseIff
        exact ⟨falseIff, untouched⟩
  · rintro before later closer rfl
    obtain ⟨queue, earlier, fromClose⟩ := run.split
    obtain ⟨atClose, closing, afterwards⟩ := fromClose.first_step
    cases closing
    have drained := drained_of_closed afterwards rfl
    refine ⟨queue, earlier, afterwards, drained, ?_, ?_⟩
    · intro thread item result next step
      cases step with
      | push _ locked => exact drained.sections.1 locked
    · intro thread result next step
      cases step with
      | pop _ locked => exact drained.sections.2 locked

/-- One thread pushes two items and closes; another takes them, a push in between
is refused, and a last pop finds the queue drained. -/
theorem close_is_final_and_drains_two :
    ∃ queue, (sections Nat Nat 4).Run (.make 4) [.push 0 7 .stored, .push 0 8 .stored] queue ∧
      Drained queue.close
        [.pop 1 (.took 7), .push 0 9 .refused, .close 0, .pop 1 (.took 8), .pop 1 .drained]
        ⟨[], 4, 0, true⟩ := by
  have run : (sections Nat Nat 4).Run (.make 4)
      ([.push 0 7 .stored, .push 0 8 .stored] ++ .close 0 ::
        [.pop 1 (.took 7), .push 0 9 .refused, .close 0, .pop 1 (.took 8), .pop 1 .drained])
      ⟨[], 4, 0, true⟩ :=
    .cons (.push _ rfl) (.cons (.push _ rfl) (.cons (.close _ _) (.cons (.pop _ rfl)
      (.cons (.push _ rfl) (.cons (.close _ _) (.cons (.pop _ rfl) (.cons (.pop _ rfl)
        (.nil _))))))))
  obtain ⟨queue, earlier, -, drained, -⟩ := (close_is_final_and_drains run).2 _ _ _ rfl
  exact ⟨queue, earlier, drained⟩

end QuantGateway.Queue
