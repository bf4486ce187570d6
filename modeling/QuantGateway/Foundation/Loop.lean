import Mathlib.Tactic.Common

/-!
Owns `while (true)` loops whose body may fail, go round again or return, run for a
given number of passes, and the rule that shows such a loop to return: an invariant,
a variant that every further pass lowers, and an answer that no pass changes.

Does not own any particular body.
-/

namespace QuantGateway.Foundation

universe u v w

/-- What a pass through the body of a loop ends in. -/
inductive Pass (State : Type u) (Result : Type v) where
  | again (state : State)
  | returned (result : Result)
deriving DecidableEq, Repr

variable {Failure : Type w} {State : Type u} {Result : Type v}
variable {unfinished : Failure} {body : State → Except Failure (Pass State Result)}

/-- The loop from a state on, given up after so many passes. -/
def loop (unfinished : Failure) (body : State → Except Failure (Pass State Result)) :
    Nat → State → Except Failure Result
  | 0, _ => .error unfinished
  | passes + 1, state =>
      match body state with
      | .error failure => .error failure
      | .ok (.returned result) => .ok result
      | .ok (.again next) => loop unfinished body passes next

theorem loop_of_returned {state : State} {result : Result}
    (ends : body state = .ok (.returned result)) (passes : Nat) :
    loop unfinished body (passes + 1) state = .ok result := by
  rw [loop, ends]

theorem loop_of_again {state next : State} (goesOn : body state = .ok (.again next))
    (passes : Nat) :
    loop unfinished body (passes + 1) state = loop unfinished body passes next := by
  rw [loop, goesOn]

/-- What a body does to a state that satisfies the invariant: it returns the answer,
or goes on to such a state with the same answer and a smaller variant. -/
def Advances (Holds : State → Prop) (variant : State → Nat) (answer : State → Result)
    (body : State → Except Failure (Pass State Result)) (state : State) : Prop :=
  body state = .ok (.returned (answer state)) ∨
    ∃ next, body state = .ok (.again next) ∧ Holds next ∧ variant next < variant state ∧
      answer next = answer state

/-- With more passes than the variant allows, the loop returns the answer. -/
theorem loop_eq_ok {Holds : State → Prop} {variant : State → Nat} {answer : State → Result}
    (advances : ∀ state, Holds state → Advances Holds variant answer body state)
    {passes : Nat} {state : State} (holds : Holds state) (enough : variant state < passes) :
    loop unfinished body passes state = .ok (answer state) := by
  induction passes generalizing state with
  | zero => exact absurd enough (Nat.not_lt_zero _)
  | succ passes inductionHypothesis =>
      rcases advances state holds with ends | ⟨next, goesOn, nextHolds, lower, sameAnswer⟩
      · exact loop_of_returned ends passes
      · rw [loop_of_again goesOn, ← sameAnswer]
        exact inductionHypothesis nextHolds (by omega)

end QuantGateway.Foundation
