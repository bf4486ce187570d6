import QuantGateway.Foundation.TransitionSystem
import Mathlib.Tactic.Common

/-!
Owns runs that come to an end: a measure every step lowers bounds the length of the
runs, and from every state some run reaches one in which no step is enabled.

An invariant may go with the measure. Does not own fairness: a measure leaves no
infinite run to be fair about.
-/

namespace QuantGateway.Foundation

universe u v

namespace TransitionSystem

variable {State : Type u} {Label : Type v} {system : TransitionSystem State Label}

/-- No step is enabled. -/
def Resting (system : TransitionSystem State Label) (state : State) : Prop :=
  ∀ label next, ¬ system.Step state label next

/-- Every step from a state with the property keeps it and lowers the measure. -/
def Descends (system : TransitionSystem State Label) (holds : State → Prop)
    (measure : State → Nat) : Prop :=
  ∀ state label next, holds state → system.Step state label next →
    holds next ∧ measure next < measure state

variable {holds : State → Prop} {measure : State → Nat}

theorem Descends.run (descends : system.Descends holds measure) {first last : State}
    {labels : List Label} (run : system.Run first labels last) (base : holds first) :
    holds last ∧ labels.length + measure last ≤ measure first := by
  induction run with
  | nil _ =>
      rw [List.length_nil, Nat.zero_add]
      exact ⟨base, Nat.le_refl _⟩
  | cons step _ inductionHypothesis =>
      obtain ⟨kept, lower⟩ := descends _ _ _ base step
      obtain ⟨atLast, bound⟩ := inductionHypothesis kept
      refine ⟨atLast, ?_⟩
      rw [List.length_cons]
      omega

theorem Descends.exists_rest (descends : system.Descends holds measure) (first : State)
    (base : holds first) : ∃ labels last, system.Run first labels last ∧ system.Resting last := by
  by_cases resting : system.Resting first
  · exact ⟨[], first, .nil first, resting⟩
  · simp only [Resting, not_forall, not_not] at resting
    obtain ⟨label, next, step⟩ := resting
    obtain ⟨kept, lower⟩ := descends _ _ _ base step
    obtain ⟨labels, last, run, atRest⟩ := descends.exists_rest next kept
    exact ⟨label :: labels, last, .cons step run, atRest⟩
termination_by measure first

end TransitionSystem

end QuantGateway.Foundation
