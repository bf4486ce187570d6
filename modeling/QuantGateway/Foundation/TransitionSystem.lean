import Mathlib.Data.List.Basic

/-!
Owns labelled transition systems, their finite runs, reachability, the
invariant rule and functional simulations. Every concurrent component of the
development is one instance: a label is one atomic step of one thread, so a run
is an arbitrary interleaving.

Does not own fairness or liveness; every theorem here is about finite runs.
-/

namespace QuantGateway.Foundation

universe u v w x

/-- A labelled transition system: its start states and its atomic steps. -/
structure TransitionSystem (State : Type u) (Label : Type v) where
  Initial : State → Prop
  Step : State → Label → State → Prop

namespace TransitionSystem

variable {State : Type u} {Label : Type v}

/-- A finite run, with the labels of its steps in order. -/
inductive Run (system : TransitionSystem State Label) : State → List Label → State → Prop where
  | nil (state : State) : Run system state [] state
  | cons {first middle last : State} {label : Label} {labels : List Label}
      (step : system.Step first label middle)
      (rest : Run system middle labels last) :
      Run system first (label :: labels) last

/-- A state some finite run from a start state ends in. -/
def Reachable (system : TransitionSystem State Label) (state : State) : Prop :=
  ∃ start labels, system.Initial start ∧ system.Run start labels state

variable {system : TransitionSystem State Label}

/-! ### Runs -/

theorem Run.single {first last : State} {label : Label}
    (step : system.Step first label last) : system.Run first [label] last :=
  .cons step (.nil last)

theorem Run.append {first middle last : State} {labels more : List Label}
    (run : system.Run first labels middle) (rest : system.Run middle more last) :
    system.Run first (labels ++ more) last := by
  induction run with
  | nil _ => exact rest
  | cons step _ inductionHypothesis => exact .cons step (inductionHypothesis rest)

theorem Run.snoc {first middle last : State} {labels : List Label} {label : Label}
    (run : system.Run first labels middle) (step : system.Step middle label last) :
    system.Run first (labels ++ [label]) last :=
  run.append (.single step)

/-- A property every step preserves is preserved by every run. -/
theorem Run.preserves {holds : State → Prop}
    (preserved : ∀ {state label next}, system.Step state label next → holds state → holds next)
    {first last : State} {labels : List Label} (run : system.Run first labels last)
    (base : holds first) : holds last := by
  induction run with
  | nil _ => exact base
  | cons step _ inductionHypothesis => exact inductionHypothesis (preserved step base)

/-- The state between two parts of a history. -/
theorem Run.split {first last : State} {labels more : List Label}
    (run : system.Run first (labels ++ more) last) :
    ∃ middle, system.Run first labels middle ∧ system.Run middle more last := by
  induction labels generalizing first with
  | nil => exact ⟨first, .nil first, run⟩
  | cons head tail inductionHypothesis =>
      cases run with
      | cons step rest =>
          obtain ⟨middle, before, after⟩ := inductionHypothesis rest
          exact ⟨middle, .cons step before, after⟩

/-- The first step of a run. -/
theorem Run.first_step {first last : State} {label : Label} {labels : List Label}
    (run : system.Run first (label :: labels) last) :
    ∃ middle, system.Step first label middle ∧ system.Run middle labels last := by
  cases run with
  | cons step rest => exact ⟨_, step, rest⟩

/-- The last step of a run. -/
theorem Run.last_step {first last : State} {labels : List Label} {label : Label}
    (run : system.Run first (labels ++ [label]) last) :
    ∃ middle, system.Run first labels middle ∧ system.Step middle label last := by
  obtain ⟨middle, before, final⟩ := run.split
  obtain ⟨next, step, rest⟩ := final.first_step
  cases rest
  exact ⟨middle, before, step⟩

/-- The invariant rule with a history: a property of a state and of the labels
that led to it is kept by every run when every step keeps it. -/
theorem Run.history {holds : List Label → State → Prop}
    (preserved : ∀ {past state label next}, system.Step state label next → holds past state →
      holds (past ++ [label]) next)
    {first last : State} {past labels : List Label} (run : system.Run first labels last)
    (base : holds past first) : holds (past ++ labels) last := by
  induction run generalizing past with
  | nil _ =>
      rw [List.append_nil]
      exact base
  | cons step _ inductionHypothesis =>
      rw [List.append_cons]
      exact inductionHypothesis (preserved step base)

/-! ### Reachability -/

theorem Reachable.initial {state : State} (start : system.Initial state) :
    system.Reachable state :=
  ⟨state, [], start, .nil state⟩

theorem Reachable.run {state last : State} {labels : List Label}
    (reachable : system.Reachable state) (run : system.Run state labels last) :
    system.Reachable last := by
  obtain ⟨start, before, isInitial, toState⟩ := reachable
  exact ⟨start, before ++ labels, isInitial, toState.append run⟩

theorem Reachable.step {state next : State} {label : Label}
    (reachable : system.Reachable state) (step : system.Step state label next) :
    system.Reachable next :=
  reachable.run (.single step)

/-- The invariant rule: a property of the start states that every step
preserves holds in every reachable state. -/
theorem Reachable.invariant {holds : State → Prop}
    (base : ∀ {state}, system.Initial state → holds state)
    (preserved : ∀ {state label next}, system.Step state label next → holds state → holds next)
    {state : State} (reachable : system.Reachable state) : holds state := by
  obtain ⟨start, labels, isInitial, run⟩ := reachable
  exact run.preserves preserved (base isInitial)

/-! ### Simulation -/

/-- A map of states under which start states are start states and each step is
a run of the other system (of no step, when the step is internal). -/
structure Simulation {Other : Type w} {OtherLabel : Type x}
    (concrete : TransitionSystem State Label)
    (abstract : TransitionSystem Other OtherLabel) where
  view : State → Other
  initial : ∀ {state}, concrete.Initial state → abstract.Initial (view state)
  step : ∀ {state label next}, concrete.Step state label next →
    ∃ labels, abstract.Run (view state) labels (view next)

namespace Simulation

variable {Other : Type w} {OtherLabel : Type x} {abstract : TransitionSystem Other OtherLabel}

theorem run (simulation : Simulation system abstract) {first last : State} {labels : List Label}
    (concreteRun : system.Run first labels last) :
    ∃ others, abstract.Run (simulation.view first) others (simulation.view last) := by
  induction concreteRun with
  | nil _ => exact ⟨[], .nil _⟩
  | cons step _ inductionHypothesis =>
      obtain ⟨head, headRun⟩ := simulation.step step
      obtain ⟨tail, tailRun⟩ := inductionHypothesis
      exact ⟨head ++ tail, headRun.append tailRun⟩

/-- What holds in every reachable abstract state holds of the view of every
reachable concrete state. -/
theorem reachable (simulation : Simulation system abstract) {state : State}
    (concreteReachable : system.Reachable state) :
    abstract.Reachable (simulation.view state) := by
  obtain ⟨start, labels, isInitial, concreteRun⟩ := concreteReachable
  obtain ⟨others, abstractRun⟩ := simulation.run concreteRun
  exact ⟨simulation.view start, others, simulation.initial isInitial, abstractRun⟩

end Simulation

end TransitionSystem

end QuantGateway.Foundation
