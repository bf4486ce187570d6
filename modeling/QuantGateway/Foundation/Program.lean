import Mathlib.Data.List.Forall2

/-!
Owns programs that change a state and may fail, keeping the state they had
changed so far, and the rules their proofs use: what a successful run of a
sequence consists of, an invariant rule for loops, the properties of programs that
sequences keep, and the frame rule for a relation that every statement respects
whether it fails or not.
-/

namespace QuantGateway.Foundation

/-- A program over a state with failures. -/
abbrev Program (Failure State Value : Type) := EStateM Failure State Value

/-- A sequence of pure computations succeeds when both its parts do. -/
theorem except_bind_ok {Failure A B : Type} {first : Except Failure A}
    {next : A → Except Failure B} {result : B} (ran : (first >>= next) = .ok result) :
    ∃ value, first = .ok value ∧ next value = .ok result := by
  cases first with
  | error failure => cases ran
  | ok value => exact ⟨value, rfl, ran⟩

/-- A sequence fails in its first part or after it. -/
theorem except_bind_error {Failure A B : Type} {first : Except Failure A}
    {next : A → Except Failure B} {failure : Failure} (ran : (first >>= next) = .error failure) :
    first = .error failure ∨ ∃ value, first = .ok value ∧ next value = .error failure := by
  cases first with
  | error other =>
      cases ran
      exact .inl rfl
  | ok value => exact .inr ⟨value, rfl, ran⟩

theorem except_map_ok {Failure A B : Type} {edit : A → B} {outcome : Except Failure A} {result : B}
    (ran : outcome.map edit = .ok result) : ∃ value, outcome = .ok value ∧ edit value = result := by
  cases outcome with
  | error failure => cases ran
  | ok value =>
      cases ran
      exact ⟨value, rfl, rfl⟩

/-- A map of a computation over a list succeeds when every item's does. -/
theorem except_mapM_ok {Failure A B : Type} {compute : A → Except Failure B} {items : List A}
    {results : List B} (ran : items.mapM compute = .ok results) :
    List.Forall₂ (fun item result => compute item = .ok result) items results := by
  induction items generalizing results with
  | nil =>
      cases ran
      exact .nil
  | cons item rest inductionHypothesis =>
      rw [List.mapM_cons] at ran
      obtain ⟨result, here, ran⟩ := except_bind_ok ran
      obtain ⟨others, there, ran⟩ := except_bind_ok ran
      cases ran
      exact .cons here (inductionHypothesis there)

/-- A map of a computation over a list has the results of its items. -/
theorem except_mapM_of_forall₂ {Failure A B : Type} {compute : A → Except Failure B}
    {items : List A} {results : List B}
    (pointwise : List.Forall₂ (fun item result => compute item = .ok result) items results) :
    items.mapM compute = .ok results := by
  induction pointwise with
  | nil => rfl
  | cons here _ inductionHypothesis =>
      rw [List.mapM_cons, here, inductionHypothesis]
      rfl

section Pointwise

variable {A B C : Type} {first : A → B → Prop} {second : B → C → Prop}

/-- Lists that agree pointwise in two ways agree pointwise in both. -/
theorem forall₂_comp {items : List A} {middle : List B} {last : List C}
    (left : List.Forall₂ first items middle) (right : List.Forall₂ second middle last) :
    List.Forall₂ (fun item value => ∃ between, first item between ∧ second between value)
      items last := by
  induction left generalizing last with
  | nil =>
      cases right
      exact .nil
  | cons here _ inductionHypothesis =>
      cases right with
      | cons there rest => exact .cons ⟨_, here, there⟩ (inductionHypothesis rest)

/-- Pairs that are related one by one relate their components pointwise. -/
theorem forall₂_of_pairs {pairs : List (A × B)} (related : ∀ pair ∈ pairs, first pair.1 pair.2) :
    List.Forall₂ first (pairs.map Prod.fst) (pairs.map Prod.snd) := by
  rw [List.forall₂_map_left_iff, List.forall₂_map_right_iff, List.forall₂_same]
  exact related

/-- The items of a pointwise relation are items of the list. -/
theorem forall₂_mem {items : List A} {others : List B}
    (pointwise : List.Forall₂ first items others) :
    List.Forall₂ (fun item other => item ∈ items ∧ first item other) items others := by
  rw [List.forall₂_iff_zip]
  refine ⟨pointwise.length_eq, fun member => ?_⟩
  exact ⟨(List.of_mem_zip member).1, List.forall₂_zip pointwise member⟩

theorem exists_of_forall₂ {items : List A} {others : List B}
    (pointwise : List.Forall₂ first items others) {item : A} (member : item ∈ items) :
    ∃ other ∈ others, first item other := by
  obtain ⟨index, bound, rfl⟩ := List.getElem_of_mem member
  have bound' : index < others.length := pointwise.length_eq ▸ bound
  exact ⟨others[index], List.getElem_mem bound', pointwise.get bound bound'⟩

/-- Pointwise equal values are the same list of values. -/
theorem filterMap_eq_of_forall₂ {left : A → Option C} {right : B → Option C} {items : List A}
    {others : List B} (pointwise : List.Forall₂ first items others)
    (agree : ∀ item other, first item other → left item = right other) :
    items.filterMap left = others.filterMap right := by
  induction pointwise with
  | nil => rfl
  | cons here _ inductionHypothesis =>
      rw [List.filterMap_cons, List.filterMap_cons, agree _ _ here, inductionHypothesis]

end Pointwise

namespace Program

variable {Failure State A B : Type}

/-- A pure computation that may fail. -/
def ofExcept : Except Failure A → Program Failure State A
  | .ok value => pure value
  | .error failure => throw failure

/-- Run a body for each item in order and collect the results. -/
def each (body : A → Program Failure State B) : List A → Program Failure State (List B)
  | [] => pure []
  | item :: rest => do
      let value ← body item
      let values ← each body rest
      pure (value :: values)

/-- The state a run ends in. -/
def finalState : EStateM.Result Failure State A → State
  | .ok _ state => state
  | .error _ state => state

/-- The value a run returns. -/
def returned : EStateM.Result Failure State A → Option A
  | .ok value _ => some value
  | .error _ _ => none

/-- What a run raises. -/
def raised : EStateM.Result Failure State A → Option Failure
  | .ok _ _ => none
  | .error failure _ => some failure

/-! ## Successful runs -/

theorem eq_ok_of_returned {result : EStateM.Result Failure State A} {value : A}
    (isReturned : returned result = some value) : result = .ok value (finalState result) := by
  cases result with
  | ok other state =>
      cases isReturned
      rfl
  | error failure state => cases isReturned

theorem eq_error_of_raised {result : EStateM.Result Failure State A} {failure : Failure}
    (isRaised : raised result = some failure) : result = .error failure (finalState result) := by
  cases result with
  | ok value state => cases isRaised
  | error other state =>
      cases isRaised
      rfl

theorem pure_ok {value result : A} {state last : State}
    (ran : (pure value : Program Failure State A) state = .ok result last) :
    result = value ∧ last = state := by
  cases ran
  exact ⟨rfl, rfl⟩

/-- A sequence succeeds when both its parts do. -/
theorem bind_ok {first : Program Failure State A} {next : A → Program Failure State B}
    {state last : State} {result : B} (ran : (first >>= next) state = .ok result last) :
    ∃ value middle, first state = .ok value middle ∧ next value middle = .ok result last := by
  change EStateM.bind first next state = .ok result last at ran
  unfold EStateM.bind at ran
  split at ran
  next value middle firstRan => exact ⟨value, middle, firstRan, ran⟩
  next => cases ran

/-- After a first part that succeeds a sequence is its rest. -/
theorem bind_of_ok {first : Program Failure State A} {next : A → Program Failure State B}
    {state middle : State} {value : A} (ran : first state = .ok value middle) :
    (first >>= next) state = next value middle := by
  change EStateM.bind first next state = next value middle
  unfold EStateM.bind
  rw [ran]

/-- A first part that fails is how the sequence fails. -/
theorem bind_of_error {first : Program Failure State A} {next : A → Program Failure State B}
    {state last : State} {failure : Failure} (ran : first state = .error failure last) :
    (first >>= next) state = .error failure last := by
  change EStateM.bind first next state = .error failure last
  unfold EStateM.bind
  rw [ran]

/-- A sequence fails in its first part or after it. -/
theorem bind_error {first : Program Failure State A} {next : A → Program Failure State B}
    {state last : State} {failure : Failure} (ran : (first >>= next) state = .error failure last) :
    first state = .error failure last ∨
      ∃ value middle, first state = .ok value middle ∧ next value middle = .error failure last := by
  change EStateM.bind first next state = .error failure last at ran
  unfold EStateM.bind at ran
  split at ran
  next value middle firstRan => exact .inr ⟨value, middle, firstRan, ran⟩
  next failed middle firstRan =>
    cases ran
    exact .inl firstRan

theorem ofExcept_error {outcome : Except Failure A} {state last : State} {failure : Failure}
    (ran : (ofExcept outcome : Program Failure State A) state = .error failure last) :
    outcome = .error failure ∧ last = state := by
  cases outcome with
  | ok value => cases ran
  | error other =>
      cases ran
      exact ⟨rfl, rfl⟩

theorem ofExcept_ok {outcome : Except Failure A} {state last : State} {result : A}
    (ran : (ofExcept outcome : Program Failure State A) state = .ok result last) :
    outcome = .ok result ∧ last = state := by
  cases outcome with
  | ok value =>
      obtain ⟨rfl, rfl⟩ := pure_ok ran
      exact ⟨rfl, rfl⟩
  | error failure => cases ran

/-- The loop rule: what one item preserves holds of all of them; the invariant
sees the items done so far with their results. -/
theorem each_ok {body : A → Program Failure State B} {invariant : List (A × B) → State → Prop}
    {items : List A} {state last : State} {values : List B}
    (ran : each body items state = .ok values last)
    (preserved : ∀ done item value state next, item ∈ items → invariant done state →
      body item state = .ok value next → invariant (done ++ [(item, value)]) next)
    {done : List (A × B)} (base : invariant done state) :
    ∃ pairs, pairs.map Prod.fst = items ∧ pairs.map Prod.snd = values ∧
      invariant (done ++ pairs) last := by
  induction items generalizing state values done with
  | nil =>
      obtain ⟨rfl, rfl⟩ := pure_ok ran
      refine ⟨[], rfl, rfl, ?_⟩
      rw [List.append_nil]
      exact base
  | cons item rest inductionHypothesis =>
      obtain ⟨value, middle, bodyRan, afterBody⟩ := bind_ok ran
      obtain ⟨others, final, restRan, finished⟩ := bind_ok afterBody
      obtain ⟨rfl, rfl⟩ := pure_ok finished
      have step := preserved done item value state middle (.head _) base bodyRan
      obtain ⟨pairs, rfl, rfl, whole⟩ := inductionHypothesis restRan
        (fun done other value state next member => preserved done other value state next
          (.tail _ member)) step
      refine ⟨(item, value) :: pairs, rfl, rfl, ?_⟩
      rw [List.append_cons]
      exact whole

/-! ## Properties of whole programs -/

/-- A property of programs that every sequence of such programs has. -/
structure Closed (property : ∀ A : Type, Program Failure State A → Prop) : Prop where
  pure : ∀ {A : Type} (value : A), property A (Pure.pure value)
  throw : ∀ {A : Type} (failure : Failure), property A (MonadExcept.throw failure)
  bind : ∀ {A B : Type} {first : Program Failure State A} {next : A → Program Failure State B},
    property A first → (∀ value, property B (next value)) → property B (first >>= next)

namespace Closed

variable {property : ∀ A : Type, Program Failure State A → Prop}

theorem ofExcept (closed : Closed property) (outcome : Except Failure A) :
    property A (ofExcept outcome) := by
  cases outcome with
  | ok value => exact closed.pure value
  | error failure => exact closed.throw failure

theorem each (closed : Closed property) {body : A → Program Failure State B}
    (hasBody : ∀ item, property B (body item)) (items : List A) :
    property (List B) (each body items) := by
  induction items with
  | nil => exact closed.pure []
  | cons item rest inductionHypothesis =>
      apply closed.bind (hasBody item)
      intro value
      apply closed.bind inductionHypothesis
      intro values
      exact closed.pure (value :: values)

end Closed

/-! ## The frame rule -/

/-- A relation of states that every run of a program respects, failed or not. -/
def Keeps (relation : State → State → Prop) (program : Program Failure State A) : Prop :=
  ∀ state, relation state (finalState (program state))

variable {relation : State → State → Prop}

theorem Keeps.of_ok {program : Program Failure State A} (keeps : Keeps relation program)
    {state last : State} {value : A} (ran : program state = .ok value last) :
    relation state last := by
  have kept := keeps state
  rw [ran] at kept
  exact kept

theorem Keeps.of_error {program : Program Failure State A} (keeps : Keeps relation program)
    {state last : State} {failure : Failure} (ran : program state = .error failure last) :
    relation state last := by
  have kept := keeps state
  rw [ran] at kept
  exact kept

theorem Keeps.bind (trans : ∀ first second third, relation first second →
      relation second third → relation first third)
    {first : Program Failure State A} {next : A → Program Failure State B}
    (keepsFirst : Keeps relation first) (keepsNext : ∀ value, Keeps relation (next value)) :
    Keeps relation (first >>= next) := by
  intro state
  have here := keepsFirst state
  change relation state (finalState (EStateM.bind first next state))
  unfold EStateM.bind
  cases ran : first state with
  | ok value middle =>
      rw [ran] at here
      exact trans _ _ _ here (keepsNext value middle)
  | error failure middle =>
      rw [ran] at here
      exact here

/-- Sequences respect a relation that is reflexive and transitive. -/
theorem Keeps.closed (refl : ∀ state, relation state state)
    (trans : ∀ first second third, relation first second → relation second third →
      relation first third) :
    Closed fun _ (program : Program Failure State _) => Keeps relation program where
  pure _ state := refl state
  throw _ state := refl state
  bind := Keeps.bind trans

end Program

end QuantGateway.Foundation
