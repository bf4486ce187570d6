import Mathlib.Tactic.Common

/-!
Owns stores of which some names are hidden: two stores an observer of the other
names cannot tell apart, the store with its hidden values blanked, and the rule
by which a fact about one run over a store gives a fact about two.

Does not own which names a program hides.
-/

namespace QuantGateway.Foundation

universe u v w x

variable {Name : Type u} {Value : Type v} {Failure : Type w} {Result : Type x}
variable {hidden : Name → Bool} {blank : Value} {first second store : Name → Value}

/-- The two stores differ at most in hidden values. -/
def AgreeOutside (hidden : Name → Bool) (first second : Name → Value) : Prop :=
  ∀ name, hidden name = false → first name = second name

/-- The store with one and the same value for every hidden name. -/
def redact (hidden : Name → Bool) (blank : Value) (store : Name → Value) : Name → Value :=
  fun name => if hidden name then blank else store name

@[simp]
theorem redact_of_visible {name : Name} (visible : hidden name = false) :
    redact hidden blank store name = store name := by
  simp [redact, visible]

@[simp]
theorem redact_of_hidden {name : Name} (isHidden : hidden name = true) :
    redact hidden blank store name = blank := by
  simp [redact, isHidden]

/-- Blanking hides exactly the difference between such stores. -/
theorem redact_eq_iff :
    redact hidden blank first = redact hidden blank second ↔ AgreeOutside hidden first second := by
  constructor
  · intro same name visible
    have atName := congrFun same name
    rwa [redact_of_visible visible, redact_of_visible visible] at atName
  · intro agree
    funext name
    cases shown : hidden name with
    | true => rw [redact_of_hidden shown, redact_of_hidden shown]
    | false => rw [redact_of_visible shown, redact_of_visible shown, agree name shown]

/-- A run that only fills hidden values into what the blanked store gives has, over
two such stores, one outcome that each of them fills in. -/
theorem exists_common_outcome {Admitted : (Name → Value) → Prop}
    (run : (Name → Value) → Except Failure Result) (fill : (Name → Value) → Result → Result)
    (factors : ∀ store, Admitted store →
      run store = (run (redact hidden blank store)).map (fill store))
    (agree : AgreeOutside hidden first second) (firstAdmitted : Admitted first)
    (secondAdmitted : Admitted second) :
    ∃ common : Except Failure Result,
      run first = common.map (fill first) ∧ run second = common.map (fill second) := by
  refine ⟨run (redact hidden blank first), factors first firstAdmitted, ?_⟩
  rw [redact_eq_iff.mpr agree]
  exact factors second secondAdmitted

end QuantGateway.Foundation
