import Mathlib.Data.Fintype.Card
import Mathlib.Algebra.BigOperators.Group.Finset.Piecewise

/-!
Owns counting how often a finite family takes one value, and how the count
moves when one member or a whole class of members changes its value. Thread
pools use it: the family is the phase of every thread.
-/

namespace QuantGateway.Foundation

universe u v

variable {Index : Type u} {Value : Type v} [Fintype Index] [DecidableEq Value]

/-- The number of members of the family whose value is `value`. -/
def census (family : Index → Value) (value : Value) : Nat :=
  (Finset.univ.filter fun index => family index = value).card

/-- The census as a sum of one indicator a member. -/
theorem census_eq_sum (family : Index → Value) (value : Value) :
    census family value = ∑ index, if family index = value then 1 else 0 := by
  rw [census, Finset.card_filter]

/-- Some member has the value exactly when its count is positive. -/
theorem census_pos {family : Index → Value} {value : Value} :
    0 < census family value ↔ ∃ index, family index = value := by
  simp [census, Finset.card_pos, Finset.Nonempty]

variable [DecidableEq Index]

/-- Changing one member moves one count down and one up. -/
theorem census_update (family : Index → Value) (index : Index) (value other : Value) :
    census (Function.update family index other) value + (if family index = value then 1 else 0) =
      census family value + (if other = value then 1 else 0) := by
  have split : ∀ members : Index → Value,
      census members value = (if members index = value then 1 else 0) +
        ∑ rest ∈ Finset.univ.erase index, if members rest = value then 1 else 0 := by
    intro members
    rw [census_eq_sum]
    exact (Finset.add_sum_erase _ _ (Finset.mem_univ index)).symm
  have same :
      (∑ rest ∈ Finset.univ.erase index,
        if Function.update family index other rest = value then 1 else 0) =
      ∑ rest ∈ Finset.univ.erase index, if family rest = value then 1 else 0 := by
    refine Finset.sum_congr rfl fun rest member => ?_
    rw [Function.update_of_ne (Finset.ne_of_mem_erase member)]
  rw [split (Function.update family index other), split family, same, Function.update_self]
  omega

/-- A member that leaves one value for another lowers the first count by one. -/
theorem census_update_leaves {family : Index → Value} {index : Index} {value other : Value}
    (here : family index = value) (leaves : other ≠ value) :
    census (Function.update family index other) value + 1 = census family value := by
  simpa [here, leaves] using census_update family index value other

/-- A member that arrives at a value from another raises the count by one. -/
theorem census_update_arrives {family : Index → Value} {index : Index} {value : Value}
    (elsewhere : family index ≠ value) :
    census (Function.update family index value) value = census family value + 1 := by
  simpa [elsewhere] using census_update family index value value

/-- A member that neither leaves nor arrives at a value keeps its count. -/
theorem census_update_other {family : Index → Value} {index : Index} {value other : Value}
    (elsewhere : family index ≠ value) (passes : other ≠ value) :
    census (Function.update family index other) value = census family value := by
  simpa [elsewhere, passes] using census_update family index value other

end QuantGateway.Foundation
