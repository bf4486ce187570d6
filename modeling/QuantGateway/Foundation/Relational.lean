import QuantGateway.Foundation.Keyed
import Mathlib.Data.List.Sort

/-!
Owns the relational operators of standard SQL over tables given as lists of rows:
inner and left joins and `ORDER BY`. A join on a unique column of its right side
is a lookup, so it can neither repeat nor, when it is a left join, lose a row.

Does not own the order of rows that compare equal, which SQL leaves open.
-/

namespace QuantGateway.Foundation

universe u v w

variable {A : Type u} {B : Type v} {K : Type w}

/-- `left JOIN right ON matches`. -/
def innerJoin (matching : A → B → Bool) (left : List A) (right : List B) : List (A × B) :=
  left.flatMap fun row => (right.filter (matching row)).map fun other => (row, other)

/-- `left LEFT JOIN right ON matches`. -/
def leftJoin (matching : A → B → Bool) (left : List A) (right : List B) : List (A × Option B) :=
  left.flatMap fun row =>
    match right.filter (matching row) with
    | [] => [(row, none)]
    | found => found.map fun other => (row, some other)

/-- `ORDER BY column`. -/
def orderBy (column : A → Int) (rows : List A) : List A :=
  rows.insertionSort fun first second => column first ≤ column second

/-! ## Joins on a unique column -/

variable [DecidableEq K]

theorem filter_key {column : B → K} {rows : List B} (distinct : (rows.map column).Nodup)
    (value : K) :
    rows.filter (fun row => column row = value) =
      (rows.find? fun row => column row = value).toList := by
  induction rows with
  | nil => rfl
  | cons row rest inductionHypothesis =>
      rw [List.map_cons, List.nodup_cons] at distinct
      obtain ⟨fresh, restDistinct⟩ := distinct
      rw [List.filter_cons, List.find?_cons]
      by_cases here : column row = value
      · have noMore : rest.filter (fun row => column row = value) = [] := by
          rw [List.filter_eq_nil_iff]
          intro other member same
          have shared : column other = value := by simpa using same
          exact fresh (List.mem_map.mpr ⟨other, member, shared.trans here.symm⟩)
        simp [here, noMore]
      · simpa [here] using inductionHypothesis restDistinct

theorem innerJoin_key {column : B → K} {right : List B} (distinct : (right.map column).Nodup)
    (foreign : A → K) (left : List A) :
    innerJoin (fun row other => column other = foreign row) left right =
      left.filterMap fun row =>
        (right.find? fun other => column other = foreign row).map fun other => (row, other) := by
  unfold innerJoin
  induction left with
  | nil => rfl
  | cons row rest inductionHypothesis =>
      rw [List.flatMap_cons, List.filterMap_cons, inductionHypothesis, filter_key distinct]
      cases right.find? fun other => column other = foreign row <;> rfl

theorem leftJoin_key {column : B → K} {right : List B} (distinct : (right.map column).Nodup)
    (foreign : A → K) (left : List A) :
    leftJoin (fun row other => column other = foreign row) left right =
      left.map fun row => (row, right.find? fun other => column other = foreign row) := by
  unfold leftJoin
  induction left with
  | nil => rfl
  | cons row rest inductionHypothesis =>
      rw [List.flatMap_cons, List.map_cons, inductionHypothesis, filter_key distinct]
      cases right.find? fun other => column other = foreign row <;> rfl

/-! ## Order -/

theorem orderBy_perm (column : A → Int) (rows : List A) : (orderBy column rows).Perm rows :=
  List.perm_insertionSort _ rows

theorem orderBy_map (column : B → Int) (edit : A → B) (rows : List A) :
    orderBy column (rows.map edit) = (orderBy (fun row => column (edit row)) rows).map edit := by
  symm
  apply List.map_insertionSort
  intro first _ second _
  rfl

/-- Ordering by a unique column gives strictly increasing values. -/
theorem orderBy_increasing {column : A → Int} {rows : List A}
    (distinct : (rows.map column).Nodup) :
    ((orderBy column rows).map column).Pairwise (· < ·) := by
  have ordered : ((orderBy column rows).map column).Pairwise (· ≤ ·) := by
    rw [List.pairwise_map]
    exact List.pairwise_insertionSort _ rows
  have distinctOrdered : ((orderBy column rows).map column).Nodup :=
    ((orderBy_perm column rows).map column).nodup_iff.mpr distinct
  exact (ordered.and distinctOrdered).imp fun ⟨le, ne⟩ => lt_of_le_of_ne le ne

end QuantGateway.Foundation
