import QuantGateway.Foundation.Keyed
import Mathlib.Data.List.Induction

/-!
Owns logs of writes to keyed rows: a write sets some columns of every row with its
key, so after a log each row shows the last write to its key, and rows that show
it already are left as they are when the log is written once more.

Does not own what made the rows; `Settled` is kept by writes and by appended rows.
-/

namespace QuantGateway.Foundation

universe u v w

/-- How writes change rows: a write leaves the key and covers an earlier one. -/
structure Writes (Row : Type u) (W : Type v) (K : Type w) where
  key : Row → K
  target : W → K
  apply : W → Row → Row
  key_apply : ∀ {write row}, key row = target write → key (apply write row) = target write
  apply_apply : ∀ {write earlier row}, target earlier = target write → key row = target write →
    apply write (apply earlier row) = apply write row

/-! ## The part of a log for one table -/

section Selection

variable {A : Type u} {B : Type v} {select : A → Option B} {items : List A} {item : A}

theorem filterMap_snoc_none (skipped : select item = none) :
    (items ++ [item]).filterMap select = items.filterMap select := by
  rw [List.filterMap_append, List.filterMap_cons_none skipped, List.filterMap_nil,
    List.append_nil]

theorem filterMap_snoc_some {value : B} (selected : select item = some value) :
    (items ++ [item]).filterMap select = items.filterMap select ++ [value] := by
  rw [List.filterMap_append, List.filterMap_cons_some selected, List.filterMap_nil]

end Selection

namespace Writes

variable {Row : Type u} {W : Type v} {K : Type w} [DecidableEq K] (writes : Writes Row W K)

/-- One write to all rows with its key. -/
def overwrite (rows : List Row) (write : W) : List Row :=
  rows.map fun row => if writes.key row = writes.target write then writes.apply write row else row

/-- The last write to a key. -/
def last (log : List W) (key : K) : Option W :=
  log.reverse.find? fun write => writes.target write = key

/-- A row with the last write to its key. -/
def settle (log : List W) (row : Row) : Row :=
  match writes.last log (writes.key row) with
  | none => row
  | some write => writes.apply write row

/-- Every row shows the last write to its key. -/
def Settled (log : List W) (rows : List Row) : Prop :=
  ∀ row ∈ rows, writes.settle log row = row

variable {writes}

theorem last_snoc (log : List W) (write : W) (key : K) :
    writes.last (log ++ [write]) key =
      if writes.target write = key then some write else writes.last log key := by
  unfold last
  rw [List.reverse_append, List.reverse_singleton, List.singleton_append, List.find?_cons]
  by_cases same : writes.target write = key
  · simp [same]
  · simp [same]

theorem target_last {log : List W} {key : K} {write : W}
    (found : writes.last log key = some write) : writes.target write = key := by
  simpa using List.find?_some found

theorem settle_snoc_of_ne {log : List W} {write : W} {row : Row}
    (other : writes.key row ≠ writes.target write) :
    writes.settle (log ++ [write]) row = writes.settle log row := by
  unfold settle
  rw [last_snoc, if_neg other.symm]

theorem settle_snoc_of_eq {log : List W} {write : W} {row : Row}
    (same : writes.key row = writes.target write) :
    writes.settle (log ++ [write]) row = writes.apply write row := by
  unfold settle
  rw [last_snoc, if_pos same.symm]

theorem key_settle (log : List W) (row : Row) :
    writes.key (writes.settle log row) = writes.key row := by
  unfold settle
  split
  next => rfl
  next write found =>
    have target := target_last found
    exact (writes.key_apply target.symm).trans target

/-- A write covers whatever the row showed before. -/
theorem apply_settle {log : List W} {write : W} {row : Row}
    (same : writes.key row = writes.target write) :
    writes.apply write (writes.settle log row) = writes.apply write row := by
  unfold settle
  split
  next => rfl
  next earlier found => exact writes.apply_apply ((target_last found).trans same) same

/-! ## A log is its last writes -/

theorem foldl_overwrite (log : List W) (rows : List Row) :
    log.foldl writes.overwrite rows = rows.map (writes.settle log) := by
  induction log using List.reverseRecOn with
  | nil => exact (List.map_id rows).symm
  | append_singleton log write inductionHypothesis =>
      rw [List.foldl_append, inductionHypothesis, List.foldl_cons, List.foldl_nil, overwrite,
        List.map_map]
      apply List.map_congr_left
      intro row _
      simp only [Function.comp_apply, key_settle]
      by_cases same : writes.key row = writes.target write
      · rw [if_pos same, settle_snoc_of_eq same, apply_settle same]
      · rw [if_neg same, settle_snoc_of_ne same]

/-- Writing the log once more changes nothing. -/
theorem Settled.foldl_overwrite {log : List W} {rows : List Row}
    (settled : writes.Settled log rows) : log.foldl writes.overwrite rows = rows := by
  rw [Writes.foldl_overwrite]
  exact (List.map_congr_left settled).trans (List.map_id rows)

/-! ## What keeps rows settled -/

theorem Settled.nil (rows : List Row) : writes.Settled [] rows :=
  fun _ _ => rfl

theorem Settled.overwrite {log : List W} {rows : List Row} (settled : writes.Settled log rows)
    (write : W) : writes.Settled (log ++ [write]) (writes.overwrite rows write) := by
  intro row member
  obtain ⟨source, inRows, rfl⟩ := List.mem_map.mp member
  by_cases same : writes.key source = writes.target write
  · rw [if_pos same, settle_snoc_of_eq (writes.key_apply same), writes.apply_apply rfl same]
  · rw [if_neg same, settle_snoc_of_ne same]
    exact settled source inRows

/-- A new row that shows its write. -/
theorem Settled.append {log : List W} {rows : List Row} (settled : writes.Settled log rows)
    {write : W} {row : Row} (fresh : writes.target write ∉ rows.map writes.key)
    (keyed : writes.key row = writes.target write) (shown : writes.apply write row = row) :
    writes.Settled (log ++ [write]) (rows ++ [row]) := by
  intro other member
  rcases List.mem_append.mp member with old | new
  · have apart : writes.key other ≠ writes.target write := by
      intro same
      exact fresh (same ▸ List.mem_map_of_mem old)
    rw [settle_snoc_of_ne apart]
    exact settled other old
  · obtain rfl := List.mem_singleton.mp new
    rw [settle_snoc_of_eq keyed, shown]

end Writes

/-! ## Upserts as writes -/

variable {Row : Type u} {K : Type w}

/-- A row written over the row with its key. -/
def rowWrites (key : Row → K) : Writes Row Row K where
  key := key
  target := key
  apply := fun write _ => write
  key_apply := fun _ => rfl
  apply_apply := fun _ _ => rfl

variable [DecidableEq K] {key : Row → K}

theorem upsert_eq_overwrite {row : Row} {rows : List Row} (known : key row ∈ rows.map key) :
    upsert key row rows = (rowWrites key).overwrite rows row :=
  if_pos known

theorem Writes.Settled.upsert {log rows : List Row} (settled : (rowWrites key).Settled log rows)
    (row : Row) : (rowWrites key).Settled (log ++ [row]) (Foundation.upsert key row rows) := by
  by_cases known : key row ∈ rows.map key
  · rw [upsert_eq_overwrite known]
    exact settled.overwrite row
  · unfold Foundation.upsert
    rw [if_neg known]
    exact settled.append known rfl rfl

/-- Upserting a log of known keys once more changes nothing. -/
theorem Writes.Settled.foldl_upsert {log rows : List Row}
    (settled : (rowWrites key).Settled log rows) (known : ∀ row ∈ log, key row ∈ rows.map key) :
    log.foldl (fun rows row => Foundation.upsert key row rows) rows = rows := by
  have overwrites (rest : List Row) (middle : List Row)
      (present : ∀ row ∈ rest, key row ∈ middle.map key) :
      rest.foldl (fun rows row => Foundation.upsert key row rows) middle =
        rest.foldl (rowWrites key).overwrite middle := by
    induction rest generalizing middle with
    | nil => rfl
    | cons row rest inductionHypothesis =>
        rw [List.foldl_cons, List.foldl_cons, ← upsert_eq_overwrite (present row (.head _))]
        refine inductionHypothesis _ fun other member => ?_
        exact mem_upsert_keys.mpr (.inl (present other (.tail _ member)))
  rw [overwrites log rows known]
  exact settled.foldl_overwrite

end QuantGateway.Foundation
