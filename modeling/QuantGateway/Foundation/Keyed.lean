import Mathlib.Data.List.Nodup
import Mathlib.Tactic.Common

/-!
Owns lists whose elements are told apart by a key: a search by key in a list
with distinct keys finds the one element that has it, and an upsert replaces that
element or appends a new one.
-/

namespace QuantGateway.Foundation

universe u v

variable {A : Type u} {K : Type v} {key : A → K} {rows : List A}

/-- Elements of a list with distinct keys are equal when their keys are. -/
theorem eq_of_key_eq (distinct : (rows.map key).Nodup) {first second : A}
    (firstMember : first ∈ rows) (secondMember : second ∈ rows)
    (same : key first = key second) : first = second :=
  (List.nodup_map_iff_inj_on distinct.of_map).mp distinct first firstMember second secondMember same

/-- An element with a new key may be appended. -/
theorem append_keys_nodup (distinct : (rows.map key).Nodup) {row : A}
    (fresh : key row ∉ rows.map key) : ((rows ++ [row]).map key).Nodup := by
  rw [List.map_append, List.map_singleton, ← List.concat_eq_append]
  exact distinct.concat fresh

/-- A search finds something where something is to be found. -/
theorem exists_find?_of_mem {search : A → Bool} {row : A} (member : row ∈ rows)
    (holds : search row = true) : ∃ found, rows.find? search = some found :=
  Option.isSome_iff_exists.mp (List.find?_isSome.mpr ⟨row, member, holds⟩)

variable [DecidableEq K]

theorem find?_key_of_mem (distinct : (rows.map key).Nodup) {row : A} (member : row ∈ rows) :
    (rows.find? fun other => key other = key row) = some row := by
  cases found : rows.find? fun other => key other = key row with
  | none =>
      rw [List.find?_eq_none] at found
      have missed := found row member
      simp at missed
  | some other =>
      have holds : key other = key row := by simpa using List.find?_some found
      rw [eq_of_key_eq distinct (List.mem_of_find?_eq_some found) member holds]

theorem mem_of_find?_key {value : K} {row : A}
    (found : (rows.find? fun other => key other = value) = some row) :
    row ∈ rows ∧ key row = value :=
  ⟨List.mem_of_find?_eq_some found, by simpa using List.find?_some found⟩

/-- A search by key finds the one element with the key, or nothing because there is
none. -/
theorem find?_key_cases (distinct : (rows.map key).Nodup) (value : K) :
    (∃ row, (rows.find? fun other => key other = value) = some row ∧
      ∀ other ∈ rows, key other = value → other = row) ∨
    ((rows.find? fun other => key other = value) = none ∧ ∀ other ∈ rows, key other ≠ value) := by
  cases found : rows.find? fun other => key other = value with
  | none =>
      refine .inr ⟨rfl, fun other member => ?_⟩
      simpa using List.find?_eq_none.mp found other member
  | some row =>
      obtain ⟨inRows, here⟩ := mem_of_find?_key found
      exact .inl ⟨row, rfl, fun other member same =>
        eq_of_key_eq distinct member inRows (same.trans here.symm)⟩

/-! ## Upserts -/

/-- Replace the element with the key of a row, or append the row. -/
def upsert (key : A → K) (row : A) (rows : List A) : List A :=
  if key row ∈ rows.map key then rows.map fun other => if key other = key row then row else other
  else rows ++ [row]

theorem mem_upsert {row other : A} (member : other ∈ upsert key row rows) :
    other = row ∨ other ∈ rows := by
  unfold upsert at member
  split at member
  next =>
    obtain ⟨source, inRows, rfl⟩ := List.mem_map.mp member
    split
    · exact .inl rfl
    · exact .inr inRows
  next =>
    rcases List.mem_append.mp member with inRows | last
    · exact .inr inRows
    · exact .inl (List.mem_singleton.mp last)

theorem self_mem_upsert (row : A) (rows : List A) : row ∈ upsert key row rows := by
  unfold upsert
  split
  next present =>
    obtain ⟨old, inRows, same⟩ := List.mem_map.mp present
    exact List.mem_map.mpr ⟨old, inRows, if_pos same⟩
  next => exact List.mem_append_right _ (List.mem_singleton_self _)

/-- A row with another key is left as it is. -/
theorem mem_upsert_of_ne {row other : A} (member : other ∈ rows) (apart : key other ≠ key row) :
    other ∈ upsert key row rows := by
  unfold upsert
  split
  next => exact List.mem_map.mpr ⟨other, member, if_neg apart⟩
  next => exact List.mem_append_left _ member

/-- An upsert keeps the keys and their order, and adds a new one last. -/
theorem upsert_keys (row : A) :
    (upsert key row rows).map key =
      if key row ∈ rows.map key then rows.map key else rows.map key ++ [key row] := by
  unfold upsert
  split
  next =>
    rw [List.map_map]
    apply List.map_congr_left
    intro other _
    simp only [Function.comp_apply]
    split
    next same => exact same.symm
    next => rfl
  next => rw [List.map_append, List.map_singleton]

theorem mem_upsert_keys {row : A} {value : K} :
    value ∈ (upsert key row rows).map key ↔ value ∈ rows.map key ∨ value = key row := by
  rw [upsert_keys]
  by_cases present : key row ∈ rows.map key
  · rw [if_pos present]
    constructor
    · exact .inl
    · rintro (member | rfl)
      · exact member
      · exact present
  · rw [if_neg present, List.mem_append, List.mem_singleton]

theorem upsert_keys_nodup (distinct : (rows.map key).Nodup) (row : A) :
    ((upsert key row rows).map key).Nodup := by
  by_cases present : key row ∈ rows.map key
  · rw [upsert_keys, if_pos present]
    exact distinct
  · unfold upsert
    rw [if_neg present]
    exact append_keys_nodup distinct present

/-- A search by key finds the upserted row under its key. -/
theorem find?_upsert (row : A) (rows : List A) (value : K) :
    ((upsert key row rows).find? fun other => key other = value) =
      if key row = value then some row else rows.find? fun other => key other = value := by
  unfold upsert
  split
  next present =>
    have sameKey : ((fun other => decide (key other = value)) ∘
          fun other => if key other = key row then row else other) =
        fun other => decide (key other = value) := by
      funext other
      simp only [Function.comp_apply]
      split
      next same => rw [same]
      next => rfl
    rw [List.find?_map, sameKey]
    by_cases isValue : key row = value
    · obtain ⟨other, member, same⟩ := List.mem_map.mp present
      obtain ⟨first, isFirst⟩ : ∃ first,
          (rows.find? fun other => key other = value) = some first :=
        exists_find?_of_mem member (decide_eq_true (same.trans isValue))
      obtain ⟨-, firstKey⟩ := mem_of_find?_key isFirst
      rw [if_pos isValue, isFirst, Option.map_some, if_pos (firstKey.trans isValue.symm)]
    · rw [if_neg isValue]
      cases isFirst : rows.find? fun other => key other = value with
      | none => rfl
      | some first =>
          obtain ⟨-, firstKey⟩ := mem_of_find?_key isFirst
          rw [Option.map_some, if_neg fun same => isValue (same.symm.trans firstKey)]
  next absent =>
    rw [List.find?_append, List.find?_singleton]
    by_cases isValue : key row = value
    · have missing : (rows.find? fun other => key other = value) = none := by
        rw [List.find?_eq_none]
        intro other member same
        have shared : key other = value := by simpa using same
        exact absent (List.mem_map.mpr ⟨other, member, shared.trans isValue.symm⟩)
      simp [missing, isValue]
    · simp [isValue]

end QuantGateway.Foundation
