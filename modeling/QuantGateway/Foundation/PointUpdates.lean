import QuantGateway.Foundation.Program
import Mathlib.Data.List.Nodup

/-!
Owns logs of updates that each change what is found under one key: what is found under a
key after a log depends on the updates of that key alone, so updates of distinct keys may
be made in any order.

Does not own where the state keeps what is found.
-/

namespace QuantGateway.Foundation

universe u v w x

/-- Updates of a state that change what is found under their own key, and only that. -/
structure PointUpdates (State : Type u) (Update : Type v) (K : Type w) (V : Type x)
    [DecidableEq K] where
  find : State → K → Option V
  target : Update → K
  apply : State → Update → State
  change : Option V → Update → V
  find_apply : ∀ state update key, find (apply state update) key =
    if target update = key then some (change (find state key) update) else find state key

namespace PointUpdates

variable {State : Type u} {Update : Type v} {K : Type w} {V : Type x} [DecidableEq K]
  (updates : PointUpdates State Update K V)

/-- The updates of a key. -/
def atKey (log : List Update) (key : K) : List Update :=
  log.filter fun update => updates.target update = key

/-- What is found under a key after a log is what the updates of the key make of it. -/
theorem find_foldl (log : List Update) (state : State) (key : K) :
    updates.find (log.foldl updates.apply state) key =
      (updates.atKey log key).foldl (fun found update => some (updates.change found update))
        (updates.find state key) := by
  induction log generalizing state with
  | nil => rfl
  | cons update rest inductionHypothesis =>
      rw [List.foldl_cons, inductionHypothesis, updates.find_apply]
      unfold atKey
      rw [List.filter_cons]
      by_cases same : updates.target update = key <;> simp [same]

/-- Logs with the same updates of a key leave the same under it. -/
theorem find_foldl_congr {log other : List Update} {key : K}
    (same : updates.atKey log key = updates.atKey other key) (state : State) :
    updates.find (log.foldl updates.apply state) key =
      updates.find (other.foldl updates.apply state) key := by
  rw [find_foldl, find_foldl, same]

theorem atKey_append (log more : List Update) (key : K) :
    updates.atKey (log ++ more) key = updates.atKey log key ++ updates.atKey more key :=
  List.filter_append ..

/-- Of updates with distinct keys at most one is of a key, wherever it stands. -/
theorem atKey_of_perm {log other : List Update} (permutation : log.Perm other)
    (distinct : (log.map updates.target).Nodup) (key : K) :
    updates.atKey log key = updates.atKey other key := by
  have filtered : (updates.atKey log key).Perm (updates.atKey other key) := permutation.filter _
  have single : (updates.atKey log key).length ≤ 1 := by
    have constant : (updates.atKey log key).map updates.target =
        List.replicate (updates.atKey log key).length key := by
      rw [List.map_eq_replicate_iff]
      intro update member
      simpa using (List.mem_filter.mp member).2
    have nodup : ((updates.atKey log key).map updates.target).Nodup :=
      distinct.sublist (List.filter_sublist.map _)
    rw [constant, List.nodup_replicate] at nodup
    exact nodup
  match shape : updates.atKey log key, single with
  | [], _ => rw [shape] at filtered; exact filtered.nil_eq
  | [update], _ => rw [shape] at filtered; exact filtered.singleton_eq

end PointUpdates

/-- Computing over a permuted list gives the permuted results. -/
theorem except_mapM_perm {Failure A B : Type} {compute : A → Except Failure B}
    {items others : List A} {results : List B} (permutation : items.Perm others)
    (ran : items.mapM compute = .ok results) :
    ∃ permuted, others.mapM compute = .ok permuted ∧ results.Perm permuted := by
  induction permutation generalizing results with
  | nil => exact ⟨results, ran, .refl _⟩
  | cons item _ inductionHypothesis =>
      rw [List.mapM_cons] at ran ⊢
      obtain ⟨result, here, ran⟩ := except_bind_ok ran
      obtain ⟨rest, there, ran⟩ := except_bind_ok ran
      cases ran
      obtain ⟨permuted, ranPermuted, isPerm⟩ := inductionHypothesis there
      refine ⟨result :: permuted, ?_, isPerm.cons result⟩
      rw [here, ranPermuted]
      rfl
  | swap item other rest =>
      simp only [List.mapM_cons] at ran ⊢
      obtain ⟨first, here, ran⟩ := except_bind_ok ran
      obtain ⟨tail, there, ran⟩ := except_bind_ok ran
      obtain ⟨second, hereToo, there⟩ := except_bind_ok there
      obtain ⟨last, rest, there⟩ := except_bind_ok there
      cases there
      cases ran
      refine ⟨second :: first :: last, ?_, .swap second first last⟩
      rw [here, hereToo, rest]
      rfl
  | trans _ _ inductionFirst inductionSecond =>
      obtain ⟨middle, ranMiddle, toMiddle⟩ := inductionFirst ran
      obtain ⟨permuted, ranPermuted, fromMiddle⟩ := inductionSecond ranMiddle
      exact ⟨permuted, ranPermuted, toMiddle.trans fromMiddle⟩

end QuantGateway.Foundation
