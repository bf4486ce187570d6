import Mathlib.Data.List.Basic
import Mathlib.Data.List.TakeWhile

/-!
Owns histories that bring things in until something in them shuts the gate: what has
entered after a history, and what one more label adds to it.

Does not own what becomes of the things that have entered.
-/

namespace QuantGateway.Foundation

universe u v

variable {Label : Type u} {T : Type v}

/-- What a history brings before the first label that shuts the gate. -/
def admitted (offer : Label → Option T) (shuts : Label → Bool) (labels : List Label) : List T :=
  (labels.takeWhile fun label => !shuts label).filterMap offer

/-- What has entered after a history, and whether the gate is shut. -/
structure Gated (offer : Label → Option T) (shuts : Label → Bool) (past : List Label)
    (entered : List T) (shut : Bool) : Prop where
  entered : entered = admitted offer shuts past
  shut : shut = past.any shuts

variable {offer : Label → Option T} {shuts : Label → Bool} {past : List Label} {label : Label}

theorem admitted_sublist (labels : List Label) :
    (admitted offer shuts labels).Sublist (labels.filterMap offer) :=
  (List.takeWhile_sublist _).filterMap offer

/-- Behind a shut gate nothing is added. -/
theorem admitted_snoc_shut (isShut : past.any shuts = true) :
    admitted offer shuts (past ++ [label]) = admitted offer shuts past := by
  obtain ⟨shutter, member, shutsIt⟩ := List.any_eq_true.mp isShut
  have stops : (past.takeWhile fun label => !shuts label).length ≠ past.length := by
    intro whole
    have all := List.takeWhile_eq_self_iff.mp
      ((List.takeWhile_prefix _).eq_of_length whole) shutter member
    simp [shutsIt] at all
  rw [admitted, List.takeWhile_append, if_neg stops]
  rfl

/-- Through an open gate the label brings what it offers, unless it shuts the gate. -/
theorem admitted_snoc_open (isOpen : past.any shuts = false) :
    admitted offer shuts (past ++ [label]) =
      admitted offer shuts past ++ if shuts label then [] else (offer label).toList := by
  have whole : (past.takeWhile fun label => !shuts label) = past := by
    rw [List.takeWhile_eq_self_iff]
    intro other member
    simpa using List.any_eq_false.mp isOpen other member
  rw [admitted, admitted, List.takeWhile_append, whole, if_pos rfl, List.filterMap_append]
  cases shutsIt : shuts label with
  | true => simp [shutsIt]
  | false => cases offered : offer label <;> simp [shutsIt, offered]

namespace Gated

variable {entered : List T} {shut : Bool}

theorem make : Gated offer shuts [] [] false := ⟨rfl, rfl⟩

private theorem shut_snoc (gated : Gated offer shuts past entered shut) :
    (past ++ [label]).any shuts = (shut || shuts label) := by
  rw [List.any_append, ← gated.shut, List.any_cons, List.any_nil, Bool.or_false]

/-- A label that offers nothing leaves an open gate open. -/
theorem idle (gated : Gated offer shuts past entered shut) (none : offer label = none)
    (leaves : shuts label = false) : Gated offer shuts (past ++ [label]) entered shut := by
  refine ⟨?_, by rw [gated.shut_snoc, leaves, Bool.or_false]⟩
  cases isShut : past.any shuts with
  | true => rw [admitted_snoc_shut isShut, gated.entered]
  | false => simp [admitted_snoc_open isShut, gated.entered, none]

/-- What an open gate is offered enters. -/
theorem enter (gated : Gated offer shuts past entered false) {item : T}
    (offered : offer label = some item) (leaves : shuts label = false) :
    Gated offer shuts (past ++ [label]) (entered ++ [item]) false := by
  refine ⟨?_, by rw [gated.shut_snoc, leaves, Bool.or_false]⟩
  rw [admitted_snoc_open gated.shut.symm, gated.entered, leaves, offered]
  rfl

/-- A shut gate stays shut and lets nothing in. -/
theorem refuse (gated : Gated offer shuts past entered true) :
    Gated offer shuts (past ++ [label]) entered true := by
  refine ⟨?_, by rw [gated.shut_snoc, Bool.true_or]⟩
  rw [admitted_snoc_shut gated.shut.symm, gated.entered]

theorem close (gated : Gated offer shuts past entered shut) (closes : shuts label = true) :
    Gated offer shuts (past ++ [label]) entered true := by
  refine ⟨?_, by rw [gated.shut_snoc, closes, Bool.or_true]⟩
  cases isShut : past.any shuts with
  | true => rw [admitted_snoc_shut isShut, gated.entered]
  | false => simp [admitted_snoc_open isShut, gated.entered, closes]

end Gated

end QuantGateway.Foundation
