import Mathlib.Logic.Basic

/-!
Owns `std::unordered_map` as its lookups see it: what a key is mapped to, and how
`emplace` and `insert_or_assign` differ on a key that is present.

Does not own iteration, for which the container promises no order.
-/

namespace QuantGateway.Foundation

universe u v

/-- An unordered map, by the result of a lookup. -/
structure UnorderedMap (K : Type u) (V : Type v) where
  lookup : K → Option V

namespace UnorderedMap

variable {K : Type u} {V : Type v}

def empty : UnorderedMap K V where
  lookup := fun _ => none

@[simp] theorem lookup_empty (key : K) : (empty : UnorderedMap K V).lookup key = none := rfl

variable [DecidableEq K]

/-- Map a key that is absent; a key that is present keeps its value. -/
def emplace (map : UnorderedMap K V) (key : K) (value : V) : UnorderedMap K V where
  lookup := fun other => if other = key then (map.lookup key).or (some value) else map.lookup other

/-- Map a key whether it is present or not. -/
def insertOrAssign (map : UnorderedMap K V) (key : K) (value : V) : UnorderedMap K V where
  lookup := fun other => if other = key then some value else map.lookup other

theorem lookup_emplace (map : UnorderedMap K V) (key other : K) (value : V) :
    (map.emplace key value).lookup other =
      if other = key then (map.lookup key).or (some value) else map.lookup other := rfl

theorem lookup_insertOrAssign (map : UnorderedMap K V) (key other : K) (value : V) :
    (map.insertOrAssign key value).lookup other =
      if other = key then some value else map.lookup other := rfl

end UnorderedMap

end QuantGateway.Foundation
