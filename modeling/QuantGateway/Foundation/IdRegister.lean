import QuantGateway.Foundation.Keyed

/-!
Owns registers that give names their ids from a sequence inside transactions: what
is committed, what the open transaction sees, and the last id given, which no
rollback takes back.

A committed name keeps its id for ever, and an id never belongs to two names, not
even at different times. Does not own how a name is looked up.
-/

namespace QuantGateway.Foundation

universe u

variable {Name : Type u}

structure IdRegister (Name : Type u) where
  committed : List (Name × Int)
  working : List (Name × Int)
  last : Int

namespace IdRegister

variable {register first middle later : IdRegister Name} {name : Name}

/-- A value of the sequence is used up. -/
def skip (register : IdRegister Name) : IdRegister Name :=
  { register with last := register.last + 1 }

/-- A name gets the next id. -/
def issue (register : IdRegister Name) (name : Name) : IdRegister Name :=
  { register with
    working := register.working ++ [(name, register.last + 1)]
    last := register.last + 1 }

def commit (register : IdRegister Name) : IdRegister Name :=
  { register with committed := register.working }

def rollback (register : IdRegister Name) : IdRegister Name :=
  { register with working := register.committed }

/-! ## The invariant -/

structure Sound (register : IdRegister Name) : Prop where
  names : (register.working.map Prod.fst).Nodup
  ids : (register.working.map Prod.snd).Nodup
  kept : register.committed.Sublist register.working
  issued : ∀ entry ∈ register.working, entry.2 ≤ register.last

theorem Sound.skip (sound : register.Sound) : register.skip.Sound where
  names := sound.names
  ids := sound.ids
  kept := sound.kept
  issued entry member := Int.le_trans (sound.issued entry member) (Int.le_add_one (Int.le_refl _))

theorem Sound.issue (sound : register.Sound) (fresh : name ∉ register.working.map Prod.fst) :
    (register.issue name).Sound where
  names := append_keys_nodup sound.names fresh
  ids := by
    apply append_keys_nodup sound.ids
    intro taken
    obtain ⟨entry, member, same⟩ := List.mem_map.mp taken
    have bound := sound.issued entry member
    omega
  kept := sound.kept.trans (List.sublist_append_left _ _)
  issued := by
    intro entry member
    rcases List.mem_append.mp member with old | new
    · exact Int.le_trans (sound.issued entry old) (Int.le_add_one (Int.le_refl _))
    · exact List.mem_singleton.mp new ▸ Int.le_refl _

theorem Sound.commit (sound : register.Sound) : register.commit.Sound :=
  { sound with kept := List.Sublist.refl _ }

theorem Sound.rollback (sound : register.Sound) : register.rollback.Sound where
  names := sound.names.sublist (sound.kept.map _)
  ids := sound.ids.sublist (sound.kept.map _)
  kept := List.Sublist.refl _
  issued entry member := sound.issued entry (sound.kept.subset member)

/-! ## Evolution -/

/-- What any number of steps may do: nothing committed is lost, and a name without
an id so far gets one the sequence has not given yet. -/
structure Evolves (before after : IdRegister Name) : Prop where
  kept : before.committed.Sublist after.committed
  sequence : before.last ≤ after.last
  fresh : ∀ entry ∈ after.working, entry ∈ before.working ∨ before.last < entry.2

theorem Evolves.refl (register : IdRegister Name) : register.Evolves register where
  kept := List.Sublist.refl _
  sequence := Int.le_refl _
  fresh _ := .inl

theorem Evolves.trans (here : first.Evolves middle) (there : middle.Evolves later) :
    first.Evolves later where
  kept := here.kept.trans there.kept
  sequence := Int.le_trans here.sequence there.sequence
  fresh := by
    intro entry member
    rcases there.fresh entry member with known | new
    · exact here.fresh entry known
    · exact .inr (Int.lt_of_le_of_lt here.sequence new)

theorem evolves_skip (register : IdRegister Name) : register.Evolves register.skip where
  kept := List.Sublist.refl _
  sequence := Int.le_add_one (Int.le_refl _)
  fresh _ := .inl

theorem evolves_issue (register : IdRegister Name) (name : Name) :
    register.Evolves (register.issue name) where
  kept := List.Sublist.refl _
  sequence := Int.le_add_one (Int.le_refl _)
  fresh := by
    intro entry member
    rcases List.mem_append.mp member with old | new
    · exact .inl old
    · exact .inr (List.mem_singleton.mp new ▸ Int.lt_succ _)

theorem Sound.evolves_commit (sound : register.Sound) : register.Evolves register.commit where
  kept := sound.kept
  sequence := Int.le_refl _
  fresh _ := .inl

theorem Sound.evolves_rollback (sound : register.Sound) :
    register.Evolves register.rollback where
  kept := List.Sublist.refl _
  sequence := Int.le_refl _
  fresh _ member := .inl (sound.kept.subset member)

/-! ## What holds for ever -/

/-- An id tells its name, now and later. -/
theorem Evolves.eq_of_id (evolves : first.Evolves later) (sound : first.Sound)
    {entry other : Name × Int} (member : entry ∈ first.working)
    (laterMember : other ∈ later.working) (same : entry.2 = other.2) : entry = other := by
  rcases evolves.fresh other laterMember with known | new
  · exact eq_of_key_eq sound.ids member known same
  · have bound := sound.issued entry member
    omega

/-- A committed name keeps its id. -/
theorem Evolves.eq_of_name (evolves : first.Evolves later) (sound : later.Sound)
    {entry other : Name × Int} (member : entry ∈ first.committed)
    (laterMember : other ∈ later.working) (same : entry.1 = other.1) : entry = other :=
  eq_of_key_eq sound.names (sound.kept.subset (evolves.kept.subset member)) laterMember same

end IdRegister

end QuantGateway.Foundation
