import Mathlib.Logic.Function.Basic

/-!
# Two tables that are inverse to each other

A table of owners and a table of belongings describe one pairing when each is the inverse of the
other.  The tables are written one entry at a time, and for every such write it is said exactly
when the two are still inverse afterwards.
-/

namespace AgentGrid.Lib

open Function

variable {α β : Type}

def Inverse (owner : α → Option β) (belonging : β → Option α) : Prop :=
  ∀ a b, owner a = some b ↔ belonging b = some a

namespace Inverse

variable {owner : α → Option β} {belonging : β → Option α} {a : α} {b c : β}

theorem unique (inverse : Inverse owner belonging) (first : belonging b = some a)
    (second : belonging c = some a) : b = c :=
  Option.some.inj (((inverse a b).mpr first).symm.trans ((inverse a c).mpr second))

theorem forget_iff [DecidableEq β] (inverse : Inverse owner belonging) (b : β) :
    Inverse owner (Function.update belonging b none) ↔ belonging b = none := by
  constructor
  · intro after
    cases held : belonging b with
    | none => rfl
    | some a =>
      have gone := (after a b).mp ((inverse a b).mpr held)
      rw [update_self] at gone
      cases gone
  · intro free
    rwa [← free, update_eq_self]

theorem point_iff [DecidableEq β] (inverse : Inverse owner belonging) (a : α) (b : β) :
    Inverse owner (Function.update belonging b (some a)) ↔ belonging b = some a := by
  constructor
  · intro after
    exact (inverse a b).mp ((after a b).mpr (update_self b _ belonging))
  · intro held
    rwa [← held, update_eq_self]

/-- Both entries are written: both must have been free, or as they are now. -/
theorem link_iff [DecidableEq α] [DecidableEq β] (inverse : Inverse owner belonging) (a : α) (b : β) :
    Inverse (Function.update owner a (some b)) (Function.update belonging b (some a)) ↔
      owner a = none ∧ belonging b = none ∨ belonging b = some a := by
  constructor
  · intro after
    cases held : belonging b with
    | some x =>
      right
      have owned := (inverse x b).mpr held
      by_cases same : x = a
      · rw [same]
      have kept := (after x b).mp (by rw [update_of_ne same, owned])
      rw [update_self] at kept
      exact kept.symm
    | none =>
      left
      refine ⟨?_, rfl⟩
      cases owned : owner a with
      | none => rfl
      | some y =>
        have belongs := (inverse a y).mp owned
        have other : y ≠ b := by
          rintro rfl
          cases held.symm.trans belongs
        have now := (after a y).mpr (by rw [update_of_ne other, belongs])
        rw [update_self] at now
        exact absurd (Option.some.inj now).symm other
  · rintro (⟨free, unheld⟩ | held)
    · intro x y
      by_cases hx : x = a <;> by_cases hy : y = b
      · subst hx hy
        simp
      · subst hx
        rw [update_self, update_of_ne hy, ← inverse x y, free]
        simp [Ne.symm hy]
      · subst hy
        rw [update_self, update_of_ne hx, inverse x y, unheld]
        simp [Ne.symm hx]
      · rw [update_of_ne hx, update_of_ne hy]
        exact inverse x y
    · rwa [← held, ← (inverse a b).mpr held, update_eq_self, update_eq_self]

theorem unlink [DecidableEq α] [DecidableEq β] (inverse : Inverse owner belonging) (held : belonging b = some a) :
    Inverse (Function.update owner a none) (Function.update belonging b none) := by
  intro x y
  by_cases hx : x = a
  · subst hx
    rw [update_self]
    by_cases hy : y = b
    · subst hy
      simp
    rw [update_of_ne hy]
    simp only [reduceCtorEq, false_iff]
    exact fun belongs => hy (inverse.unique belongs held)
  rw [update_of_ne hx]
  by_cases hy : y = b
  · subst hy
    rw [update_self, inverse x y, held]
    simp [Ne.symm hx]
  · rw [update_of_ne hy]
    exact inverse x y

/-- An entry is pointed to a new owner that nobody else has, and its old one is freed. -/
theorem move [DecidableEq α] [DecidableEq β] (inverse : Inverse owner belonging)
    (apart : ∀ other, belonging other = some a → other = b) :
    Inverse (Function.update ((belonging b).elim owner fun old => Function.update owner old none) a (some b))
      (Function.update belonging b (some a)) := by
  intro x y
  have before := inverse x y
  have own := inverse x b
  cases held : belonging b <;> simp only [Option.elim, update_apply] <;> grind

end Inverse

end AgentGrid.Lib
