import Mathlib.Data.List.Nodup
import Mathlib.Data.List.Count
import Mathlib.Logic.Function.Basic
import Mathlib.Algebra.Order.Group.Nat

/-!
# Numbered tickets

A desk hands out consecutively numbered tickets and keeps the owner of each open one.  A
ticket may lock a tag, and a tag is locked by one ticket at a time.  The tickets themselves
are on the floor, in whatever order and place; the books balance when the open entries of
the desk are the tickets on the floor and the locked tags are theirs.
-/

namespace AgentGrid.Lib

open List

variable {Tag : Type} [DecidableEq Tag]

/-- The books of the desk: the last number, the owners of the open tickets, the locked tags. -/
structure Desk (Tag : Type) where
  next : Nat
  owner : Nat → Option Tag
  locked : Tag → Bool

namespace Desk

/-- Hand out the next ticket, to an owner and with the tag it locks, if any. -/
def issue (desk : Desk Tag) (owner : Tag) (tag : Option Tag) : Desk Tag where
  next := desk.next + 1
  owner := Function.update desk.owner (desk.next + 1) (some owner)
  locked t := decide (tag = some t) || desk.locked t

/-- Take a ticket back, and unlock the tag it locked. -/
def close (desk : Desk Tag) (n : Nat) (tag : Option Tag) : Desk Tag where
  next := desk.next
  owner := Function.update desk.owner n none
  locked t := !decide (tag = some t) && desk.locked t

theorem issue_owner (desk : Desk Tag) (owner : Tag) (tag : Option Tag) (n : Nat) :
    (desk.issue owner tag).owner n = if n = desk.next + 1 then some owner else desk.owner n :=
  Function.update_apply ..

theorem close_owner (desk : Desk Tag) (n m : Nat) (tag : Option Tag) :
    (desk.close n tag).owner m = if m = n then none else desk.owner m :=
  Function.update_apply ..

/-- The desk's books agree with the tickets on the floor, each with the tag it locks. -/
structure Balanced (desk : Desk Tag) (floor : List (Nat × Option Tag)) : Prop where
  bounded : ∀ n ∈ floor.map Prod.fst, n ≤ desk.next
  open_iff : ∀ n, desk.owner n ≠ none ↔ n ∈ floor.map Prod.fst
  distinct : (floor.map Prod.fst).Nodup
  locked_iff : ∀ t, desk.locked t = true ↔ some t ∈ floor.map Prod.snd
  exclusive : ∀ t, (floor.map Prod.snd).count (some t) ≤ 1
  owned : ∀ n t, (n, some t) ∈ floor → desk.owner n = some t

namespace Balanced

variable {desk : Desk Tag} {floor floor' : List (Nat × Option Tag)} {n : Nat}
  {tag : Option Tag}

theorem perm (balanced : desk.Balanced floor) (moved : floor.Perm floor') : desk.Balanced floor' := by
  have numbers := moved.map Prod.fst
  have tags := moved.map Prod.snd
  constructor
  · exact fun n mem => balanced.bounded n (numbers.mem_iff.mpr mem)
  · exact fun n => (balanced.open_iff n).trans numbers.mem_iff
  · exact numbers.nodup_iff.mp balanced.distinct
  · exact fun t => (balanced.locked_iff t).trans tags.mem_iff
  · exact fun t => tags.count_eq (some t) ▸ balanced.exclusive t
  · exact fun n t mem => balanced.owned n t (moved.mem_iff.mpr mem)

/-- The next ticket locks nothing, or the tag of its owner when that is free. -/
theorem issue (balanced : desk.Balanced floor) (owner : Tag) (tag : Option Tag)
    (free : ∀ t, tag = some t → t = owner ∧ desk.locked t = false) :
    (desk.issue owner tag).Balanced ((desk.next + 1, tag) :: floor) := by
  have fresh : desk.next + 1 ∉ floor.map Prod.fst := fun mem => Nat.not_succ_le_self _ (balanced.bounded _ mem)
  constructor
  · intro n mem
    rcases mem_cons.mp mem with here | mem
    · exact Nat.le_of_eq here
    · exact Nat.le_succ_of_le (balanced.bounded n mem)
  · intro n
    rw [map_cons, mem_cons, issue_owner]
    by_cases here : n = desk.next + 1
    · simp [here]
    · rw [if_neg here, balanced.open_iff]
      exact ⟨.inr, fun mem => mem.resolve_left here⟩
  · exact nodup_cons.mpr ⟨fresh, balanced.distinct⟩
  · intro t
    rw [map_cons, mem_cons, Desk.issue, Bool.or_eq_true, decide_eq_true_iff, balanced.locked_iff, eq_comm]
  · intro t
    rw [map_cons, count_cons]
    split
    · rename_i here
      have unlocked : some t ∉ floor.map Prod.snd := by
        intro mem
        have free := (free t (eq_of_beq here)).2
        rw [(balanced.locked_iff t).mpr mem] at free
        cases free
      rw [count_eq_zero_of_not_mem unlocked]
    · exact balanced.exclusive t
  · intro n t mem
    rw [issue_owner]
    rcases mem_cons.mp mem with here | old
    · obtain ⟨rfl, locks⟩ := Prod.mk.inj here
      rw [if_pos rfl, (free t locks.symm).1]
    rw [if_neg, balanced.owned n t old]
    rintro rfl
    exact fresh (mem_map_of_mem old)

theorem close (balanced : desk.Balanced ((n, tag) :: floor)) : (desk.close n tag).Balanced floor := by
  have absent : n ∉ floor.map Prod.fst := (nodup_cons.mp balanced.distinct).1
  have once : ∀ t, (floor.map Prod.snd).count (some t) + (if tag == some t then 1 else 0) ≤ 1 := by
    intro t
    rw [← count_cons]
    exact balanced.exclusive t
  constructor
  · exact fun m mem => balanced.bounded m (mem_cons_of_mem _ mem)
  · intro m
    rw [close_owner]
    by_cases here : m = n
    · subst here
      simpa using absent
    · rw [if_neg here, balanced.open_iff, map_cons, mem_cons]
      exact ⟨fun mem => mem.resolve_left here, .inr⟩
  · exact (nodup_cons.mp balanced.distinct).2
  · intro t
    rw [Desk.close, Bool.and_eq_true, Bool.not_eq_true', decide_eq_false_iff_not,
      balanced.locked_iff, map_cons, mem_cons]
    constructor
    · rintro ⟨other, mem⟩
      exact mem.resolve_left fun same => other same.symm
    · intro mem
      refine ⟨fun same => ?_, .inr mem⟩
      have alone := once t
      rw [if_pos (beq_iff_eq.mpr same)] at alone
      have held := count_pos_iff.mpr mem
      omega
  · exact fun t => Nat.le_of_add_right_le (once t)
  · intro m t mem
    rw [close_owner, if_neg]
    · exact balanced.owned m t (mem_cons_of_mem _ mem)
    · rintro rfl
      exact absent (mem_map_of_mem mem)

end Balanced

end Desk

end AgentGrid.Lib
