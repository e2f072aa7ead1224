import AgentGrid.Lib.GoMap
import Mathlib.Data.Finset.Card
import Mathlib.Data.Finset.Dedup

/-!
# The keys of a Go map

The keys of a map as a finite set: as many as the map has entries, so that what a loop over
the map counts is the size of a set.
-/

namespace AgentGrid.Lib.GoMap

open List

variable {K V : Type} [DecidableEq K] {m : GoMap K V} {k : K}

def keys (m : GoMap K V) : Finset K := (m.entries.map Prod.fst).toFinset

theorem mem_keys : k ∈ m.keys ↔ (m.get? k).isSome := by
  rw [keys, mem_toFinset, mem_map, Option.isSome_iff_exists]
  constructor
  · rintro ⟨⟨k', v⟩, mem, rfl⟩
    exact ⟨v, mem_entries.mp mem⟩
  · rintro ⟨v, found⟩
    exact ⟨(k, v), mem_entries.mpr found, rfl⟩

theorem card_keys (m : GoMap K V) : m.keys.card = m.entries.length := by
  rw [keys, toFinset_card_of_nodup m.keys_nodup, length_map]

theorem card_filter_keys (m : GoMap K V) (p : K → Bool) : (m.keys.filter fun k => p k = true).card =
      (m.entries.filter fun e => p e.1).length := by
  have same : m.keys.filter (fun k => p k = true) = ((m.entries.filter fun e => p e.1).map Prod.fst).toFinset := by
    ext k
    simp only [keys, Finset.mem_filter, mem_toFinset, mem_map, mem_filter]
    constructor
    · rintro ⟨⟨e, mem, rfl⟩, holds⟩
      exact ⟨e, ⟨mem, holds⟩, rfl⟩
    · rintro ⟨e, ⟨mem, holds⟩, rfl⟩
      exact ⟨⟨e, mem, rfl⟩, holds⟩
  have distinct : ((m.entries.filter fun e => p e.1).map Prod.fst).Nodup :=
    m.keys_nodup.sublist (filter_sublist.map _)
  rw [same, toFinset_card_of_nodup distinct, length_map]

/-! ## Counting entries -/

theorem entries_set_of_absent (absent : m.get? k = none) (v : V) : (m.set k v).entries = (k, v) :: m.entries := by
  have new : k ∉ m.assoc := AList.lookup_eq_none.mp absent
  unfold entries set
  rw [AList.entries_insert_of_notMem new, map_cons]

theorem entries_delete_sublist (m : GoMap K V) (k : K) : (m.delete k).entries.Sublist m.entries := by
  exact (kerase_sublist k m.assoc.entries).map _

theorem length_filter_delete_le (m : GoMap K V) (k : K) (p : K × V → Bool) :
    ((m.delete k).entries.filter p).length ≤ (m.entries.filter p).length :=
  ((m.entries_delete_sublist k).filter p).length_le

theorem length_filter_set_of_absent (absent : m.get? k = none) (v : V) (p : K × V → Bool) :
    ((m.set k v).entries.filter p).length = (m.entries.filter p).length + if p (k, v) then 1 else 0 := by
  rw [entries_set_of_absent absent, filter_cons]
  split <;> simp

end AgentGrid.Lib.GoMap
