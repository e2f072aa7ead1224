import AgentGrid.Lib.GoMap

/-!
# Loops over a map that treat each key on its own

A `range` loop may change what it ranges over.  Where the body for a key changes only what is
observed at that key, the loop as a whole does to each key what its body does, in whichever order
the keys are visited.
-/

namespace AgentGrid.Lib

open List

variable {K V α σ : Type}

/-- The body changes what is observed at its key, and nothing else. -/
structure TreatsKeys (observe : σ → K → α) (body : σ → K × V → σ) (treat : V → α → α) : Prop where
  here : ∀ s k v, observe (body s (k, v)) k = treat v (observe s k)
  elsewhere : ∀ s k v k', k' ≠ k → observe (body s (k, v)) k' = observe s k'

namespace TreatsKeys

variable {observe : σ → K → α} {body : σ → K × V → σ} {treat : V → α → α}

theorem foldl_of_notMem (treats : TreatsKeys observe body treat) {visited : List (K × V)} {k : K}
    (unvisited : k ∉ visited.map Prod.fst) (s : σ) : observe (visited.foldl body s) k = observe s k := by
  induction visited generalizing s with
  | nil => rfl
  | cons e rest ih =>
    rw [map_cons, mem_cons, not_or] at unvisited
    obtain ⟨other, later⟩ := unvisited
    rw [foldl_cons, ih later, treats.elsewhere s e.1 e.2 k other]

theorem foldl_of_mem (treats : TreatsKeys observe body treat) {visited : List (K × V)}
    (once : (visited.map Prod.fst).Nodup) {k : K} {v : V} (mem : (k, v) ∈ visited) (s : σ) :
    observe (visited.foldl body s) k = treat v (observe s k) := by
  induction visited generalizing s with
  | nil => cases mem
  | cons e rest ih =>
    obtain ⟨unvisited, once⟩ := nodup_cons.mp once
    rw [foldl_cons]
    rcases mem_cons.mp mem with rfl | later
    · rw [treats.foldl_of_notMem unvisited, treats.here]
    have other : k ≠ e.1 := by
      rintro rfl
      exact unvisited (mem_map.mpr ⟨_, later, rfl⟩)
    rw [ih once later, treats.elsewhere s e.1 e.2 k other]

theorem range_loop [DecidableEq K] (treats : TreatsKeys observe body treat) (r : RangeOrder)
    (m : GoMap K V) (s : σ) (k : K) :
    observe ((m.range r).foldl body s) k = (m.get? k).elim (observe s k) fun v => treat v (observe s k) := by
  cases found : m.get? k with
  | some => exact treats.foldl_of_mem (m.range_keys_nodup r) (GoMap.mem_range.mpr found) s
  | none =>
    refine treats.foldl_of_notMem (fun visited => ?_) s
    obtain ⟨e, mem, rfl⟩ := mem_map.mp visited
    rw [GoMap.mem_range.mp mem] at found
    cases found

end TreatsKeys

end AgentGrid.Lib
