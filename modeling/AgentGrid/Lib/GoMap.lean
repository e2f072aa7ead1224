import Mathlib.Data.List.AList
import Mathlib.Data.List.Nodup

/-!
# Go maps

A Go map is a finite map whose `range` loop visits the entries in an order the
language leaves open.  The map is an association list without duplicate keys; the
order of one run of the program is a separate argument, a function that permutes
every list it is given.  A theorem about a loop has to hold for every such order.
-/

namespace AgentGrid.Lib

open List

/-- A Go map from `K` to `V`. -/
structure GoMap (K V : Type) where
  assoc : AList (fun _ : K => V)

/-- The order in which the `range` loops of one program run visit a map. -/
structure RangeOrder where
  order : ∀ {α : Type}, List α → List α
  order_perm : ∀ {α : Type} (l : List α), (order l).Perm l

/-- The order that visits the entries as they are stored. -/
def RangeOrder.stored : RangeOrder := ⟨fun l => l, fun l => List.Perm.refl l⟩

namespace GoMap

variable {K V : Type}

instance : EmptyCollection (GoMap K V) := ⟨⟨∅⟩⟩

def entries (m : GoMap K V) : List (K × V) := m.assoc.entries.map fun e => (e.1, e.2)

/-- The entries of a map as a `range` loop visits them. -/
def range (r : RangeOrder) (m : GoMap K V) : List (K × V) := r.order m.entries

theorem keys_nodup (m : GoMap K V) : (m.entries.map Prod.fst).Nodup := by
  have keys : m.entries.map Prod.fst = m.assoc.keys := by simp [entries, AList.keys, List.keys]
  rw [keys]
  exact m.assoc.keys_nodup

theorem range_keys_nodup (r : RangeOrder) (m : GoMap K V) : ((m.range r).map Prod.fst).Nodup :=
  ((r.order_perm m.entries).map Prod.fst).nodup_iff.mpr m.keys_nodup

variable [DecidableEq K]

def get? (m : GoMap K V) (k : K) : Option V := m.assoc.lookup k

def set (m : GoMap K V) (k : K) (v : V) : GoMap K V := ⟨m.assoc.insert k v⟩

def delete (m : GoMap K V) (k : K) : GoMap K V := ⟨m.assoc.erase k⟩

def mapVal (m : GoMap K V) (f : K → V → V) : GoMap K V :=
  ⟨⟨m.assoc.entries.map (Sigma.map id f), List.NodupKeys.map₂ f _ m.assoc.nodupKeys⟩⟩

@[simp] theorem get?_empty (k : K) : (∅ : GoMap K V).get? k = none := rfl

theorem get?_set (m : GoMap K V) (k k' : K) (v : V) : (m.set k v).get? k' = if k' = k then some v else m.get? k' := by
  by_cases same : k' = k
  · subst same
    rw [if_pos rfl]
    exact AList.lookup_insert m.assoc
  · rw [if_neg same]
    exact AList.lookup_insert_ne same

theorem get?_delete (m : GoMap K V) (k k' : K) : (m.delete k).get? k' = if k' = k then none else m.get? k' := by
  by_cases same : k' = k
  · subst same
    rw [if_pos rfl]
    exact AList.lookup_erase k' m.assoc
  · rw [if_neg same]
    exact AList.lookup_erase_ne same

theorem get?_set_eq (m : GoMap K V) (k : K) (v : V) : (m.set k v).get? = Function.update m.get? k (some v) := by
  funext k'
  rw [get?_set, Function.update_apply]

theorem get?_delete_eq (m : GoMap K V) (k : K) : (m.delete k).get? = Function.update m.get? k none := by
  funext k'
  rw [get?_delete, Function.update_apply]

@[simp] theorem get?_set_self (m : GoMap K V) (k : K) (v : V) : (m.set k v).get? k = some v := by
  rw [get?_set, if_pos rfl]

@[simp] theorem get?_delete_self (m : GoMap K V) (k : K) : (m.delete k).get? k = none := by
  rw [get?_delete, if_pos rfl]

variable {k k' : K}

theorem get?_delete_of_ne (m : GoMap K V) (other : k' ≠ k) : (m.delete k).get? k' = m.get? k' := by
  rw [get?_delete, if_neg other]

theorem get?_set_of_ne (m : GoMap K V) (other : k' ≠ k) (v : V) : (m.set k v).get? k' = m.get? k' := by
  rw [get?_set, if_neg other]

variable {m : GoMap K V} {v : V}

theorem get?_of_set {u : V} (found : (m.set k v).get? k' = some u) : (k' = k ∧ u = v) ∨ m.get? k' = some u := by
  rw [get?_set] at found
  split at found
  · rename_i same
    exact .inl ⟨same, (Option.some.inj found).symm⟩
  · exact .inr found

theorem get?_of_delete (found : (m.delete k).get? k' = some v) : k' ≠ k ∧ m.get? k' = some v := by
  rw [get?_delete] at found
  split at found
  · cases found
  · rename_i other
    exact ⟨other, found⟩

@[simp] theorem get?_mapVal (m : GoMap K V) (f : K → V → V) (k : K) : (m.mapVal f).get? k = (m.get? k).map (f k) :=
  dlookup_map₂ k

theorem mem_entries : (k, v) ∈ m.entries ↔ m.get? k = some v := by
  have stored : (⟨k, v⟩ : (_ : K) × V) ∈ m.assoc.entries ↔ m.get? k = some v := AList.mem_lookup_iff.symm
  rw [← stored, entries, mem_map]
  constructor
  · rintro ⟨⟨k', v'⟩, mem, same⟩
    cases same
    exact mem
  · intro mem
    exact ⟨⟨k, v⟩, mem, rfl⟩

theorem mem_range {r : RangeOrder} : (k, v) ∈ m.range r ↔ m.get? k = some v := by
  rw [range, (r.order_perm m.entries).mem_iff, mem_entries]

theorem get?_of_entries_nil (empty : m.entries = []) (k : K) : m.get? k = none := by
  cases found : m.get? k with
  | none => rfl
  | some =>
    have mem := mem_entries.mpr found
    rw [empty] at mem
    cases mem

theorem length_set_of_absent (absent : m.get? k = none) (v : V) :
    (m.set k v).entries.length = m.entries.length + 1 := by
  have new : k ∉ m.assoc := AList.lookup_eq_none.mp absent
  unfold entries set
  rw [length_map, length_map, AList.entries_insert_of_notMem new, length_cons]

theorem length_delete_le (m : GoMap K V) (k : K) : (m.delete k).entries.length ≤ m.entries.length := by
  unfold entries delete
  rw [length_map, length_map]
  exact (kerase_sublist k m.assoc.entries).length_le

theorem range_filterMap_key {β : Type} (r : RangeOrder) (m : GoMap K V) (k : K) (f : V → β) :
    ((m.range r).filterMap fun e => if e.1 = k then some (f e.2) else none) = (m.get? k).toList.map f := by
  have found : ∀ v, (k, v) ∈ m.range r ↔ m.get? k = some v := fun v => mem_range
  have distinct := m.range_keys_nodup r
  generalize m.get? k = stored at found ⊢
  generalize m.range r = visited at found distinct ⊢
  induction visited with
  | nil =>
    cases stored with
    | none => rfl
    | some v => exact absurd ((found v).mpr rfl) not_mem_nil
  | cons e rest ih =>
    obtain ⟨k', v'⟩ := e
    rw [map_cons, nodup_cons] at distinct
    by_cases same : k' = k
    · subst same
      obtain rfl : stored = some v' := ((found v').mp mem_cons_self)
      have others : (rest.filterMap fun e => if e.1 = k' then some (f e.2) else none) = [] := by
        refine filterMap_eq_nil_iff.mpr fun e mem => if_neg ?_
        rintro rfl
        exact distinct.1 (mem_map.mpr ⟨e, mem, rfl⟩)
      simp [others]
    rw [filterMap_cons, if_neg same]
    refine ih ?_ distinct.2
    intro v
    rw [← found v, mem_cons, or_iff_right]
    intro first
    exact same (Prod.mk.inj first).1.symm

end GoMap

/-! ## First match of a range loop -/

section FirstMatch

variable {α β : Type}

variable {r : RangeOrder} {l : List α} {f : α → Option β}

/-- A loop that returns at its first match finds one exactly when there is one. -/
theorem findSome?_order_isSome : ((r.order l).findSome? f).isSome ↔ ∃ a ∈ l, (f a).isSome := by
  simp [findSome?_isSome_iff, (r.order_perm l).mem_iff]

/-- When all matches agree, the order in which the loop meets them is irrelevant. -/
theorem findSome?_order_of_unique {a : α} {b : β} (mem : a ∈ l) (hit : f a = some b)
    (unique : ∀ a' ∈ l, ∀ b', f a' = some b' → b' = b) : (r.order l).findSome? f = some b := by
  have some_hit : ((r.order l).findSome? f).isSome := findSome?_order_isSome.mpr ⟨a, mem, by simp [hit]⟩
  obtain ⟨b', found⟩ := Option.isSome_iff_exists.mp some_hit
  obtain ⟨a', mem', hit'⟩ := exists_of_findSome?_eq_some found
  rw [found, unique a' ((r.order_perm l).mem_iff.mp mem') b' hit']

end FirstMatch

end AgentGrid.Lib
