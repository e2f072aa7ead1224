import AgentGrid.Lib.GoMap

/-!
# Two-level maps

A `Buckets S I R` files records under an owner and, below it, an identifier.  `cell`
reads one record by both keys; every operation is described by what it does to the
cells.  A coherent map files each record under its own keys and uses an identifier in
one bucket only, so that a search by identifier does not depend on the loop's order.
-/

namespace AgentGrid.Lib

open List Option GoMap

/-- Records filed by owner and then by identifier. -/
abbrev Buckets (S I R : Type) := GoMap S (GoMap I R)

namespace Buckets

variable {S I R : Type} [DecidableEq S] [DecidableEq I]

variable (m : Buckets S I R) (s : S) (i : I)

def cell : Option R := (m.get? s).bind fun b => b.get? i

/-- File a record, creating its bucket when there is none. -/
def put (x : R) : Buckets S I R :=
  m.set s (((m.get? s).getD ∅).set i x)

/-- Drop a record, and its bucket when that was the last one. -/
def drop : Buckets S I R :=
  match m.get? s with
  | none => m
  | some b =>
    match b.get? i with
    | none => m
    | some _ => if (b.delete i).entries.isEmpty then m.delete s else m.set s (b.delete i)

/-- The first record with the identifier that a loop over the buckets meets. -/
def find (r : RangeOrder) (m : Buckets S I R) (i : I) : Option (R × S) :=
  (m.range r).findSome? fun e => (e.2.get? i).map fun x => (x, e.1)

/-- Every record a nested loop over the buckets selects, with its owner. -/
def select (r : RangeOrder) (m : Buckets S I R) (p : R → Bool) : List (S × R) :=
  (m.range r).flatMap fun e => (e.2.range r).filterMap fun x => if p x.2 then some (e.1, x.2) else none

/-- The record with the identifier, whichever bucket holds it. -/
def record : Option R := (m.find RangeOrder.stored i).map Prod.fst

theorem cell_put (s s' : S) (i i' : I) (x : R) :
    (m.put s i x).cell s' i' = if s' = s ∧ i' = i then some x else m.cell s' i' := by
  unfold cell put
  rw [get?_set]
  by_cases owner : s' = s
  · subst owner
    rw [if_pos rfl, bind_some, get?_set]
    by_cases same : i' = i
    · simp [same]
    · cases m.get? s' <;> simp [same]
  · simp [owner]

variable {m : Buckets S I R} {s : S}

theorem drop_of_cell_none {i : I} (absent : m.cell s i = none) : m.drop s i = m := by
  unfold drop
  cases bucket : m.get? s with
  | none => rfl
  | some b =>
    have entry : b.get? i = none := by simpa [cell, bucket] using absent
    simp [entry]

theorem cell_drop (m : Buckets S I R) (s s' : S) (i i' : I) :
    (m.drop s i).cell s' i' = if s' = s ∧ i' = i then none else m.cell s' i' := by
  cases here : m.cell s i with
  | none =>
    rw [drop_of_cell_none here]
    split
    · rename_i same
      rw [same.1, same.2, here]
    · rfl
  | some =>
    obtain ⟨b, bucket, entry⟩ := bind_eq_some_iff.mp here
    have erased := get?_delete b i i'
    by_cases owner : s' = s
    · subst owner
      by_cases last : (b.delete i).entries.isEmpty
      · rw [get?_of_entries_nil (List.isEmpty_iff.mp last)] at erased
        simpa [drop, last, cell, get?_delete, bucket, entry] using erased
      · simpa [drop, last, cell, get?_set, bucket, entry] using erased
    by_cases last : (b.delete i).entries.isEmpty
    · simp [drop, last, cell, get?_delete, bucket, entry, owner]
    · simp [drop, last, cell, get?_set, bucket, entry, owner]

theorem cell_foldl_drop (m : Buckets S I R) (keys : List (S × I)) (s : S) (i : I) :
    (keys.foldl (fun m k => m.drop k.1 k.2) m).cell s i = if (s, i) ∈ keys then none else m.cell s i := by
  induction keys generalizing m with
  | nil => simp
  | cons k rest ih =>
    rw [foldl_cons, ih, cell_drop]
    by_cases later : (s, i) ∈ rest
    · simp [later]
    by_cases now : s = k.1 ∧ i = k.2
    · simp [now]
    · have other : (s, i) ≠ k := fun same => now ⟨by rw [← same], by rw [← same]⟩
      simp [later, now, other]

theorem mem_select {r : RangeOrder} {p : R → Bool} {x : R} :
    (s, x) ∈ m.select r p ↔ (∃ i, m.cell s i = some x) ∧ p x = true := by
  simp only [select, cell, mem_flatMap, mem_filterMap]
  constructor
  · rintro ⟨⟨s', b⟩, inRange, ⟨i, x'⟩, inBucket, chosen⟩
    have bucket := GoMap.mem_range.mp inRange
    have entry := GoMap.mem_range.mp inBucket
    by_cases keep : p x'
    · simp only [keep, if_true, some.injEq, Prod.mk.injEq] at chosen
      obtain ⟨rfl, rfl⟩ := chosen
      exact ⟨⟨i, by simp [bucket, entry]⟩, keep⟩
    · simp [keep] at chosen
  · rintro ⟨⟨i, found⟩, keep⟩
    obtain ⟨b, bucket, entry⟩ := bind_eq_some_iff.mp found
    exact ⟨(s, b), GoMap.mem_range.mpr bucket, (i, x), GoMap.mem_range.mpr entry, by simp [keep]⟩

/-- Each record is filed under its own keys, and an identifier in one bucket only. -/
structure Coherent (owner : R → S) (ident : R → I) (m : Buckets S I R) : Prop where
  own_keys : ∀ {s i x}, m.cell s i = some x → owner x = s ∧ ident x = i
  one_bucket : ∀ {s s' i x x'}, m.cell s i = some x → m.cell s' i = some x' → s = s'

namespace Coherent

variable {owner : R → S} {ident : R → I} {m : Buckets S I R}

theorem empty : Coherent owner ident (∅ : Buckets S I R) where
  own_keys := by intro s i x found; simp [cell] at found
  one_bucket := by intro s s' i x x' found; simp [cell] at found

variable {i : I} {x : R} {s : S}

section

variable (coherent : Coherent owner ident m)

include coherent

theorem find_eq_some (r : RangeOrder) : m.find r i = some (x, s) ↔ m.cell s i = some x := by
  constructor
  · intro found
    obtain ⟨⟨s', b⟩, inRange, hit⟩ := exists_of_findSome?_eq_some found
    obtain ⟨x', entry, pair⟩ := map_eq_some_iff.mp hit
    obtain ⟨rfl, rfl⟩ := Prod.mk.inj pair
    simp [cell, GoMap.mem_range.mp inRange, entry]
  · intro here
    obtain ⟨b, bucket, entry⟩ := bind_eq_some_iff.mp here
    refine findSome?_order_of_unique (mem_entries.mpr bucket) (by simp [entry]) ?_
    rintro ⟨s', b'⟩ stored ⟨x', s''⟩ hit
    obtain ⟨y, entry', pair⟩ := map_eq_some_iff.mp hit
    obtain ⟨rfl, rfl⟩ := Prod.mk.inj pair
    have there : m.cell s' i = some y := by simpa [cell, mem_entries.mp stored] using entry'
    have same := coherent.one_bucket here there
    subst same
    rw [here] at there
    rw [some.inj there]

theorem find_eq_none (r : RangeOrder) : m.find r i = none ↔ ∀ s, m.cell s i = none := by
  constructor
  · intro missing s
    cases here : m.cell s i with
    | none => rfl
    | some =>
      rw [(coherent.find_eq_some r).mpr here] at missing
      cases missing
  · intro absent
    cases found : m.find r i with
    | none => rfl
    | some pair =>
      have here := (coherent.find_eq_some r).mp found
      rw [absent] at here
      cases here

/-- Filing a record keeps coherence when its identifier is not used by another owner. -/
theorem put (x : R) (free : ∀ s y, m.cell s (ident x) = some y → s = owner x) :
    Coherent owner ident (m.put (owner x) (ident x) x) where
  own_keys := by
    intro s i y found
    rw [cell_put] at found
    split at found
    · rename_i keys
      obtain ⟨rfl, rfl⟩ := keys
      cases found
      exact ⟨rfl, rfl⟩
    · exact coherent.own_keys found
  one_bucket := by
    intro s s' i y y' found found'
    rw [cell_put] at found found'
    split at found <;> split at found'
    · rename_i left right
      exact left.1.trans right.1.symm
    · rename_i left right
      rw [left.2] at found'
      exact left.1.trans (free s' y' found').symm
    · rename_i left right
      rw [right.2] at found
      exact (free s y found).trans right.1.symm
    · exact coherent.one_bucket found found'

theorem drop (s : S) (i : I) : Coherent owner ident (m.drop s i) where
  own_keys := by
    intro s' i' y found
    rw [cell_drop] at found
    split at found
    · cases found
    · exact coherent.own_keys found
  one_bucket := by
    intro s₁ s₂ i' y y' found found'
    rw [cell_drop] at found found'
    split at found <;> split at found'
    · cases found
    · cases found
    · cases found'
    · exact coherent.one_bucket found found'

end

/-! ### Reading by identifier alone -/

section

variable (coherent : Coherent owner ident m)

include coherent

/-- The record found under the identifier is the one some bucket holds. -/
theorem record_eq_some : m.record i = some x ↔ ∃ s, m.cell s i = some x := by
  rw [record, map_eq_some_iff]
  constructor
  · rintro ⟨⟨y, s⟩, found, rfl⟩
    exact ⟨s, (coherent.find_eq_some _).mp found⟩
  · rintro ⟨s, here⟩
    exact ⟨(x, s), (coherent.find_eq_some _).mpr here, rfl⟩

theorem record_eq_none : m.record i = none ↔ ∀ s, m.cell s i = none := by
  rw [record, map_eq_none_iff, coherent.find_eq_none]

theorem record_of_cell (here : m.cell s i = some x) : m.record i = some x :=
  coherent.record_eq_some.mpr ⟨s, here⟩

theorem ident_of_record (here : m.record i = some x) : ident x = i := by
  obtain ⟨s, filed⟩ := coherent.record_eq_some.mp here
  exact (coherent.own_keys filed).2

theorem cell_of_record (here : m.record i = some x) : m.cell (owner x) i = some x := by
  obtain ⟨s, filed⟩ := coherent.record_eq_some.mp here
  rwa [(coherent.own_keys filed).1]

theorem find_eq (r : RangeOrder) (i : I) : m.find r i = (m.record i).map fun x => (x, owner x) := by
  cases here : m.record i with
  | none => exact (coherent.find_eq_none r).mpr (coherent.record_eq_none.mp here)
  | some => exact (coherent.find_eq_some r).mpr (coherent.cell_of_record here)

theorem record_put (x : R) (free : ∀ s y, m.cell s (ident x) = some y → s = owner x) (i : I) :
    (m.put (owner x) (ident x) x).record i = if i = ident x then some x else m.record i := by
  apply Option.ext
  intro y
  rw [(coherent.put x free).record_eq_some]
  constructor
  · rintro ⟨s, found⟩
    rw [cell_put] at found
    split at found
    · rename_i keys
      rwa [if_pos keys.2]
    rename_i other
    rw [if_neg]
    · exact coherent.record_of_cell found
    · rintro rfl
      exact other ⟨free s y found, rfl⟩
  · intro found
    split at found
    · rename_i same
      exact ⟨owner x, by rwa [cell_put, if_pos ⟨rfl, same⟩]⟩
    rename_i other
    obtain ⟨s, filed⟩ := coherent.record_eq_some.mp found
    exact ⟨s, by rwa [cell_put, if_neg fun keys => other keys.2]⟩

theorem free_of_record {x' : R}
    (here : m.record (ident x) = some x) (keeps : owner x' = owner x ∧ ident x' = ident x) :
    ∀ s y, m.cell s (ident x') = some y → s = owner x' := by
  intro s y found
  rw [keeps.2] at found
  rw [keeps.1]
  exact coherent.one_bucket found (coherent.cell_of_record here)

end

/-! ### Loops over selected records -/

theorem select_nodup (coherent : Coherent owner ident m) (r : RangeOrder) (p : R → Bool) :
    ((m.select r p).map fun h => ident h.2).Nodup := by
  have inner : ∀ e ∈ m.range r, (((e.2.range r).filterMap fun x =>
      if p x.2 then some (e.1, x.2) else none).map fun h => ident h.2)
      = ((e.2.range r).filter fun x => p x.2).map Prod.fst := by
    rintro ⟨s, b⟩ inRange
    have keyed : ∀ x ∈ b.range r, ident x.2 = x.1 := by
      rintro ⟨i, x⟩ inBucket
      have filed : m.cell s i = some x := by simp [cell, GoMap.mem_range.mp inRange, GoMap.mem_range.mp inBucket]
      exact (coherent.own_keys filed).2
    revert keyed
    generalize b.range r = l
    intro keyed
    induction l with
    | nil => rfl
    | cons x rest ih =>
      have tail := ih fun y mem => keyed y (mem_cons_of_mem _ mem)
      by_cases keep : p x.2
      · simpa [keep, keyed x mem_cons_self] using tail
      · simpa [keep] using tail
  rw [select, map_flatMap, nodup_flatMap]
  constructor
  · intro e mem
    rw [inner e mem]
    exact List.Nodup.sublist (filter_sublist.map _) (e.2.range_keys_nodup r)
  · have distinct := pairwise_map.mp (m.range_keys_nodup r)
    refine distinct.imp_of_mem ?_
    intro e e' mem mem' differ i left right
    dsimp only at left right
    rw [inner e mem] at left
    rw [inner e' mem'] at right
    obtain ⟨⟨_, x⟩, inBucket, rfl⟩ := List.mem_map.mp left
    obtain ⟨⟨i', x'⟩, inBucket', same⟩ := List.mem_map.mp right
    obtain rfl : i' = _ := same
    have here : m.cell e.1 i' = some x := by
      simp [cell, GoMap.mem_range.mp mem, GoMap.mem_range.mp (mem_of_mem_filter inBucket)]
    have there : m.cell e'.1 i' = some x' := by
      simp [cell, GoMap.mem_range.mp mem', GoMap.mem_range.mp (mem_of_mem_filter inBucket')]
    exact differ (coherent.one_bucket here there)

theorem mem_select_ident (coherent : Coherent owner ident m) {r : RangeOrder} {p : R → Bool} :
    i ∈ ((m.select r p).map fun h => ident h.2) ↔ ∃ x, m.record i = some x ∧ p x = true := by
  rw [List.mem_map]
  constructor
  · rintro ⟨⟨s, x⟩, selected, rfl⟩
    obtain ⟨⟨i, filed⟩, chosen⟩ := mem_select.mp selected
    rw [(coherent.own_keys filed).2]
    exact ⟨x, coherent.record_of_cell filed, chosen⟩
  · rintro ⟨x, here, chosen⟩
    exact ⟨(owner x, x), mem_select.mpr ⟨⟨i, coherent.cell_of_record here⟩, chosen⟩, coherent.ident_of_record here⟩

variable {f : R → R}

section

variable (coherent : Coherent owner ident m)

include coherent

theorem foldl_put (keeps : ∀ x, owner (f x) = owner x ∧ ident (f x) = ident x) {hits : List (S × R)}
    (nodup : (hits.map fun h => ident h.2).Nodup) (filed : ∀ h ∈ hits, m.record (ident h.2) = some h.2) :
    Coherent owner ident (hits.foldl (fun m h => m.put (owner (f h.2)) (ident (f h.2)) (f h.2)) m) ∧
      ∀ i, (hits.foldl (fun m h => m.put (owner (f h.2)) (ident (f h.2)) (f h.2)) m).record i =
        if i ∈ hits.map fun h => ident h.2 then (m.record i).map f else m.record i := by
  induction hits generalizing m with
  | nil => exact ⟨coherent, fun i => by simp⟩
  | cons h rest ih =>
    have here := filed h mem_cons_self
    have free := coherent.free_of_record here (keeps h.2)
    have stored := coherent.record_put (f h.2) free
    obtain ⟨fresh, tail⟩ := nodup_cons.mp nodup
    have still : ∀ h' ∈ rest, (m.put (owner (f h.2)) (ident (f h.2)) (f h.2)).record (ident h'.2) = some h'.2 := by
      intro h' mem
      rw [stored, if_neg]
      · exact filed h' (mem_cons_of_mem _ mem)
      · rw [(keeps h.2).2]
        intro same
        exact fresh (List.mem_map.mpr ⟨h', mem, same⟩)
    obtain ⟨kept, records⟩ := ih (coherent.put (f h.2) free) tail still
    refine ⟨kept, ?_⟩
    intro i
    rw [foldl_cons, records i, stored i, (keeps h.2).2, map_cons]
    by_cases same : i = ident h.2
    · subst same
      rw [if_neg fresh, if_pos rfl, if_pos mem_cons_self, here]
      rfl
    · simp only [same, if_false, mem_cons, false_or]

theorem rewrite (r : RangeOrder) (p : R → Bool) (keeps : ∀ x, owner (f x) = owner x ∧ ident (f x) = ident x) :
    Coherent owner ident ((m.select r p).foldl (fun m h => m.put (owner (f h.2)) (ident (f h.2)) (f h.2)) m) ∧
      ∀ i, ((m.select r p).foldl (fun m h => m.put (owner (f h.2)) (ident (f h.2)) (f h.2)) m).record i =
        (m.record i).map fun x => if p x then f x else x := by
  have filed : ∀ h ∈ m.select r p, m.record (ident h.2) = some h.2 := by
    rintro ⟨s, x⟩ selected
    obtain ⟨⟨i, here⟩, _⟩ := mem_select.mp selected
    rw [(coherent.own_keys here).2]
    exact coherent.record_of_cell here
  obtain ⟨kept, records⟩ := coherent.foldl_put keeps (coherent.select_nodup r p) filed
  refine ⟨kept, ?_⟩
  intro i
  rw [records i]
  cases here : m.record i with
  | none => simp
  | some x =>
    by_cases chosen : p x
    · rw [if_pos (coherent.mem_select_ident.mpr ⟨x, here, chosen⟩)]
      simp [chosen]
    rw [if_neg]
    · simp [chosen]
    · intro selected
      obtain ⟨y, there, holds⟩ := coherent.mem_select_ident.mp selected
      cases here.symm.trans there
      exact chosen holds

theorem foldl_drop (keys : List (S × I)) : Coherent owner ident (keys.foldl (fun m k => m.drop k.1 k.2) m) := by
  induction keys generalizing m with
  | nil => exact coherent
  | cons k rest ih => exact ih (coherent.drop k.1 k.2)

/-- Dropping the records under some keys hides exactly these records. -/
theorem record_foldl_drop (keys : List (S × I)) {p : R → Bool} {i : I}
    (gone : ∀ x, m.record i = some x → ((owner x, i) ∈ keys ↔ p x = false)) :
    (keys.foldl (fun m k => m.drop k.1 k.2) m).record i = (m.record i).filter p := by
  apply Option.ext
  intro x
  rw [(coherent.foldl_drop keys).record_eq_some, filter_eq_some_iff]
  constructor
  · rintro ⟨s, found⟩
    rw [cell_foldl_drop] at found
    split at found
    · cases found
    rename_i outside
    have here := coherent.record_of_cell found
    rw [← (coherent.own_keys found).1, gone x here] at outside
    exact ⟨here, by simpa using outside⟩
  · rintro ⟨here, kept⟩
    refine ⟨owner x, ?_⟩
    rw [cell_foldl_drop, if_neg (by simp [gone x here, kept])]
    exact coherent.cell_of_record here

end

end Coherent

end Buckets

end AgentGrid.Lib
