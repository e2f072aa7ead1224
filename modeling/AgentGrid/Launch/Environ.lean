import AgentGrid.Launch.Args
import AgentGrid.Lib.GoMap
import Mathlib.Data.List.Sort
import Mathlib.Data.List.TakeWhile

/-!
# The environment of a terminal

The overrides of a launch are laid over the environment of the daemon.  In an environment the first
entry for a key counts; an entry without an equals sign defines no key.
-/

namespace AgentGrid.Launch

open AgentGrid.Lib List

def equalsSign : UInt8 := 0x3D

/-- The key and the value of an entry, cut at its first equals sign. -/
def cutEntry (kv : Bytes) : Option (Bytes × Bytes) :=
  if equalsSign ∈ kv then some (kv.takeWhile (· != equalsSign), (kv.dropWhile (· != equalsSign)).tail) else none

def keyOf (kv : Bytes) : Option Bytes := (cutEntry kv).map Prod.fst

def getenv (env : List Bytes) (key : Bytes) : Option Bytes :=
  env.findSome? fun kv => (cutEntry kv).bind fun e => if e.1 = key then some e.2 else none

def entry (key value : Bytes) : Bytes := key ++ equalsSign :: value

/-- The order of `sort.Strings`. -/
def ordered : Bytes → Bytes → Bool
  | [], _ => true
  | _ :: _, [] => false
  | b :: k, b' :: k' => b < b' || b = b' && ordered k k'

variable (r : RangeOrder) (overrides : GoMap Bytes Bytes)

/-- What becomes of the first entry of a key, and of an entry that defines none. -/
def overlay (kv : Bytes) : Bytes :=
  match keyOf kv with
  | none => kv
  | some key => ((overrides.get? key).map (entry key)).getD kv

/-- The loop over the base, with the keys seen so far: the keys seen in the end, and what is emitted. -/
def mergeBase (seenKey : List Bytes) : List Bytes → List Bytes × List Bytes
  | [] => (seenKey, [])
  | kv :: rest =>
    match keyOf kv with
    | none => ((mergeBase seenKey rest).1, kv :: (mergeBase seenKey rest).2)
    | some key =>
      if key ∈ seenKey then mergeBase seenKey rest
      else ((mergeBase (key :: seenKey) rest).1, overlay overrides kv :: (mergeBase (key :: seenKey) rest).2)

def mergeEnv (base : List Bytes) : List Bytes :=
  if overrides.entries = [] then base
  else
    let (seenKey, out) := mergeBase overrides [] base
    let extra := ((overrides.range r).map Prod.fst).filter (· ∉ seenKey)
    out ++ (extra.insertionSort (ordered · ·)).map fun k => entry k ((overrides.get? k).getD [])

/-! ## Entries -/

variable {overrides} {env : List Bytes} {kv k v : Bytes}

theorem cutEntry_entry (plain : equalsSign ∉ k) : cutEntry (entry k v) = some (k, v) := by
  have stops : ∀ c ∈ k, (c != equalsSign) = true := by
    intro c mem
    exact bne_iff_ne.mpr fun same => plain (same ▸ mem)
  rw [cutEntry, if_pos (by simp [entry]), entry, takeWhile_append_of_pos stops, dropWhile_append_of_pos stops]
  simp

theorem plain_of_cutEntry {e : Bytes × Bytes} (cut : cutEntry kv = some e) : equalsSign ∉ e.1 := by
  obtain ⟨-, cut⟩ := Option.ite_none_right_eq_some.mp cut
  cases cut
  intro mem
  cases mem_takeWhile_imp mem

theorem getenv_append (env more : List Bytes) : getenv (env ++ more) k = (getenv env k).or (getenv more k) :=
  findSome?_append

theorem getenv_cons (kv : Bytes) (env : List Bytes) :
    getenv (kv :: env) k = (getenv [kv] k).or (getenv env k) := getenv_append [kv] env

theorem getenv_eq_none : getenv env k = none ↔ k ∉ env.filterMap keyOf := by
  simp only [getenv, findSome?_eq_none_iff, mem_filterMap, keyOf, not_exists, not_and]
  refine forall₂_congr fun kv _ => ?_
  cases cutEntry kv <;> simp

theorem getenv_single (kv k : Bytes) : getenv [kv] k = none ∧ keyOf kv ≠ some k ∨
    (∃ v, getenv [kv] k = some v) ∧ keyOf kv = some k := by
  cases cut : cutEntry kv with
  | none => simp [getenv, keyOf, cut]
  | some e => by_cases same : e.1 = k <;> simp [getenv, keyOf, cut, same]

theorem cutEntry_overlay : cutEntry (overlay overrides kv) =
    (cutEntry kv).map fun e => (e.1, (overrides.get? e.1).getD e.2) := by
  cases cut : cutEntry kv with
  | none => simp [overlay, keyOf, cut]
  | some e =>
    have plain := plain_of_cutEntry cut
    cases given : overrides.get? e.1 <;> simp [overlay, keyOf, cut, given, cutEntry_entry plain]

theorem keyOf_overlay : keyOf (overlay overrides kv) = keyOf kv := by
  simp [keyOf, cutEntry_overlay, Function.comp_def]

theorem getenv_overlay : getenv [overlay overrides kv] k =
    (getenv [kv] k).map fun v => (overrides.get? k).getD v := by
  cases cut : cutEntry kv with
  | none => simp [getenv, cutEntry_overlay, cut]
  | some e => by_cases same : e.1 = k <;> simp [getenv, cutEntry_overlay, cut, same]

theorem getenv_map_entry {keys : List Bytes} {f : Bytes → Bytes} (plain : ∀ k ∈ keys, equalsSign ∉ k) :
    getenv (keys.map fun k => entry k (f k)) k = if k ∈ keys then some (f k) else none := by
  induction keys with
  | nil => rfl
  | cons key rest ih =>
    obtain ⟨here, later⟩ := forall_mem_cons.mp plain
    have own : getenv [entry key (f key)] k = if key = k then some (f key) else none := by
      simp [getenv, cutEntry_entry here]
    rw [map_cons, ← singleton_append, getenv_append, ih later, own]
    by_cases same : key = k <;> simp [same, Ne.symm]

/-! ## The loop -/

variable (overrides) (seen base : List Bytes)

theorem mem_seenKey : k ∈ (mergeBase overrides seen base).1 ↔ k ∈ seen ∨ k ∈ base.filterMap keyOf := by
  fun_induction mergeBase overrides seen base <;> grind

theorem mergeBase_keys : ((mergeBase overrides seen base).2.filterMap keyOf).Nodup ∧
    ∀ k ∈ (mergeBase overrides seen base).2.filterMap keyOf, k ∉ seen ∧ k ∈ base.filterMap keyOf := by
  fun_induction mergeBase overrides seen base <;> grind [keyOf_overlay]

theorem mergeBase_values : getenv (mergeBase overrides seen base).2 k =
    if k ∈ seen then none else (getenv base k).map fun v => (overrides.get? k).getD v := by
  fun_induction mergeBase overrides seen base with
  | case1 => split <;> rfl
  | case2 _ kv rest cut ih =>
    rw [getenv_cons, ih, getenv_cons kv rest]
    rcases getenv_single kv k with ⟨missed, -⟩ | ⟨-, hit⟩ <;> simp_all
  | case3 _ kv rest key cut known ih =>
    rw [ih, getenv_cons kv rest]
    rcases getenv_single kv k with ⟨missed, -⟩ | ⟨-, hit⟩ <;> simp_all
  | case4 _ kv rest key cut fresh ih =>
    rw [getenv_cons, ih, getenv_cons kv rest, getenv_overlay]
    rcases getenv_single kv k with ⟨missed, other⟩ | ⟨⟨v, found⟩, hit⟩
    · have apart : k ≠ key := fun same => other (same ▸ cut)
      simp [missed, apart]
    · simp_all

theorem mergeBase_kept : ∃ kept, kept <+ base ∧ (mergeBase overrides seen base).2 = kept.map (overlay overrides) ∧
    kept.filter (keyOf · = none) = base.filter (keyOf · = none) := by
  fun_induction mergeBase overrides seen base with
  | case1 => exact ⟨[], by simp⟩
  | case2 _ kv _ cut ih =>
    obtain ⟨kept, sub, out, malformed⟩ := ih
    exact ⟨kv :: kept, sub.cons_cons kv, by simp [out, overlay, cut], by simp [malformed, cut]⟩
  | case3 _ kv _ _ cut _ ih =>
    obtain ⟨kept, sub, out, malformed⟩ := ih
    exact ⟨kept, sub.cons kv, out, by simp [malformed, cut]⟩
  | case4 _ kv _ _ cut _ ih =>
    obtain ⟨kept, sub, out, malformed⟩ := ih
    exact ⟨kv :: kept, sub.cons_cons kv, by simp [out], by simp [malformed, cut]⟩

theorem ordered_total (k k' : Bytes) : ordered k k' = true ∨ ordered k' k = true := by
  fun_induction ordered k k' with
  | case1 => exact .inl rfl
  | case2 => exact .inr rfl
  | case3 => grind [ordered]

theorem ordered_trans {k₁ k₂ k₃ : Bytes} (first : ordered k₁ k₂ = true) (second : ordered k₂ k₃ = true) :
    ordered k₁ k₃ = true := by
  fun_induction ordered k₁ k₂ generalizing k₃ with
  | case1 => rfl
  | case2 => cases first
  | case3 => cases k₃ <;> grind [ordered]

instance : Std.Total (fun k k' : Bytes => ordered k k' = true) := ⟨ordered_total⟩

instance : IsTrans Bytes (fun k k' => ordered k k' = true) := ⟨fun _ _ _ => ordered_trans⟩

/-- The merged environment defines no key twice, prefers the overrides, otherwise answers as the base
does, keeps the order and the malformed entries of the base, and ends with the other overrides in order. -/
theorem mergeEnv_contract (given : overrides.entries ≠ []) (plain : ∀ k v, overrides.get? k = some v → equalsSign ∉ k) :
    ((mergeEnv r overrides base).filterMap keyOf).Nodup ∧
      (∀ k, getenv (mergeEnv r overrides base) k = (overrides.get? k).or (getenv base k)) ∧
      ∃ kept extra : List Bytes, mergeEnv r overrides base =
          kept.map (overlay overrides) ++ extra.map (fun k => entry k ((overrides.get? k).getD [])) ∧
        kept <+ base ∧ kept.filter (keyOf · = none) = base.filter (keyOf · = none) ∧
        extra.Pairwise (ordered · ·) ∧ ∀ k, k ∈ extra ↔ overrides.get? k ≠ none ∧ k ∉ base.filterMap keyOf := by
  rw [mergeEnv, if_neg given]
  dsimp only
  generalize sorted : (insertionSort (ordered · ·) _ : List Bytes) = extra
  have listed : ∀ k, k ∈ extra ↔ overrides.get? k ≠ none ∧ k ∉ base.filterMap keyOf := by
    intro k
    rw [← sorted, mem_insertionSort, mem_filter]
    simp [GoMap.mem_range, Option.ne_none_iff_exists', mem_seenKey]
  have plain' : ∀ k ∈ extra, equalsSign ∉ k := fun k mem =>
    (Option.ne_none_iff_exists'.mp ((listed k).mp mem).1).elim (plain k)
  have tail : (extra.map fun k => entry k ((overrides.get? k).getD [])).filterMap keyOf = extra := by
    rw [filterMap_map]
    refine (filterMap_congr fun k mem => ?_).trans filterMap_some
    simp [keyOf, cutEntry_entry (plain' k mem)]
  obtain ⟨once, disjoint⟩ := mergeBase_keys overrides [] base
  refine ⟨?_, fun k => ?_, ?_⟩
  · rw [filterMap_append, tail, nodup_append]
    refine ⟨once, ?_, ?_⟩
    · rw [← sorted, (perm_insertionSort _ _).nodup_iff]
      exact (GoMap.range_keys_nodup r overrides).filter _
    · rintro k mem _ mem' rfl
      exact ((listed k).mp mem').2 (disjoint k mem).2
  · rw [getenv_append, mergeBase_values, getenv_map_entry plain', if_neg not_mem_nil]
    cases based : getenv base k with
    | some => cases overrides.get? k <;> rfl
    | none =>
      have absent := getenv_eq_none.mp based
      cases found : overrides.get? k <;> simp [listed, found, absent]
  · obtain ⟨kept, sub, out, malformed⟩ := mergeBase_kept overrides [] base
    exact ⟨kept, extra, by rw [out], sub, malformed, sorted ▸ pairwise_insertionSort _ _, listed⟩

def ascii (s : String) : Bytes := s.toList.map fun c => c.toNat.toUInt8

/-- A duplicate is dropped, an override replaces the entry of its key, and a bare word stays. -/
theorem mergeEnv_sample : ∃ (overrides : GoMap Bytes Bytes) (merged : List Bytes),
      merged = mergeEnv .stored overrides (["A=1", "B", "A=2", "B=3"].map ascii) ∧
      merged = ["A=1", "B", "B=9", "C=7"].map ascii ∧ (merged.filterMap keyOf).Nodup := by
  refine ⟨(GoMap.set ∅ (ascii "B") (ascii "9")).set (ascii "C") (ascii "7"), _, rfl, by decide +kernel, ?_⟩
  refine (mergeEnv_contract .stored _ _ (by decide) fun k v found => ?_).1
  rcases GoMap.get?_of_set found with ⟨rfl, -⟩ | found
  · decide
  rcases GoMap.get?_of_set found with ⟨rfl, -⟩ | found
  · decide
  · cases found

end AgentGrid.Launch
