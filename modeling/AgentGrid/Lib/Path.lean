import Mathlib.Data.List.Infix

/-!
# Lexical paths

A path string is cleaned to a path: whether it starts at the root, how often it climbs, and the
names it goes down.  One path relative to another is found by dropping what both begin with.
Nothing here looks at a file system.
-/

namespace AgentGrid.Lib

open List

/-- A cleaned path. -/
structure Path where
  rooted : Bool
  ups : Nat
  names : List String
  deriving DecidableEq

namespace Path

variable (s : String) (base : Path) (xs : List String) (p : Path) (ys : List String)

def enter (element : String) : Path :=
  if element = "" ∨ element = "." then p
  else if element = ".." then
    if p.names ≠ [] then { p with names := p.names.dropLast }
    else if p.rooted then p
    else { p with ups := p.ups + 1 }
  else { p with names := p.names ++ [element] }

/-- The elements of a path string, between its slashes. -/
def elements : List String := (s.toList.splitOn '/').map String.ofList

def clean : Path :=
  (elements s).foldl enter ⟨s.toList.head? == some '/', 0, []⟩

/-- Join path strings and clean the result; the first ones that are empty are left out. -/
def join : List String → Path
  | [] => clean ""
  | s :: rest => if s = "" then join rest else clean (String.intercalate "/" (s :: rest))

def spell : List String := List.replicate p.ups ".." ++ p.names

def text : String :=
  if p.rooted then "/" ++ String.intercalate "/" p.names
  else if p.spell = [] then "." else String.intercalate "/" p.spell

/-- The elements of a target, which are a dot where it stays. -/
def target : List String :=
  if p.rooted = false ∧ p.spell = [] then ["."] else p.spell

def strip : List String → List String → List String × List String
  | x :: xs, y :: ys => if x = y then strip xs ys else (x :: xs, y :: ys)
  | xs, ys => (xs, ys)

/-- The elements of the target relative to the base, where there is such a path. -/
def rel (base targ : Path) : Option (List String) :=
  if targ = base then some ["."]
  else if targ.rooted ≠ base.rooted then none
  else
    match strip base.spell targ.target with
    | (x :: xs, y :: ys) => if x = ".." then none else some (List.replicate (xs.length + 1) ".." ++ y :: ys)
    | (xs, []) => some (List.replicate xs.length "..")
    | ([], ys) => some ys

def Below : Prop :=
  p.rooted = base.rooted ∧ p.ups = base.ups ∧ base.names <+: p.names ∧ base.names ≠ p.names

instance (base p : Path) : Decidable (Below base p) := by
  unfold Below
  infer_instance

/-- The path is spelled as the directory that contains the base. -/
def Above : Prop :=
  p.rooted = base.rooted ∧ ((∃ name, base.spell = p.target ++ [name]) ∨ p.target = base.spell ++ [".."])

theorem strip_append (xs ys zs : List String) : strip (xs ++ ys) (xs ++ zs) = strip ys zs := by
  induction xs with
  | nil => rfl
  | cons x xs ih => rw [cons_append, cons_append, strip, if_pos rfl, ih]

theorem strip_spec : ∃ shared, xs = shared ++ (strip xs ys).1 ∧ ys = shared ++ (strip xs ys).2 := by
  induction xs generalizing ys with
  | nil => exact ⟨[], rfl, by cases ys <;> rfl⟩
  | cons x xs ih =>
    cases ys with
    | nil => exact ⟨[], rfl, rfl⟩
    | cons y ys =>
      by_cases same : x = y
      · subst same
        obtain ⟨shared, first, second⟩ := ih ys
        refine ⟨x :: shared, ?_, ?_⟩
        · rw [strip, if_pos rfl, cons_append, ← first]
        · rw [strip, if_pos rfl, cons_append, ← second]
      · rw [strip, if_neg same]
        exact ⟨[], rfl, rfl⟩

theorem strip_fst_eq_nil_iff : (strip xs ys).1 = [] ↔ xs <+: ys := by
  constructor
  · obtain ⟨shared, first, second⟩ := strip_spec xs ys
    intro none
    rw [none, append_nil] at first
    rw [← first] at second
    exact ⟨_, second.symm⟩
  · rintro ⟨more, rfl⟩
    have stripped := strip_append xs [] more
    rw [append_nil] at stripped
    rw [stripped]
    cases more <;> rfl

def Proper : Prop := "" ∉ p.names

variable {p : Path}

theorem Proper.enter (proper : p.Proper) (element : String) : (p.enter element).Proper := by
  fun_cases p.enter element
  case case2 => exact fun mem => proper (dropLast_subset _ mem)
  case case5 named _ =>
    intro mem
    rcases mem_append.mp mem with before | last
    · exact proper before
    · exact named (.inl (mem_singleton.mp last).symm)
  all_goals exact proper

theorem clean_proper : (clean s).Proper := by
  suffices walked : ∀ (l : List String) (p : Path), p.Proper → (l.foldl Path.enter p).Proper from
    walked _ _ not_mem_nil
  intro l
  induction l with
  | nil => exact fun p proper => proper
  | cons x l ih => exact fun p proper => ih _ (proper.enter x)

theorem join_proper (l : List String) : (join l).Proper := by
  induction l with
  | nil => exact clean_proper ""
  | cons s rest ih =>
    rw [join]
    split
    · exact ih
    · exact clean_proper _

theorem Proper.target (proper : p.Proper) : "" ∉ p.target := by
  unfold Path.target
  split
  · decide
  intro mem
  rcases mem_append.mp mem with up | name
  · exact absurd (eq_of_mem_replicate up) (by decide)
  · exact proper name

theorem rel_head {base targ : Path} (proper : targ.Proper) {elements : List String}
    (related : rel base targ = some elements) : elements.head? ≠ some "" := by
  obtain ⟨shared, _, second⟩ := strip_spec base.spell targ.target
  have named : "" ∉ (strip base.spell targ.target).2 := fun mem =>
    proper.target (second ▸ mem_append_right shared mem)
  unfold rel at related
  split at related
  · cases related
    decide
  split at related
  · cases related
  split at related
  · split at related <;> cases related
    simp [replicate_succ]
  · rename_i xs _
    cases related
    cases xs with
    | nil => simp
    | cons => simp [replicate_succ]
  rename_i ys _ stripped
  cases related
  rw [stripped] at named
  exact fun first => named (mem_of_mem_head? first)

/-- The relative path climbs once and no more exactly for the directory that contains the base. -/
theorem rel_eq_up_iff (base targ : Path) : rel base targ = some [".."] ↔ Above base targ := by
  unfold rel Above
  by_cases same : targ = base
  · subst same
    rw [if_pos rfl]
    refine iff_of_false (by simp) ?_
    rintro ⟨_, ⟨name, longer⟩ | longer⟩
    all_goals
      unfold target at longer
      split at longer
      · rename_i here
        simp [here.2] at longer
      · exact absurd (congrArg List.length longer) (by simp)
  rw [if_neg same]
  by_cases side : targ.rooted = base.rooted
  · rw [if_neg (not_not.mpr side)]
    simp only [side, true_and]
    constructor
    · obtain ⟨shared, first, second⟩ := strip_spec base.spell targ.target
      intro up
      split at up
      · rename_i x xs y ys stripped
        split at up
        · cases up
        have long := congrArg List.length (Option.some.inj up)
        simp only [length_append, length_replicate, length_cons, length_nil] at long
        omega
      · rename_i xs stripped
        rw [stripped] at first second
        have one : xs.length = 1 := by simpa using congrArg List.length (Option.some.inj up)
        obtain ⟨name, rfl⟩ := length_eq_one_iff.mp one
        rw [append_nil] at second
        exact .inl ⟨name, second ▸ first⟩
      rename_i ys _ stripped
      rw [stripped] at first second
      rw [append_nil] at first
      rw [Option.some.inj up] at second
      exact .inr (first ▸ second)
    · rintro (⟨name, longer⟩ | longer)
      · have shorter := strip_append targ.target [name] []
        rw [append_nil] at shorter
        rw [longer, shorter]
        rfl
      · have shorter := strip_append base.spell [] [".."]
        rw [append_nil] at shorter
        rw [longer, shorter]
        rfl
  · rw [if_pos side]
    exact iff_of_false (by simp) fun above => side above.1

/-! ### The text of a cleaned path -/

/-- A name that is one element of a path, and stays when the path is cleaned. -/
def Plain (name : String) : Prop := name ≠ "" ∧ name ≠ "." ∧ name ≠ ".." ∧ '/' ∉ name.toList

/-- What cleaning leaves. -/
structure Canonical (p : Path) : Prop where
  plain : ∀ name ∈ p.names, Plain name
  top : p.rooted = true → p.ups = 0

variable {s name : String}

theorem slash_notMem (mem : name ∈ elements s) : '/' ∉ name.toList := by
  obtain ⟨part, found, rfl⟩ := mem_map.mp mem
  rw [String.toList_ofList]
  suffices parts : ∀ l : List Char, ∀ part ∈ l.splitOn '/', '/' ∉ part from parts _ part found
  intro l
  induction l with
  | nil => simp
  | cons c l ih =>
    rw [splitOn_cons_eq_if_modifyHead]
    split
    · simpa using ih
    rename_i other
    intro part mem
    cases parts : l.splitOn '/' with
    | nil => simp [parts] at mem
    | cons first =>
      rw [parts, modifyHead_cons] at mem
      rcases mem_cons.mp mem with rfl | mem
      · have none := ih first (parts ▸ mem_cons_self)
        simpa [none] using fun same => other (by simp [← same])
      · exact ih part (parts ▸ mem_cons_of_mem _ mem)

variable {l : List String}

theorem elements_intercalate (some : l ≠ []) (names : ∀ name ∈ l, '/' ∉ name.toList) :
    elements (String.intercalate "/" l) = l := by
  have split := @List.splitOn_intercalate _ (l.map String.toList) _ _ '/' (by simpa using names)
    (by simpa using some)
  rw [elements, String.toList_intercalate, show "/".toList = ['/'] from rfl, split, map_map]
  exact (map_congr_left fun name _ => String.ofList_toList).trans (map_id l)

theorem elements_append (s t : String) : elements (s ++ "/" ++ t) = elements s ++ elements t := by
  rw [elements, String.toList_append, String.toList_append, show "/".toList = ['/'] from rfl,
    append_assoc, singleton_append, splitOn_append_cons_self, map_append]
  rfl

/-- Joining cleans the first path and goes on with the elements of the second one. -/
theorem join_pair (some : s ≠ "") (t : String) : join [s, t] = (elements t).foldl enter (clean s) := by
  have head : (s ++ "/" ++ t).toList.head? = s.toList.head? := by
    rw [String.toList_append, String.toList_append]
    cases chars : s.toList with
    | nil => exact absurd (String.toList_eq_nil_iff.mp chars) some
    | cons => rfl
  rw [join, if_neg some, show String.intercalate "/" [s, t] = s ++ "/" ++ t from rfl, clean, head,
    elements_append, foldl_append]
  rfl

theorem enter_plain (p : Path) (plain : Plain name) : p.enter name = { p with names := p.names ++ [name] } := by
  rw [enter, if_neg (not_or.mpr ⟨plain.1, plain.2.1⟩), if_neg plain.2.2.1]

theorem foldl_enter (down : ".." ∉ l) (p : Path) : l.foldl enter p =
      { p with names := p.names ++ l.filter fun name => name ≠ "" ∧ name ≠ "." } := by
  induction l generalizing p with
  | nil => simp
  | cons name l ih =>
    obtain ⟨other, down⟩ := not_or.mp (mt mem_cons.mpr down)
    rw [foldl_cons, ih down]
    by_cases kept : name = "" ∨ name = "."
    · rw [enter, if_pos kept, filter_cons_of_neg (by simpa [or_iff_not_imp_left] using kept)]
    · rw [enter, if_neg kept, if_neg (Ne.symm other), filter_cons_of_pos (by simpa using kept)]
      simp

theorem Canonical.enter (canonical : p.Canonical) (whole : '/' ∉ name.toList) : (p.enter name).Canonical := by
  fun_cases p.enter name
  case case2 => exact ⟨fun name mem => canonical.plain name (dropLast_subset _ mem), canonical.top⟩
  case case4 loose => exact ⟨canonical.plain, fun rooted => absurd rooted loose⟩
  case case5 named other =>
    refine ⟨fun name' mem => ?_, canonical.top⟩
    rcases mem_append.mp mem with before | last
    · exact canonical.plain name' before
    · obtain rfl := mem_singleton.mp last
      exact ⟨(not_or.mp named).1, (not_or.mp named).2, other, whole⟩
  all_goals exact canonical

theorem clean_canonical (s : String) : (clean s).Canonical := by
  suffices walked : ∀ (l : List String) (p : Path), (∀ name ∈ l, '/' ∉ name.toList) →
      p.Canonical → (l.foldl Path.enter p).Canonical from
    walked _ _ (fun _ mem => slash_notMem mem) ⟨forall_mem_nil _, fun _ => rfl⟩
  intro l
  induction l with
  | nil => exact fun p _ canonical => canonical
  | cons name l ih =>
    exact fun p whole canonical => ih _ (fun _ mem => whole _ (mem_cons_of_mem _ mem))
      (canonical.enter (whole name mem_cons_self))

theorem enter_rooted (p : Path) (name : String) : (p.enter name).rooted = p.rooted := by
  fun_cases p.enter name <;> rfl

theorem clean_rooted (s : String) : (clean s).rooted = (s.toList.head? == some '/') := by
  suffices kept : ∀ (l : List String) (p : Path), (l.foldl Path.enter p).rooted = p.rooted from
    kept _ _
  intro l
  induction l with
  | nil => exact fun p => rfl
  | cons name l ih =>
    intro p
    rw [foldl_cons, ih, enter_rooted]

theorem foldl_enter_plain (plain : ∀ name ∈ l, Plain name) (p : Path) :
    l.foldl Path.enter p = { p with names := p.names ++ l } := by
  rw [foldl_enter fun mem => (plain _ mem).2.2.1 rfl, filter_eq_self.mpr]
  exact fun name mem => by simpa using ⟨(plain name mem).1, (plain name mem).2.1⟩

theorem foldl_enter_up (n : Nat) (p : Path) (loose : p.rooted = false) (none : p.names = []) :
    (List.replicate n "..").foldl Path.enter p = { p with ups := p.ups + n } := by
  induction n generalizing p with
  | zero => rfl
  | succ n ih =>
    have up : p.enter ".." = { p with ups := p.ups + 1 } := by simp [Path.enter, loose, none]
    rw [replicate_succ, foldl_cons, up, ih { p with ups := p.ups + 1 } loose none, Nat.add_assoc, Nat.add_comm 1]

section

variable (canonical : p.Canonical)

include canonical

theorem elements_text (rooted : p.rooted = true) :
    elements p.text = "" :: if p.names = [] then [""] else p.names := by
  rw [text, if_pos rooted]
  have split := elements_append "" (String.intercalate "/" p.names)
  rw [String.empty_append] at split
  rw [split]
  split
  · rename_i none
    rw [none]
    rfl
  rename_i some
  rw [elements_intercalate some fun name mem => (canonical.plain name mem).2.2.2]
  rfl

theorem spell_whole : ∀ name ∈ p.spell, '/' ∉ name.toList := by
  intro name mem
  rcases mem_append.mp mem with up | mem
  · rw [eq_of_mem_replicate up]
    decide
  · exact (canonical.plain name mem).2.2.2

theorem head_ne_slash (some : p.spell ≠ []) : (String.intercalate "/" p.spell).toList.head? ≠ .some '/' := by
  have named : ∀ name ∈ p.spell, name ≠ "" := by
    intro name mem
    rcases mem_append.mp mem with up | mem
    · rw [eq_of_mem_replicate up]
      decide
    · exact (canonical.plain name mem).1
  cases spelled : p.spell with
  | nil => exact absurd spelled some
  | cons name rest =>
    have whole := spell_whole canonical name (spelled ▸ mem_cons_self)
    have full := named name (spelled ▸ mem_cons_self)
    rw [String.toList_intercalate, map_cons]
    cases chars : name.toList with
    | nil => exact absurd (String.toList_eq_nil_iff.mp chars) full
    | cons c =>
      have first : c ≠ '/' := fun same => whole (by rw [chars, same]; exact mem_cons_self)
      cases rest with
      | nil | cons => simpa [List.intercalate] using first

theorem clean_text : clean p.text = p := by
  obtain ⟨rooted, ups, names⟩ := p
  cases rooted with
  | true =>
    obtain rfl : ups = 0 := canonical.top rfl
    have head : (text ⟨true, 0, names⟩).toList.head? = .some '/' := by
      rw [text, if_pos rfl, String.toList_append]
      rfl
    rw [clean, head, elements_text canonical rfl]
    by_cases none : names = []
    · subst none
      rfl
    · rw [if_neg none, foldl_cons]
      exact (foldl_enter_plain canonical.plain _).trans rfl
  | false =>
    by_cases none : spell ⟨false, ups, names⟩ = []
    · obtain ⟨up, rfl⟩ : ups = 0 ∧ names = [] := by simpa [spell] using none
      subst up
      rfl
    have text : text ⟨false, ups, names⟩ = String.intercalate "/" (spell ⟨false, ups, names⟩) := by
      rw [text, if_neg Bool.false_ne_true, if_neg none]
    have head : ((String.intercalate "/" (spell ⟨false, ups, names⟩)).toList.head? == .some '/') = false := by
      simpa using head_ne_slash canonical none
    rw [text, clean, head, elements_intercalate none (spell_whole canonical), spell,
      foldl_append, foldl_enter_up _ _ rfl rfl, foldl_enter_plain canonical.plain]
    simp

end

/-- From a directory, a relative path that does not begin with a climb leads to what is below. -/
theorem rel_inside {base targ : List String} (bases : ∀ name ∈ base, Plain name) (targs : ∀ name ∈ targ, Plain name) :
    (∃ names, rel ⟨true, 0, base⟩ ⟨true, 0, targ⟩ = some names ∧ names.head? ≠ some "..") ↔ base <+: targ := by
  rw [rel]
  split
  · rename_i same
    cases same
    exact iff_of_true ⟨["."], rfl, by decide⟩ (prefix_refl _)
  rw [if_neg (not_not.mpr rfl), ← strip_fst_eq_nil_iff]
  have spelled : spell ⟨true, 0, base⟩ = base := rfl
  have targeted : target ⟨true, 0, targ⟩ = targ := rfl
  rw [spelled, targeted]
  obtain ⟨shared, first, second⟩ := strip_spec base targ
  split
  · rename_i x xs y ys stripped
    rw [stripped] at first ⊢
    have other : x ≠ ".." := (bases x (first ▸ by simp)).2.2.1
    rw [if_neg other]
    refine iff_of_false ?_ (by simp)
    rintro ⟨_, up, down⟩
    exact down (Option.some.inj up ▸ rfl)
  · rename_i xs stripped
    rw [stripped]
    cases xs with
    | nil => exact iff_of_true ⟨_, rfl, by simp⟩ rfl
    | cons =>
      refine iff_of_false ?_ (by simp)
      rintro ⟨_, up, down⟩
      exact down (Option.some.inj up ▸ rfl)
  rename_i ys _ stripped
  rw [stripped] at second ⊢
  refine iff_of_true ⟨ys, rfl, fun up => ?_⟩ rfl
  exact (targs ".." (second ▸ mem_append_right _ (mem_of_mem_head? up))).2.2.1 rfl

end Path

end AgentGrid.Lib
