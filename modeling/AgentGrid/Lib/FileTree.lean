import AgentGrid.Lib.Path

/-!
# File trees with symbolic links

A file tree is finite: under the names from the root there is a file, a directory or a link.  A path
is resolved element by element; at a link the walk goes on with the elements of its target, and
one path may lead through a bounded number of links.
-/

namespace AgentGrid.Lib

open List Option

/-- Why an operation on a file tree fails. -/
inductive Errno where
  | notExist | notDir | isDir | exist | tooManyLinks
  deriving DecidableEq

/-- An object of a file tree. -/
inductive Obj where
  | file (data : String) | dir | link (target : String)
  deriving DecidableEq

/-- A finite tree in which every object stands in a directory, under a plain name. -/
structure FileTree where
  get : List String → Option Obj
  /-- The paths that may hold an object. -/
  paths : List (List String)
  root : get [] = some .dir
  parent : ∀ {dir : List String} {name : String}, get (dir ++ [name]) ≠ none → get dir = some .dir
  plain : ∀ {path : List String}, get path ≠ none → ∀ name ∈ path, Path.Plain name
  listed : ∀ {path : List String}, get path ≠ none → path ∈ paths

instance (name : String) : Decidable (Path.Plain name) := by
  unfold Path.Plain
  infer_instance

namespace FileTree

/-- The object that a list of entries has under a path. -/
def entry (entries : List (List String × Obj)) (path : List String) : Option Obj :=
  if path = [] then some .dir else entries.lookup path

def Sound (entries : List (List String × Obj)) : Prop :=
  ∀ e ∈ entries, entry entries e.1.dropLast = some .dir ∧ ∀ name ∈ e.1, Path.Plain name

instance (entries : List (List String × Obj)) : Decidable (Sound entries) := by
  unfold Sound
  infer_instance

variable {path : List String}

theorem mem_of_entry {entries : List (List String × Obj)} (found : entry entries path ≠ none) :
    path = [] ∨ ∃ obj, (path, obj) ∈ entries := by
  rw [entry] at found
  split at found
  · exact .inl ‹_›
  obtain ⟨obj, found⟩ := ne_none_iff_exists'.mp found
  exact .inr ⟨obj, lookup_eq_some_iff.mp found |>.elim fun _ h => by
    obtain ⟨_, rfl, _⟩ := h
    simp⟩

def ofEntries (entries : List (List String × Obj)) (sound : Sound entries) : FileTree where
  get := entry entries
  paths := [] :: entries.map Prod.fst
  root := rfl
  parent found := by
    rcases mem_of_entry found with none | ⟨obj, mem⟩
    · simp at none
    · simpa using (sound _ mem).1
  plain found := by
    rcases mem_of_entry found with rfl | ⟨obj, mem⟩
    · exact forall_mem_nil _
    · exact (sound _ mem).2
  listed found := by
    rcases mem_of_entry found with rfl | ⟨obj, mem⟩
    · exact mem_cons_self
    · exact mem_cons_of_mem _ (List.mem_map.mpr ⟨_, mem, rfl⟩)

/-- Go through the elements of a path; behind a link, `follow` goes on. -/
def walk (t : FileTree) (follow : List String → List String → Except Errno (List String)) :
    List String → List String → Except Errno (List String)
  | dest, [] => .ok dest
  | dest, name :: rest =>
    if name = "" ∨ name = "." then t.walk follow dest rest
    else if name = ".." then t.walk follow dest.dropLast rest
    else
      match t.get (dest ++ [name]) with
      | none => .error .notExist
      | some .dir => t.walk follow (dest ++ [name]) rest
      | some (.file _) => if rest = [] then .ok (dest ++ [name]) else .error .notDir
      | some (.link target) =>
        follow (if target.toList.head? = some '/' then [] else dest) (Path.elements target ++ rest)

/-- Resolve a path from a directory, through at most so many links. -/
def resolve (t : FileTree) : Nat → List String → List String → Except Errno (List String)
  | 0 => t.walk fun _ _ => .error .tooManyLinks
  | links + 1 => t.walk (t.resolve links)

variable {t : FileTree}

theorem dropLast_dir (dir : t.get path = some .dir) : t.get path.dropLast = some .dir := by
  rcases eq_nil_or_concat path with rfl | ⟨front, name, rfl⟩
  · exact dir
  rw [concat_eq_append] at dir ⊢
  rw [dropLast_concat]
  exact t.parent (dir ▸ some_ne_none _)

variable {dest names : List String}

/-- A property of directories and files, however a path leads to them. -/
theorem walk_induction {follow : List String → List String → Except Errno (List String)}
    {P : List String → Prop} (dirs : ∀ path, t.get path = some .dir → P path)
    (files : ∀ path data, t.get path = some (.file data) → P path)
    (behind : ∀ dest names path, t.get dest = some .dir → follow dest names = .ok path → P path)
    (start : t.get dest = some .dir) (walked : t.walk follow dest names = .ok path) : P path := by
  induction names generalizing dest with
  | nil =>
    cases walked
    exact dirs _ start
  | cons name rest ih =>
    rw [walk] at walked
    split at walked
    · exact ih start walked
    split at walked
    · exact ih (dropLast_dir start) walked
    split at walked
    · cases walked
    · exact ih ‹_› walked
    · split at walked <;> cases walked
      exact files _ _ ‹_›
    refine behind _ _ _ ?_ walked
    split
    · exact t.root
    · exact start

def Solid (t : FileTree) (path : List String) : Prop :=
  t.get path = some .dir ∨ ∃ data, t.get path = some (.file data)

variable {links : Nat}

theorem resolve_solid (start : t.get dest = some .dir) (resolved : t.resolve links dest names = .ok path) :
    t.Solid path := by
  have files : ∀ path data, t.get path = some (.file data) → t.Solid path := fun _ data file => .inr ⟨data, file⟩
  induction links generalizing dest names path with
  | zero =>
    refine walk_induction (P := t.Solid) (fun _ => .inl) files ?_ start resolved
    rintro _ _ _ _ ⟨⟩
  | succ links ih =>
    exact walk_induction (P := t.Solid) (fun _ => .inl) files (fun _ _ _ start => ih start) start resolved

theorem resolve_plain (start : t.get dest = some .dir) (resolved : t.resolve links dest names = .ok path) :
    ∀ name ∈ path, Path.Plain name := by
  refine t.plain ?_
  rcases resolve_solid start resolved with dir | ⟨data, file⟩
  · exact dir ▸ some_ne_none _
  · exact file ▸ some_ne_none _

theorem resolve_empty (links : Nat) (dest names : List String) :
    t.resolve links dest ("" :: names) = t.resolve links dest names := by
  cases links <;> rw [resolve, walk, if_pos (.inl rfl)]

/-- The directories along a path, and nothing else. -/
def chain (names : List String) (plain : ∀ name ∈ names, Path.Plain name) : FileTree where
  get path := if path <+: names then some .dir else none
  paths := names.inits
  root := if_pos nil_prefix
  parent found := if_pos ((prefix_append _ _).trans (of_not_not fun out => found (if_neg out)))
  plain found name mem := plain name ((of_not_not fun out => found (if_neg out)).subset mem)
  listed found := (mem_inits _ _).mpr (of_not_not fun out => found (if_neg out))

theorem walk_chain {whole : List String} {plain : ∀ name ∈ whole, Path.Plain name}
    {follow : List String → List String → Except Errno (List String)} (along : dest ++ names = whole) :
    (chain whole plain).walk follow dest names = .ok whole := by
  induction names generalizing dest with
  | nil => rw [walk, ← along, append_nil]
  | cons name rest ih =>
    have there : (chain whole plain).get (dest ++ [name]) = some .dir := if_pos ⟨rest, by simpa using along⟩
    have one := plain name (along ▸ mem_append_right _ mem_cons_self)
    rw [walk, if_neg (not_or.mpr ⟨one.1, one.2.1⟩), if_neg one.2.2.1, there]
    exact ih (by simpa using along)

theorem resolve_chain (plain : ∀ name ∈ names, Path.Plain name) :
    (chain names plain).resolve links [] names = .ok names := by
  cases links <;> exact walk_chain rfl

end FileTree

end AgentGrid.Lib
