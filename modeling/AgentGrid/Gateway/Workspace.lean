import AgentGrid.Lib.FileTree

/-!
# The workspace path guard

A browser names a file of a session's workspace by a relative path.  The guard cleans the name,
refuses what is absolute or still has two dots in a row, and lets pass what resolves to the
resolved root or below it.
-/

namespace AgentGrid.Gateway

open AgentGrid.Lib List Path FileTree

/-- How many links `filepath.EvalSymlinks` goes through. -/
def maxSymlinks : Nat := 255

/-- `filepath.EvalSymlinks` of an absolute path. -/
def evalSymlinks (t : FileTree) (path : String) : Option String :=
  (t.resolve maxSymlinks [] (Path.elements path)).toOption.map fun dest => (Lib.Path.mk true 0 dest).text

def isAbs (path : String) : Prop := path.toList.head? = some '/'

instance (path : String) : Decidable (isAbs path) := by
  unfold isAbs
  infer_instance

/-- `strings.Contains` of two dots. -/
def hasDots (s : String) : Prop := ['.', '.'] <:+: s.toList

instance (s : String) : Decidable (hasDots s) := by
  unfold hasDots
  infer_instance

def workspaceDescendant (root path : String) : Bool :=
  match Path.rel (Path.clean root) (Path.clean path) with
  | none => false
  | some rel => rel.head? != some ".."

/-- One segment after the other is joined to the current path. -/
def descend (current : Path) : List String → Option Path
  | [] => some current
  | seg :: segs => if seg = "" ∨ seg = ".." then none else descend (Path.join [current.text, seg]) segs

/-- The current path is resolved, and let pass at the resolved root or below it. -/
def resolveWithin (t : FileTree) (root current : Path) : Option String := do
  let resolvedRoot ← evalSymlinks t root.text
  let resolved ← evalSymlinks t current.text
  if workspaceDescendant resolvedRoot resolved then some resolved else none

def guardWorkspacePath (t : FileTree) (root rel : String) : Option String :=
  let root := Path.clean root
  if root.text = "" then none
  else if isAbs rel then none
  else
    let rel := (Path.clean rel).text
    let rel := if rel = "." then "" else rel
    if hasDots rel then none
    else
      let current := if rel = "" then some root else descend root (Path.elements rel)
      current.bind (resolveWithin t root)

/-- What the guard is for: the name climbs nowhere, and the file it names under the root is the
root or below it. -/
def Exposed (t : FileTree) (root rel path : String) : Prop :=
  ¬ isAbs rel ∧ ".." ∉ Path.elements rel ∧ ∃ top names, t.resolve maxSymlinks [] (Path.clean root).names = .ok top ∧
      t.resolve maxSymlinks [] (Path.join [root, rel]).names = .ok names ∧ top <+: names ∧
      path = (Lib.Path.mk true 0 names).text

section

variable {t : FileTree} {root rel path : String}

variable {names : List String}

theorem canonical_of_plain (plain : ∀ name ∈ names, Path.Plain name) :
    (Lib.Path.mk true 0 names).Canonical := ⟨plain, fun _ => rfl⟩

theorem text_ne_empty {p : Path} (rooted : p.rooted = true) : p.text ≠ "" := by
  rw [Path.text, if_pos rooted]
  intro empty
  have none := congrArg String.toList empty
  cases String.toList_append.symm.trans none

theorem resolve_text (plain : ∀ name ∈ names, Path.Plain name) :
    t.resolve maxSymlinks [] (Path.elements (Lib.Path.mk true 0 names).text) = t.resolve maxSymlinks [] names := by
  rw [elements_text (canonical_of_plain plain) rfl, resolve_empty]
  split
  · rename_i none
    rw [resolve_empty, show names = [] from none]
  · rfl

theorem evalSymlinks_text (plain : ∀ name ∈ names, Path.Plain name) : evalSymlinks t (Lib.Path.mk true 0 names).text =
      (t.resolve maxSymlinks [] names).toOption.map fun dest => (Lib.Path.mk true 0 dest).text := by
  rw [evalSymlinks, resolve_text plain]

variable {top : List String}

theorem workspaceDescendant_iff (tops : ∀ name ∈ top, Path.Plain name) (plain : ∀ name ∈ names, Path.Plain name) :
    workspaceDescendant (Lib.Path.mk true 0 top).text (Lib.Path.mk true 0 names).text = true ↔ top <+: names := by
  rw [workspaceDescendant, clean_text (canonical_of_plain tops),
    clean_text (canonical_of_plain plain), ← rel_inside tops plain]
  split
  · rename_i none
    simp [none]
  · rename_i found
    simp [found]

theorem descend_eq {segs : List String} (plain : ∀ name ∈ names, Path.Plain name)
    (segments : ∀ seg ∈ segs, Path.Plain seg) : descend ⟨true, 0, names⟩ segs = some ⟨true, 0, names ++ segs⟩ := by
  induction segs generalizing names with
  | nil => rw [descend, append_nil]
  | cons seg segs ih =>
    have one := segments seg mem_cons_self
    have joined : Path.join [(Lib.Path.mk true 0 names).text, seg] = ⟨true, 0, names ++ [seg]⟩ := by
      have single : Path.elements seg = [seg] := by
        have split := elements_intercalate (l := [seg]) (by simp) (by simpa using one.2.2.2)
        simpa using split
      rw [join_pair (text_ne_empty rfl), clean_text (canonical_of_plain plain), single]
      exact enter_plain _ one
    rw [descend, if_neg (not_or.mpr ⟨one.1, one.2.2.1⟩), joined, ih ?_ ?_, append_assoc, singleton_append]
    · simpa [or_imp, forall_and] using ⟨plain, one⟩
    · exact fun seg mem => segments seg (mem_cons_of_mem _ mem)

theorem clean_root (absolute : isAbs root) : Path.clean root = ⟨true, 0, (Path.clean root).names⟩ := by
  have rooted : (Path.clean root).rooted = true := by
    rw [clean_rooted]
    exact beq_iff_eq.mpr absolute
  have top := (clean_canonical root).top rooted
  cases whole : Path.clean root with
  | mk =>
    rw [whole] at rooted top
    cases rooted
    cases top
    rfl

theorem resolveWithin_eq_some (tops : ∀ name ∈ top, Path.Plain name) {current : Path} :
    resolveWithin t ⟨true, 0, top⟩ current = some path ↔ ∃ base names, t.resolve maxSymlinks [] top = .ok base ∧
        t.resolve maxSymlinks [] (Path.elements current.text) = .ok names ∧ base <+: names ∧
        path = (Lib.Path.mk true 0 names).text := by
  rw [resolveWithin, evalSymlinks_text tops]
  cases based : t.resolve maxSymlinks [] top with
  | error => simp [Except.toOption]
  | ok base =>
    rw [evalSymlinks]
    cases found : t.resolve maxSymlinks [] (Path.elements current.text) with
    | error => simp [Except.toOption]
    | ok names =>
      have below := workspaceDescendant_iff (resolve_plain t.root based) (resolve_plain t.root found)
      show (if workspaceDescendant _ _ = true then some _ else none) = some path ↔ _
      rw [Option.ite_none_right_eq_some, below, Option.some.injEq]
      constructor
      · rintro ⟨inside, rfl⟩
        exact ⟨base, names, rfl, rfl, inside, rfl⟩
      · rintro ⟨_, _, same, same', inside, rfl⟩
        cases same
        cases same'
        exact ⟨inside, rfl⟩

theorem guard_contained (absolute : isAbs root) (passed : guardWorkspacePath t root rel = some path) :
    ∃ top names, t.resolve maxSymlinks [] (Path.clean root).names = .ok top ∧ top <+: names ∧
      t.Solid names ∧ path = (Lib.Path.mk true 0 names).text := by
  have plain := (clean_canonical root).plain
  rw [guardWorkspacePath, clean_root absolute] at passed
  dsimp only at passed
  generalize (if (Path.clean rel).text = "." then "" else (Path.clean rel).text) = name at passed
  split at passed
  · cases passed
  split at passed
  · cases passed
  split at passed
  · cases passed
  obtain ⟨current, -, within⟩ := Option.bind_eq_some_iff.mp passed
  obtain ⟨top, names, based, found, below, rfl⟩ := (resolveWithin_eq_some plain).mp within
  exact ⟨top, names, based, below, resolve_solid t.root found, rfl⟩

/-- A relative name that climbs nowhere is cleaned to the names it goes down, and so is the path
under the root. -/
theorem clean_rel (absolute : isAbs root) (relative : ¬ isAbs rel) (down : ".." ∉ Path.elements rel) :
    ∃ kept, Path.clean rel = ⟨false, 0, kept⟩ ∧ (∀ name ∈ kept, Path.Plain name) ∧
      Path.join [root, rel] = ⟨true, 0, (Path.clean root).names ++ kept⟩ := by
  have loose : (rel.toList.head? == some '/') = false := by simpa [isAbs] using relative
  have cleaned : Path.clean rel = ⟨false, 0, (Path.elements rel).filter fun name => name ≠ "" ∧ name ≠ "."⟩ := by
    rw [Path.clean, loose, foldl_enter down]
    rfl
  have named : root ≠ "" := by
    rintro rfl
    cases absolute
  refine ⟨_, cleaned, ?_, ?_⟩
  · have canonical := clean_canonical rel
    rw [cleaned] at canonical
    exact canonical.plain
  · rw [join_pair named, foldl_enter down, clean_root absolute]

theorem guard_eq {kept : List String} (absolute : isAbs root) (relative : ¬ isAbs rel)
    (cleaned : Path.clean rel = ⟨false, 0, kept⟩) (plain : ¬ hasDots (Path.clean rel).text) :
    guardWorkspacePath t root rel = resolveWithin t (Path.clean root) ⟨true, 0, (Path.clean root).names ++ kept⟩ := by
  have roots := (clean_canonical root).plain
  have names : ∀ name ∈ kept, Path.Plain name := by
    have canonical := clean_canonical rel
    rw [cleaned] at canonical
    exact canonical.plain
  have full : (Path.clean root).text ≠ "" := by
    rw [clean_root absolute]
    exact text_ne_empty rfl
  rw [guardWorkspacePath]
  dsimp only
  rw [if_neg full, if_neg relative]
  by_cases none : kept = []
  · subst none
    have dot : (Path.clean rel).text = "." := by
      rw [cleaned]
      rfl
    rw [if_pos dot, if_neg (by decide), if_pos rfl, append_nil, ← clean_root absolute]
    rfl
  have text : (Path.clean rel).text = String.intercalate "/" kept := by
    rw [cleaned, Path.text, if_neg Bool.false_ne_true, if_neg (by simpa [Path.spell] using none)]
    rfl
  have parts := elements_intercalate none fun name mem => (names name mem).2.2.2
  have undotted : (Path.clean rel).text ≠ "." := by
    intro dot
    rw [← text, dot] at parts
    exact (names "." (parts ▸ by decide)).2.1 rfl
  have some : (Path.clean rel).text ≠ "" := by
    intro empty
    rw [← text, empty] at parts
    exact (names "" (parts ▸ by decide)).1 rfl
  rw [if_neg undotted, if_neg plain, if_neg some, text, parts]
  conv_lhs => rw [clean_root absolute]
  rw [descend_eq roots names]
  exact congrArg (resolveWithin t · _) (clean_root absolute).symm

theorem guard_of_dots (dots : hasDots (Path.clean rel).text) : guardWorkspacePath t root rel = none := by
  have other : (Path.clean rel).text ≠ "." := by
    intro dot
    rw [dot] at dots
    exact absurd dots (by decide)
  simp [guardWorkspacePath, other, dots]

theorem guard_iff_exposed (absolute : isAbs root)
    (agree : ¬ isAbs rel → (hasDots (Path.clean rel).text ↔ ".." ∈ Path.elements rel)) :
    guardWorkspacePath t root rel = some path ↔ Exposed t root rel path := by
  by_cases relative : isAbs rel
  · have refused : guardWorkspacePath t root rel = none := by simp [guardWorkspacePath, relative]
    exact iff_of_false (by simp [refused]) fun exposed => exposed.1 relative
  by_cases down : ".." ∈ Path.elements rel
  · rw [guard_of_dots ((agree relative).mpr down)]
    exact iff_of_false nofun fun exposed => exposed.2.1 down
  have roots := (clean_canonical root).plain
  obtain ⟨kept, cleaned, names, joined⟩ := clean_rel absolute relative down
  have all : ∀ name ∈ (Path.clean root).names ++ kept, Path.Plain name := by
    simpa [or_imp, forall_and] using ⟨roots, names⟩
  rw [guard_eq absolute relative cleaned (mt (agree relative).mp down),
    clean_root absolute, resolveWithin_eq_some roots, Exposed, joined]
  rw [resolve_text all]
  exact ⟨fun found => ⟨relative, down, found⟩, fun exposed => exposed.2.2⟩

/-- A relative name that climbs after cleaning has two dots at its head. -/
theorem clean_of_no_dots (relative : ¬ isAbs rel) (plain : ¬ hasDots (Path.clean rel).text) :
    Path.clean rel = ⟨false, 0, (Path.clean rel).names⟩ := by
  have loose : (Path.clean rel).rooted = false := by
    rw [clean_rooted]
    simpa [isAbs] using relative
  generalize Path.clean rel = p at *
  obtain ⟨rooted, ups, names⟩ := p
  cases loose
  cases ups with
  | zero => rfl
  | succ n =>
    refine absurd ?_ plain
    rw [hasDots, Path.text, if_neg Bool.false_ne_true, if_neg (by simp [Path.spell, replicate_succ]),
      String.toList_intercalate]
    simp only [Path.spell, replicate_succ, cons_append, map_cons]
    refine IsPrefix.isInfix ?_
    cases (replicate n ".." ++ names).map String.toList with
    | nil | cons => simp [List.intercalate]

/-- A name that the guard and the specification take differently, at the tree of the directories
it names. -/
theorem guard_differs (relative : ¬ isAbs rel)
    (differ : ¬(hasDots (Path.clean rel).text ↔ ".." ∈ Path.elements rel)) :
    ∃ t path, ¬(guardWorkspacePath t "/" rel = some path ↔ Exposed t "/" rel path) := by
  have top : isAbs "/" := by decide
  have whole : (Path.clean "/").names = [] := by decide
  have base : ∀ {t : FileTree}, t.resolve maxSymlinks [] (Path.clean "/").names = .ok [] := by
    intro t
    rw [whole]
    rfl
  by_cases dots : hasDots (Path.clean rel).text
  · have down : ".." ∉ Path.elements rel := fun up => differ (iff_of_true dots up)
    obtain ⟨kept, -, names, joined⟩ := clean_rel top relative down
    refine ⟨chain kept names, (Lib.Path.mk true 0 kept).text, fun same => ?_⟩
    have exposed : Exposed (chain kept names) "/" rel (Lib.Path.mk true 0 kept).text := by
      refine ⟨relative, down, [], kept, base, ?_, nil_prefix, rfl⟩
      rw [joined]
      exact resolve_chain names
    rw [guard_of_dots dots] at same
    cases same.mpr exposed
  · have up : ".." ∈ Path.elements rel := by
      by_contra down
      exact differ (iff_of_false dots down)
    have cleaned := clean_of_no_dots relative dots
    have names := (clean_canonical rel).plain
    refine ⟨chain _ names, (Lib.Path.mk true 0 (Path.clean rel).names).text, fun same => ?_⟩
    refine (same.mp ?_).2.1 up
    rw [guard_eq top relative cleaned dots, clean_root top, resolveWithin_eq_some (clean_canonical "/").plain]
    refine ⟨[], _, base, ?_, nil_prefix, rfl⟩
    rw [whole, nil_append, resolve_text names]
    exact resolve_chain names

end

/-- What the guard lets pass is there, at the resolved root or below it.  For a relative name the
guard lets pass what is exposed, with its resolved path, in every tree exactly if the name has two
dots in a row after cleaning where it has them as a segment. -/
theorem guardWorkspacePath_exact (rel : String) :
    (∀ t root path, isAbs root → guardWorkspacePath t root rel = some path →
      ∃ top names, t.resolve maxSymlinks [] (Path.clean root).names = .ok top ∧ top <+: names ∧
        t.Solid names ∧ path = (Lib.Path.mk true 0 names).text) ∧
    ((∀ t root, isAbs root → ∀ path, guardWorkspacePath t root rel = some path ↔ Exposed t root rel path) ↔
      (¬ isAbs rel → (hasDots (Path.clean rel).text ↔ ".." ∈ Path.elements rel))) := by
  refine ⟨fun t root path => guard_contained, fun same relative => ?_, fun agree t root absolute path => ?_⟩
  · by_contra differ
    obtain ⟨t, path, apart⟩ := guard_differs relative differ
    exact apart (same t "/" (by decide) path)
  · exact guard_iff_exposed absolute agree

/-- A workspace with a file, a file with two dots in its name, and a link that leads out. -/
def workspace : FileTree :=
  .ofEntries [(["w"], .dir), (["w", "a"], .file "1"), (["w", "a..b"], .file "2"),
    (["w", "out"], .link "../secret"), (["secret"], .file "3")] (by decide +kernel)

theorem guardWorkspacePath_exact_workspace : guardWorkspacePath workspace "/w" "./a" = some "/w/a" ∧
      Exposed workspace "/w" "./a" "/w/a" ∧ ¬ ∃ path, Exposed workspace "/w" "out" path := by
  have precise : ∀ rel, (¬ isAbs rel → (hasDots (Path.clean rel).text ↔ ".." ∈ Path.elements rel)) →
      ∀ path, guardWorkspacePath workspace "/w" rel = some path ↔ Exposed workspace "/w" rel path :=
    fun rel agree => (guardWorkspacePath_exact rel).2.mpr agree workspace "/w" (by decide)
  have passed : guardWorkspacePath workspace "/w" "./a" = some "/w/a" := by decide +kernel
  have refused : guardWorkspacePath workspace "/w" "out" = none := by decide +kernel
  refine ⟨passed, (precise "./a" (by decide +kernel) _).mp passed, fun ⟨path, exposed⟩ => ?_⟩
  have passes := (precise "out" (by decide +kernel) path).mpr exposed
  cases refused.symm.trans passes

/-- A file of the workspace whose name has two dots in a row is refused, and a name with a segment
of two dots passes when cleaning removes it. -/
theorem guard_refuses_dots : guardWorkspacePath workspace "/w" "a..b" = none ∧
      Exposed workspace "/w" "a..b" "/w/a..b" ∧ guardWorkspacePath workspace "/w" "x/../a" = some "/w/a" ∧
      ".." ∈ Path.elements "x/../a" := by
  refine ⟨by decide +kernel, ⟨by decide, by decide +kernel, ["w"], ["w", "a..b"], ?_⟩,
    by decide +kernel, by decide +kernel⟩
  exact ⟨by decide +kernel, by decide +kernel, by decide, by decide +kernel⟩

end AgentGrid.Gateway
