import AgentGrid.Orchestrator.Workspaces
import Mathlib.Logic.Function.Basic

/-!
# Workspaces are prepared before they are used

A workspace is prepared by the hook that runs after its directory is created, and a directory that
is there is taken for a prepared one.  Calls may overlap, hooks and directory operations may fail,
and the orchestrator may crash between any two of their steps.
-/

namespace AgentGrid.Orchestrator.Workspace

open AgentGrid.Lib List Option Function

/-- What is at a path; a directory with the identifiers its creation hook has succeeded for. -/
inductive Node where
  | file | dir (prepared : List String)
  deriving DecidableEq

/-- `Path`, below the root: a clean join leaves the root for these keys only. -/
def path (identifier : String) : Option String :=
  let key := sanitizeKey identifier
  if key = "" ∨ key = "." ∨ key = ".." then none else some key

/-- Where a call of `Ensure` stands that has found nothing at its path. -/
inductive Stage where
  | mkdir | hook | cleanup
  deriving DecidableEq

structure Call where
  (identifier path : String)
  stage : Stage
  deriving DecidableEq

structure System where
  nodes : String → Option Node
  calls : List Call := []

inductive Label where
  /-- `Ensure` looks at its path; the look may fail. -/
  | stat (identifier : String) (failed : Bool) | mkdirAll (c : Call) (failed : Bool) | hook (c : Call) (failed : Bool)
  /-- The directory is removed after a failed hook. -/
  | cleanup (c : Call) (removed : Bool)
  /-- `Remove`, whose hook does not matter. -/
  | remove (identifier : String) (removed : Bool) | crash
  deriving DecidableEq

namespace System

/-- A call leaves the node at its path, and goes on or returns. -/
def settle (s : System) (c : Call) (node : Option Node) (back : Option Call) : System :=
  ⟨Function.update s.nodes c.path node, back.toList ++ s.calls.erase c⟩

def act (s : System) : Label → Option System
  | .stat identifier failed =>
    (path identifier).map fun p =>
      if failed = false ∧ s.nodes p = none then { s with calls := ⟨identifier, p, .mkdir⟩ :: s.calls }
      else s
  | .mkdirAll c failed =>
    if c ∈ s.calls ∧ c.stage = .mkdir then
      match failed, s.nodes c.path with
      | false, none => some (s.settle c (some (.dir [])) (some { c with stage := .hook }))
      | false, some (.dir prepared) => some (s.settle c (some (.dir prepared)) (some { c with stage := .hook }))
      | _, node => some (s.settle c node none)
    else none
  | .hook c failed =>
    if c ∈ s.calls ∧ c.stage = .hook then
      match failed, s.nodes c.path with
      | true, node => some (s.settle c node (some { c with stage := .cleanup }))
      | false, some (.dir prepared) => some (s.settle c (some (.dir (c.identifier :: prepared))) none)
      | false, node => some (s.settle c node none)
    else none
  | .cleanup c removed =>
    if c ∈ s.calls ∧ c.stage = .cleanup then some (s.settle c (if removed then none else s.nodes c.path) none)
    else none
  | .remove identifier removed =>
    (path identifier).map fun p => if removed then { s with nodes := Function.update s.nodes p none } else s
  | .crash => some { s with calls := [] }

def Step (s : System) (label : Label) (s' : System) : Prop := s.act label = some s'

/-- The identifier and the path for which a step makes `Ensure` return. -/
def returns (s : System) : Label → Option (String × String)
  | .stat identifier false =>
    (path identifier).bind fun p =>
      match s.nodes p with
      | some (.dir _) => some (identifier, p)
      | _ => none
  | .hook c false => some (c.identifier, c.path)
  | _ => none

/-- The hook has succeeded for the identifier since the directory came into existence. -/
def Prepared (s : System) (identifier p : String) : Prop :=
  ∃ prepared, s.nodes p = some (.dir prepared) ∧ identifier ∈ prepared

/-- No other call is made for the path of one that is under way, a directory is removed after a
failed hook, and there is no crash once it is created. -/
def orderly (s : System) : Label → Bool
  | .stat identifier _ | .remove identifier _ => s.calls.all fun c => decide (path identifier ≠ some c.path)
  | .cleanup _ removed => removed
  | .crash => s.calls.all fun c => decide (c.stage = .mkdir)
  | .mkdirAll _ _ | .hook _ _ => true

end System

def Label.identifier : Label → Option String
  | .stat identifier _ | .remove identifier _ => some identifier
  | _ => none

/-! ## Directories are prepared or being prepared -/

@[simp] def Call.Stands (c : Call) (node : Option Node) : Prop :=
  if c.stage = .mkdir then node = none else ∃ prepared, node = some (.dir prepared)

variable {used : String → Prop}

structure System.Sound (used : String → Prop) (s : System) : Prop where
  apart : (s.calls.map Call.path).Nodup
  named : ∀ c ∈ s.calls, used c.identifier ∧ path c.identifier = some c.path
  stands : ∀ c ∈ s.calls, c.Stands (s.nodes c.path)
  dirs : ∀ p prepared, s.nodes p = some (.dir prepared) →
    (∃ c ∈ s.calls, c.path = p) ∨ ∃ x ∈ prepared, used x ∧ path x = some p

namespace System.Sound

variable {s s' : System} {c : Call} {node : Option Node} {back : Option Call} {label : Label}

theorem settle (sound : s.Sound used) (mem : c ∈ s.calls) (goes : ∀ c', back = some c' →
      c'.path = c.path ∧ c'.identifier = c.identifier ∧ c'.Stands node)
    (leaves : back = none → ∀ prepared, node = some (.dir prepared) →
      ∃ x ∈ prepared, used x ∧ path x = some c.path) : (s.settle c node back).Sound used := by
  have same := (perm_cons_erase mem).map Call.path
  obtain ⟨free, rest⟩ := nodup_cons.mp (same.nodup_iff.mp sound.apart)
  have other : ∀ d ∈ s.calls.erase c, d.path ≠ c.path := fun d left clash => free (clash ▸ List.mem_map_of_mem left)
  have old : ∀ d ∈ s.calls.erase c, d ∈ s.calls := fun d => mem_of_mem_erase
  constructor
  · cases back with
    | none => exact rest
    | some c' => exact nodup_cons.mpr ⟨(goes c' rfl).1 ▸ free, rest⟩
  · intro d held
    rcases mem_append.mp held with new | left
    · obtain ⟨at_, id_, -⟩ := goes d (mem_toList.mp new)
      rw [at_, id_]
      exact sound.named c mem
    · exact sound.named d (old d left)
  · intro d held
    rcases mem_append.mp held with new | left
    · obtain ⟨at_, -, stands⟩ := goes d (mem_toList.mp new)
      rw [at_]
      simpa [System.settle] using stands
    · simpa [System.settle, other d left] using sound.stands d (old d left)
  · intro p prepared found
    by_cases here : p = c.path
    · subst here
      simp only [System.settle, update_self] at found
      cases back with
      | none => exact .inr (leaves rfl prepared found)
      | some c' => exact .inl ⟨c', mem_cons_self, (goes c' rfl).1⟩
    · simp only [System.settle, update_of_ne here] at found
      refine (sound.dirs p prepared found).imp_left ?_
      rintro ⟨d, held, rfl⟩
      refine ⟨d, mem_append_right _ ((mem_erase_of_ne ?_).mpr held), rfl⟩
      rintro rfl
      exact here rfl

theorem away {identifier p : String} (known : path identifier = some p)
    (orderly : (s.calls.all fun c => decide (path identifier ≠ some c.path)) = true) : ∀ c ∈ s.calls, c.path ≠ p := by
  rintro c mem rfl
  simpa [known] using List.all_eq_true.mp orderly c mem

theorem step (sound : s.Sound used) (named : ∀ x, label.identifier = some x → used x)
    (orderly : s.orderly label = true) (step : s.Step label s') : s'.Sound used := by
  cases label with
  | stat identifier =>
    obtain ⟨p, known, rfl⟩ := map_eq_some_iff.mp step
    split
    · rename_i absent
      have away := away known orderly
      refine ⟨nodup_cons.mpr ⟨?_, sound.apart⟩, ?_, ?_, fun q prepared found => ?_⟩
      · rintro held
        obtain ⟨c, mem, same⟩ := List.mem_map.mp held
        exact away c mem same
      · simpa [named identifier rfl, known] using sound.named
      · simpa [absent.2] using sound.stands
      · exact (sound.dirs q prepared found).imp_left fun ⟨c, mem, at_⟩ => ⟨c, mem_cons_of_mem _ mem, at_⟩
    · exact sound
  | mkdirAll c failed =>
    obtain ⟨⟨mem, stage⟩, step⟩ := ite_none_right_eq_some.mp step
    have absent : s.nodes c.path = none := by simpa [stage] using sound.stands c mem
    rw [absent] at step
    cases failed <;> cases step
    · exact sound.settle mem (by simp) nofun
    · exact sound.settle mem nofun nofun
  | hook c failed =>
    obtain ⟨⟨mem, stage⟩, step⟩ := ite_none_right_eq_some.mp step
    obtain ⟨prepared, there⟩ : ∃ prepared, s.nodes c.path = some (.dir prepared) := by
      simpa [stage] using sound.stands c mem
    rw [there] at step
    cases failed <;> cases step
    · refine sound.settle mem nofun ?_
      rintro - _ ⟨⟩
      exact ⟨_, mem_cons_self, sound.named c mem⟩
    · exact sound.settle mem (by simp) nofun
  | cleanup c removed =>
    obtain ⟨⟨mem, -⟩, step⟩ := ite_none_right_eq_some.mp step
    obtain rfl : removed = true := orderly
    cases step
    exact sound.settle mem nofun nofun
  | remove =>
    obtain ⟨p, known, rfl⟩ := map_eq_some_iff.mp step
    have away := away known orderly
    split
    · refine ⟨sound.apart, sound.named, fun c mem => ?_, fun q prepared found => ?_⟩
      · simpa [away c mem] using sound.stands c mem
      · have other : q ≠ p := by
          rintro rfl
          simp at found
        exact sound.dirs q prepared (by simpa [other] using found)
    · exact sound
  | crash =>
    cases step
    refine ⟨nodup_nil, nofun, nofun, fun p prepared found => ?_⟩
    rcases sound.dirs p prepared found with ⟨c, mem, rfl⟩ | made
    · have stage : c.stage = .mkdir := by simpa using List.all_eq_true.mp orderly c mem
      have absent : s.nodes c.path = none := by simpa [stage] using sound.stands c mem
      cases absent.symm.trans found
    · exact .inr made

end System.Sound

/-- Where each issue has a directory of its own and the calls are orderly, a path that `Ensure`
returns was prepared for the same issue. -/
theorem ensured_workspace_prepared {start s s' : System} {labels : List Label} {label : Label}
    (fresh : start.calls = [] ∧ ∀ p prepared, start.nodes p ≠ some (.dir prepared))
    (distinct : ∀ x y, used x → used y → path x = path y → x = y)
    (run : Run (fun s label s' => s.Step label s' ∧ s.orderly label = true ∧
      ∀ x, label.identifier = some x → used x) start labels s)
    (step : s.Step label s') (orderly : s.orderly label = true)
    (named : ∀ x, label.identifier = some x → used x) {x p : String}
    (returned : s.returns label = some (x, p)) : s'.Prepared x p := by
  have sound : s.Sound used := by
    refine run.invariant (System.Sound used) ⟨?_, ?_, ?_, ?_⟩
      fun s label s' sound ⟨step, orderly, named⟩ => sound.step named orderly step
    · simp [fresh.1]
    · simp [fresh.1]
    · simp [fresh.1]
    · exact fun p prepared found => absurd found (fresh.2 p prepared)
  cases label with
  | stat identifier failed =>
    cases failed with
    | true => cases returned
    | false =>
      obtain ⟨q, known, found⟩ := bind_eq_some_iff.mp returned
      split at found <;> cases found
      rename_i prepared there
      obtain ⟨_, known', rfl⟩ := map_eq_some_iff.mp step
      obtain rfl := some.inj (known.symm.trans known')
      rw [if_neg (by simp [there])]
      refine ⟨prepared, there, ?_⟩
      rcases sound.dirs p prepared there with ⟨c, mem, at_⟩ | ⟨y, mem, namedY, pathY⟩
      · exact absurd at_ (System.Sound.away known orderly c mem)
      · rwa [distinct x y (named x rfl) namedY (known.trans pathY.symm)]
  | hook c failed =>
    cases failed with
    | true => cases returned
    | false =>
      cases returned
      obtain ⟨⟨mem, stage⟩, step⟩ := ite_none_right_eq_some.mp step
      obtain ⟨prepared, there⟩ : ∃ prepared, s.nodes c.path = some (.dir prepared) := by
        simpa [stage] using sound.stands c mem
      rw [there] at step
      cases step
      exact ⟨_, update_self _ _ _, mem_cons_self⟩
  | mkdirAll | cleanup | remove | crash => cases returned

def creating : Call := ⟨"ENG-1", "ENG-1", .mkdir⟩

theorem path_creating : path "ENG-1" = some "ENG-1" := by decide +kernel

/-- The directory of the issue is created, and the call is still there or the process has crashed. -/
def created (calls : List Call) : System :=
  ⟨Function.update (fun _ => none) "ENG-1" (some (.dir [])), calls⟩

theorem stat_creating : System.Step ⟨fun _ => none, []⟩ (.stat "ENG-1" false) ⟨fun _ => none, [creating]⟩ := by
  simp [System.Step, System.act, path_creating, creating]

theorem mkdirAll_creating : System.Step ⟨fun _ => none, [creating]⟩ (.mkdirAll creating false)
    (created [{ creating with stage := .hook }]) := rfl

def hooking : Call := { creating with stage := .hook }

def prepared : System := (created [hooking]).settle hooking (some (.dir ["ENG-1"])) none

theorem nodes_prepared : prepared.nodes "ENG-1" = some (.dir ["ENG-1"]) := rfl

/-- The theorem at a second call for an issue, which finds the directory of the first. -/
theorem ensured_workspace_prepared_first :
    prepared.Step (.stat "ENG-1" false) prepared ∧ prepared.Prepared "ENG-1" "ENG-1" := by
  have run : Run (fun s label s' => System.Step s label s' ∧ s.orderly label = true ∧
      ∀ x, label.identifier = some x → x = "ENG-1") ⟨fun _ => none, []⟩
      [.stat "ENG-1" false, .mkdirAll creating false, .hook hooking false] prepared :=
    ((Run.refl.snoc ⟨stat_creating, rfl, by simp [Label.identifier]⟩).snoc
      ⟨mkdirAll_creating, rfl, fun _ told => by cases told⟩).snoc (s := created [hooking])
        ⟨rfl, rfl, fun _ told => by cases told⟩
  have step : prepared.Step (.stat "ENG-1" false) prepared := by
    simp [System.Step, System.act, path_creating, nodes_prepared]
  exact ⟨step, ensured_workspace_prepared ⟨rfl, fun _ _ there => by cases there⟩
    (fun x y left right _ => left.trans right.symm) run step rfl (by simp [Label.identifier])
    (by simp [System.returns, path_creating, nodes_prepared])⟩

/-- After a crash between the creation and the hook, the directory passes for a prepared one. -/
theorem unprepared_after_crash : Run System.Step ⟨fun _ => none, []⟩
      [.stat "ENG-1" false, .mkdirAll creating false, .crash] (created []) ∧
    (created []).returns (.stat "ENG-1" false) = some ("ENG-1", "ENG-1") ∧
    (created []).Step (.stat "ENG-1" false) (created []) ∧ ¬ (created []).Prepared "ENG-1" "ENG-1" := by
  refine ⟨((Run.refl.snoc stat_creating).snoc mkdirAll_creating).snoc rfl, ?_, ?_, ?_⟩
  · simp [System.returns, path_creating, created]
  · simp [System.Step, System.act, path_creating, created]
  · rintro ⟨prepared, there, mem⟩
    cases there
    cases mem

end AgentGrid.Orchestrator.Workspace
