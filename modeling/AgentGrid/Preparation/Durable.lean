import AgentGrid.Host.Preparations
import AgentGrid.Lib.Path

/-!
# The durable records of preparations

The event loop saves a preparation after each transition.  A clone worker works on the copy it was
started with, and saves that copy when the clone is published.  A record is a file named after the
preparation.  The effects of one event are executed one by one, and the workers come in between.
Saves succeed.
-/

namespace AgentGrid.Preparation

open AgentGrid.Lib AgentGrid.Host List GoMap

variable {D : Type}

/-- What the loop has still to do for the event at hand. -/
inductive LoopTask (D : Type) where
  | effect (e : Effect D) | startCloneAdmitted (id : PreparationID)

/-- The daemon's state, the durable records, the work of the loop and the copies of the clone
workers; and the records that the age sweep has deleted. -/
structure Archive (D : Type) where
  /-- `Root` of the store. -/
  root : String
  host : State D
  store : GoMap Path RepositoryPreparation := ∅
  todo : List (LoopTask D) := []
  workers : List RepositoryPreparation := []
  swept : List PreparationID := []

inductive ArchiveLabel (D : Type) where
  | dispatch (ev : Event D) | execute (admitted : Bool) | workerSave (prep : RepositoryPreparation)
  | workerQuit (prep : RepositoryPreparation) | sweep (path : Path)

namespace Archive

variable (env : Env D) (draw : Draw) (b : Archive D) (id : PreparationID)

def path : Path := Path.join [b.root, "preparations", id ++ ".json"]

/-- `Save`, of the record of a preparation. -/
def save (prep : RepositoryPreparation) : Archive D :=
  if prep.id = "" then b else { b with store := b.store.set (b.path prep.id) prep }

/-- `dispatch`: the effects come before what is left to do. -/
def dispatch (ev : Event D) (later : List (LoopTask D)) : Option (Archive D) :=
  match reduce env draw b.host ev with
  | .error _ => none
  | .ok r => some { b with host := r.1, todo := r.2.map LoopTask.effect ++ later }

/-- `startPreparationClone`: an admitted clone is reported as started before its worker is. -/
def startPreparationClone (generation : Nat) (admitted : Bool) (rest : List (LoopTask D)) : Option (Archive D) :=
  match findPreparation b.host id with
  | none => some { b with todo := rest }
  | some prep =>
    if prep.lastOwnedWorkerGeneration ≠ generation || !admitted then some { b with todo := rest }
    else
      b.dispatch env draw (.repository
          { kind := .cloneStarted, preparationID := prep.id, observedRevision := prep.revision })
        (.startCloneAdmitted id :: rest)

def execute (admitted : Bool) : Option (Archive D) :=
  match b.todo with
  | [] => none
  | .effect (.repositoryPersist id _) :: rest =>
    match findPreparation b.host id with
    | none => some { b with todo := rest }
    | some prep => some (save { b with todo := rest } prep)
  | .effect (.repositoryStartClone id _ _ generation) :: rest =>
    b.startPreparationClone env draw id generation admitted rest
  | .effect _ :: rest => some { b with todo := rest }
  | .startCloneAdmitted id :: rest =>
    match findPreparation b.host id with
    | none => some { b with todo := rest }
    | some prep =>
      some { b with todo := rest, workers := if prep.stage = .cloneInProgress then prep :: b.workers else b.workers }

/-- `SweepNeverAvailableOrphansN`, of one record that is old enough. -/
def sweep (path : Path) : Option (Archive D) :=
  match b.store.get? path with
  | none => none
  | some rec =>
    if rec.isSessionAvailable = false ∧
        rec.stage ∈ [.failed, .cancelled, .abandoned, .internalCorruption, .interrupted] then
      some { b with store := b.store.delete (b.path rec.id), swept := rec.id :: b.swept }
    else none

def apply : ArchiveLabel D → Option (Archive D)
  | .dispatch ev => if b.todo.isEmpty then b.dispatch env draw ev [] else none
  | .execute admitted => b.execute env draw admitted
  | .workerSave prep => if prep ∈ b.workers then some (save { b with workers := b.workers.erase prep } prep) else none
  | .workerQuit prep => if prep ∈ b.workers then some { b with workers := b.workers.erase prep } else none
  | .sweep path => if b.todo.isEmpty then b.sweep path else none

def Step (a : ArchiveLabel D) (b' : Archive D) : Prop :=
  ∃ draw : Draw, draw.Fresh b.host ∧ b.apply env draw a = some b'

def Pending : Prop :=
  ∃ revision, LoopTask.effect (.repositoryPersist id revision) ∈ b.todo

/-- What the loop and the workers keep true of the records. -/
structure Kept (b : Archive D) : Prop where
  sound : b.host.PreparationsSound
  named : b.host.repositoryPreparations.get? "" = none
  behind : ∀ path p, b.store.get? path = some p → path = b.path p.id ∧
    ∃ q, b.host.repositoryPreparations.get? p.id = some q ∧ p.revision ≤ q.revision ∧
      (p.revision = q.revision ∨ b.Pending p.id)
  known : ∀ id q, b.host.repositoryPreparations.get? id = some q →
    (∃ p, b.store.get? (b.path id) = some p ∧ p.id = id) ∨ b.Pending id ∨ id ∈ b.swept
  copies : ∀ w ∈ b.workers, ∃ q, b.host.repositoryPreparations.get? w.id = some q ∧ w.revision ≤ q.revision

end Archive

/-! ## What an event does to the preparations -/

section Events

variable {env : Env D} {s s' : State D} {ev : Event D} {effs : List (Effect D)}
  {id : PreparationID}

/-- The event saves the preparation, which is new or has moved on. -/
structure Renewed (s s' : State D) (effs : List (Effect D)) (id : PreparationID) : Prop where
  persisted : ∃ revision, Effect.repositoryPersist id revision ∈ effs
  named : id ≠ ""
  newer : ∃ q', s'.repositoryPreparations.get? id = some q' ∧
    ∀ q, s.repositoryPreparations.get? id = some q → q.revision < q'.revision

theorem renewed_of_transition {e : EvRepository} {p p' : RepositoryPreparation}
    (sound : s.PreparationsSound) (found : findPreparation s e.preparationID = some p)
    (transition : Transition e p p') (preps : s'.repositoryPreparations = s.repositoryPreparations.set p'.id p')
    (persisted : Effect.repositoryPersist p'.id p'.revision ∈ effs) :
    s'.repositoryPreparations.get? id = s.repositoryPreparations.get? id ∨ Renewed s s' effs id := by
  have stored := get?_of_findPreparation found
  have here := transition.id_eq.trans (sound.keyed _ _ stored)
  by_cases same : id = p'.id
  · subst same
    refine .inr ⟨⟨_, persisted⟩, ?_, p', ?_, ?_⟩
    · rintro nameless
      rw [← here, nameless] at found
      cases found
    · rw [preps]
      exact get?_set_self _ _ _
    · intro q before
      rw [here, stored] at before
      cases before
      rw [transition.revision]
      exact Nat.lt_succ_self _
  · left
    rw [preps, get?_set_of_ne _ same]

theorem kept_or_renewed (step : Host.Step env s (ev, effs) s') (sound : s.PreparationsSound) :
    s'.repositoryPreparations.get? id = s.repositoryPreparations.get? id ∨ Renewed s s' effs id := by
  cases asked : ev.preparation with
  | none => exact .inl (by rw [(step.preparations_eq asked).1])
  | some =>
    rcases step.prepared (Event.onPreparations_of_preparation asked) with
      same | ⟨d, e', _, prepared⟩
    · exact .inl (by rw [same])
    cases prepared with
    | answered => exact .inl rfl
    | created _ complete _ free =>
      by_cases here : id = e'.preparationID
      · subst here
        refine .inr ⟨⟨1, mem_cons_self⟩, ?_, confirmedPrep e', get?_set_self _ _ _, ?_⟩
        · rintro nameless
          simp [nameless] at complete
        · intro q before
          cases free.symm.trans before
      · exact .inl (get?_set_of_ne _ here _)
    | moved found _ transition => exact renewed_of_transition sound found transition rfl mem_cons_self
    | published found _ transition => exact renewed_of_transition sound found transition rfl mem_cons_self

theorem findPreparation_eq (named : s.repositoryPreparations.get? "" = none) :
    findPreparation s id = s.repositoryPreparations.get? id := by
  unfold findPreparation
  split
  · rename_i nameless
    rw [nameless, named]
  · rfl

end Events

/-! ## Runs -/

namespace Archive

variable {env : Env D} {b b' : Archive D} {a : ArchiveLabel D}

/-- The copy that a worker saves is not out of date: the state still has its revision, or the loop
is about to write over it and the record it replaces is no newer. -/
def Current (b : Archive D) : ArchiveLabel D → Prop
  | .workerSave prep =>
    (∃ q, b.host.repositoryPreparations.get? prep.id = some q ∧ prep.revision = q.revision) ∨
      b.Pending prep.id ∧ ∃ p, b.store.get? (b.path prep.id) = some p ∧ p.revision ≤ prep.revision
  | _ => True

/-- The ids in use name different files. -/
def Distinct (b : Archive D) : Prop :=
  ∀ id id' q q', b.host.repositoryPreparations.get? id = some q → b.host.repositoryPreparations.get? id' = some q' →
    b.path id = b.path id' → id = id'

def CurrentStep (env : Env D) (b : Archive D) (a : ArchiveLabel D) (b' : Archive D) : Prop :=
  Step env b a b' ∧ b.Current a ∧ b.Distinct

inductive Change (env : Env D) (b : Archive D) : ArchiveLabel D → Archive D → Prop where
  | reduced {a : ArchiveLabel D} {ev : Event D} {effs : List (Effect D)} {s' : State D}
      {later : List (LoopTask D)} (step : Host.Step env b.host (ev, effs) s')
      (remains : ∀ id revision, LoopTask.effect (.repositoryPersist id revision) ∈ b.todo →
        LoopTask.effect (.repositoryPersist id revision) ∈ later) :
      Change env b a { b with host := s', todo := effs.map LoopTask.effect ++ later }
  | passed {a : ArchiveLabel D} {todo : List (LoopTask D)} {workers : List RepositoryPreparation}
      (remains : ∀ id q revision, b.host.repositoryPreparations.get? id = some q →
        LoopTask.effect (.repositoryPersist id revision) ∈ b.todo →
        LoopTask.effect (.repositoryPersist id revision) ∈ todo)
      (hired : ∀ w ∈ workers, w ∈ b.workers ∨ b.host.repositoryPreparations.get? w.id = some w) :
      Change env b a { b with todo := todo, workers := workers }
  | persisted {a : ArchiveLabel D} {id : PreparationID} {revision : Nat} {rest : List (LoopTask D)}
      {prep : RepositoryPreparation}
      (head : b.todo = .effect (.repositoryPersist id revision) :: rest)
      (found : b.host.repositoryPreparations.get? id = some prep) :
      Change env b a { b with todo := rest, store := b.store.set (b.path id) prep }
  | copied {prep : RepositoryPreparation} (mem : prep ∈ b.workers) : Change env b (.workerSave prep)
        { b with workers := b.workers.erase prep, store := b.store.set (b.path prep.id) prep }
  | swept {a : ArchiveLabel D} {path : Path} {p : RepositoryPreparation} (stored : b.store.get? path = some p) :
      Change env b a { b with store := b.store.delete (b.path p.id), swept := p.id :: b.swept }

theorem dispatch_change {draw : Draw} {ev : Event D} {later : List (LoopTask D)}
    (fresh : draw.Fresh b.host) (dispatched : b.dispatch env draw ev later = some b')
    (remains : ∀ id revision, LoopTask.effect (.repositoryPersist id revision) ∈ b.todo →
      LoopTask.effect (.repositoryPersist id revision) ∈ later) : Change env b a b' := by
  unfold dispatch at dispatched
  split at dispatched
  · cases dispatched
  rename_i r reduced
  cases dispatched
  exact .reduced ⟨draw, fresh, reduced⟩ remains

theorem pass_change {task : LoopTask D} {rest : List (LoopTask D)} (head : b.todo = task :: rest)
    (saves : ∀ id revision, task = .effect (.repositoryPersist id revision) →
      b.host.repositoryPreparations.get? id = none) : Change env b a { b with todo := rest } := by
  refine .passed (fun id q revision found mem => ?_) fun w mem => .inl mem
  rw [head] at mem
  rcases mem_cons.mp mem with here | later
  · rw [saves id revision here.symm] at found
    cases found
  · exact later

theorem execute_change {draw : Draw} {admitted : Bool} (kept : b.Kept)
    (fresh : draw.Fresh b.host) (executed : b.execute env draw admitted = some b') : Change env b a b' := by
  have found_eq : ∀ id, findPreparation b.host id = b.host.repositoryPreparations.get? id :=
    fun id => findPreparation_eq kept.named
  have admits : ∀ {id rest}, b.todo = .startCloneAdmitted id :: rest → ∀ id' q revision',
      b.host.repositoryPreparations.get? id' = some q → LoopTask.effect (.repositoryPersist id' revision') ∈ b.todo →
      LoopTask.effect (.repositoryPersist id' revision') ∈ rest := by
    intro id rest head id' q revision' _ mem
    rw [head] at mem
    rcases mem_cons.mp mem with here | later
    · cases here
    · exact later
  revert executed
  fun_cases b.execute env draw admitted <;> intro executed <;> try cases executed
  case case2 head missing =>
    refine pass_change head fun id' revision' same => ?_
    cases same
    rw [← found_eq, missing]
  case case3 id _ rest head prep found =>
    rw [found_eq] at found
    have keyed := kept.sound.keyed _ _ found
    have nonempty : prep.id ≠ "" := by
      rintro nameless
      rw [← keyed, nameless, kept.named] at found
      cases found
    rw [save, if_neg nonempty]
    have change : Change env b a { b with todo := rest, store := b.store.set (b.path id) prep } := .persisted head found
    rwa [← keyed] at change
  case case4 head =>
    revert executed
    fun_cases b.startPreparationClone env draw _ _ admitted _ <;> intro executed <;> try cases executed
    case case3 =>
      refine dispatch_change fresh executed fun id' revision' mem => ?_
      rw [head] at mem
      rcases mem_cons.mp mem with here | later
      · cases here
      · exact mem_cons_of_mem _ later
    all_goals exact pass_change head fun _ _ same => by cases same
  case case5 other _ head =>
    refine pass_change head fun id' revision' same => ?_
    cases same
    exact absurd rfl (other _ _)
  case case6 head _ => exact .passed (admits head) fun w mem => .inl mem
  case case7 head prep found =>
    rw [found_eq] at found
    refine .passed (admits head) fun w mem => ?_
    split at mem
    · rcases mem_cons.mp mem with rfl | old
      · exact .inr (by rw [kept.sound.keyed _ _ found, found])
      · exact .inl old
    · exact .inl mem

theorem Step.change (kept : b.Kept) (step : Step env b a b') : Change env b a b' := by
  obtain ⟨draw, fresh, applied⟩ := step
  revert applied
  fun_cases b.apply env draw a <;> intro applied <;> try cases applied
  case case1 idle =>
    refine dispatch_change fresh applied fun id revision mem => ?_
    rw [List.isEmpty_iff.mp idle] at mem
    cases mem
  case case3 => exact execute_change kept fresh applied
  case case4 prep mem =>
    obtain ⟨q, found, _⟩ := kept.copies prep mem
    have nonempty : prep.id ≠ "" := by
      rintro nameless
      rw [nameless, kept.named] at found
      cases found
    rw [save, if_neg nonempty]
    exact .copied mem
  case case6 => exact .passed (fun _ _ _ _ mem => mem) fun w mem => .inl (mem_of_mem_erase mem)
  case case8 =>
    revert applied
    fun_cases b.sweep _ <;> rintro ⟨⟩
    exact .swept ‹_›

namespace Kept

section

variable (kept : b.Kept)

include kept

theorem reduced {ev : Event D} {effs : List (Effect D)} {s' : State D}
    {later : List (LoopTask D)} (step : Host.Step env b.host (ev, effs) s')
    (remains : ∀ id revision, LoopTask.effect (.repositoryPersist id revision) ∈ b.todo →
      LoopTask.effect (.repositoryPersist id revision) ∈ later) :
    Kept { b with host := s', todo := effs.map LoopTask.effect ++ later } := by
  have pending : ∀ id, b.Pending id → Pending { b with host := s', todo := effs.map LoopTask.effect ++ later } id :=
    fun id ⟨revision, mem⟩ => ⟨revision, mem_append_right _ (remains _ _ mem)⟩
  have persisted : ∀ id, Renewed b.host s' effs id →
      Pending { b with host := s', todo := effs.map LoopTask.effect ++ later } id := by
    intro id renewed
    obtain ⟨revision, mem⟩ := renewed.persisted
    exact ⟨revision, mem_append_left _ (mem_map_of_mem mem)⟩
  refine ⟨step.preparationsSound kept.sound, ?_, ?_, ?_, ?_⟩
  · rcases kept_or_renewed step kept.sound with same | renewed
    · exact same.trans kept.named
    · exact absurd rfl renewed.named
  · intro path p stored
    obtain ⟨keyed, q, before, le, fresh⟩ := kept.behind path p stored
    refine ⟨keyed, ?_⟩
    rcases kept_or_renewed step kept.sound with same | renewed
    · exact ⟨q, same.trans before, le, fresh.imp_right (pending p.id)⟩
    · obtain ⟨q', after, newer⟩ := renewed.newer
      exact ⟨q', after, le.trans (newer q before).le, .inr (persisted p.id renewed)⟩
  · intro id q after
    rcases kept_or_renewed step kept.sound with same | renewed
    · exact (kept.known id q (same.symm.trans after)).imp_right (.imp_left (pending id))
    · exact .inr (.inl (persisted id renewed))
  · intro w mem
    obtain ⟨q, before, le⟩ := kept.copies w mem
    rcases kept_or_renewed step kept.sound with same | renewed
    · exact ⟨q, same.trans before, le⟩
    · obtain ⟨q', after, newer⟩ := renewed.newer
      exact ⟨q', after, le.trans (newer q before).le⟩

theorem passed {todo : List (LoopTask D)} {workers : List RepositoryPreparation}
    (remains : ∀ id q revision, b.host.repositoryPreparations.get? id = some q →
      LoopTask.effect (.repositoryPersist id revision) ∈ b.todo →
      LoopTask.effect (.repositoryPersist id revision) ∈ todo)
    (hired : ∀ w ∈ workers, w ∈ b.workers ∨ b.host.repositoryPreparations.get? w.id = some w) :
    Kept { b with todo := todo, workers := workers } := by
  have pending : ∀ id q, b.host.repositoryPreparations.get? id = some q → b.Pending id →
      Pending { b with todo := todo, workers := workers } id :=
    fun id q found ⟨revision, mem⟩ => ⟨revision, remains id q revision found mem⟩
  refine ⟨kept.sound, kept.named, ?_, ?_, ?_⟩
  · intro path p stored
    obtain ⟨keyed, q, found, le, fresh⟩ := kept.behind path p stored
    exact ⟨keyed, q, found, le, fresh.imp_right (pending p.id q found)⟩
  · intro id q found
    exact (kept.known id q found).imp_right (.imp_left (pending id q found))
  · intro w mem
    rcases hired w mem with old | new
    · exact kept.copies w old
    · exact ⟨w, new, le_rfl⟩

section

variable (distinct : b.Distinct)

include distinct

theorem persisted {id : PreparationID} {revision : Nat} {rest : List (LoopTask D)}
    {prep : RepositoryPreparation} (head : b.todo = .effect (.repositoryPersist id revision) :: rest)
    (found : b.host.repositoryPreparations.get? id = some prep) :
    Kept { b with todo := rest, store := b.store.set (b.path id) prep } := by
  have keyed := kept.sound.keyed _ _ found
  have pending : ∀ id', id' ≠ id → b.Pending id' →
      Pending { b with todo := rest, store := b.store.set (b.path id) prep } id' := by
    rintro id' other ⟨revision', mem⟩
    rw [head] at mem
    rcases mem_cons.mp mem with here | later
    · cases here
      exact absurd rfl other
    · exact ⟨revision', later⟩
  refine ⟨kept.sound, kept.named, ?_, ?_, kept.copies⟩
  · intro path p stored
    by_cases here : path = b.path id
    · subst here
      rw [get?_set_self] at stored
      cases stored
      exact ⟨congrArg b.path keyed.symm, prep, keyed ▸ found, le_rfl, .inl rfl⟩
    rw [get?_set_of_ne _ here] at stored
    obtain ⟨there, q, before, le, fresh⟩ := kept.behind path p stored
    have other : p.id ≠ id := fun same => here (same ▸ there)
    exact ⟨there, q, before, le, fresh.imp_right (pending p.id other)⟩
  · intro id' q before
    by_cases here : id' = id
    · subst here
      exact .inl ⟨prep, get?_set_self _ _ _, keyed⟩
    · have other : b.path id' ≠ b.path id := fun same => here (distinct _ _ _ _ before found same)
      refine (kept.known id' q before).imp ?_ (.imp_left (pending id' here))
      rintro ⟨p, stored, named⟩
      exact ⟨p, (get?_set_of_ne _ other _).trans stored, named⟩

theorem copied {prep : RepositoryPreparation} (mem : prep ∈ b.workers) (current : b.Current (.workerSave prep)) :
    Kept { b with workers := b.workers.erase prep, store := b.store.set (b.path prep.id) prep } := by
  obtain ⟨q, found, le⟩ := kept.copies prep mem
  refine ⟨kept.sound, kept.named, ?_, ?_, fun w left => kept.copies w (mem_of_mem_erase left)⟩
  · intro path p stored
    by_cases here : path = b.path prep.id
    · subst here
      rw [get?_set_self] at stored
      cases stored
      refine ⟨rfl, q, found, le, ?_⟩
      rcases current with ⟨q', found', same⟩ | ⟨pending, _⟩
      · cases found.symm.trans found'
        exact .inl same
      · exact .inr pending
    · rw [get?_set_of_ne _ here] at stored
      exact kept.behind path p stored
  · intro id q' before
    by_cases here : id = prep.id
    · subst here
      exact .inl ⟨prep, get?_set_self _ _ _, rfl⟩
    · have other : b.path id ≠ b.path prep.id := fun same => here (distinct _ _ _ _ before found same)
      refine (kept.known id q' before).imp_left ?_
      rintro ⟨p, stored, named⟩
      exact ⟨p, (get?_set_of_ne _ other _).trans stored, named⟩

theorem swept {path : Path} {p : RepositoryPreparation} (stored : b.store.get? path = some p) :
    Kept { b with store := b.store.delete (b.path p.id), swept := p.id :: b.swept } := by
  obtain ⟨-, q, found, -⟩ := kept.behind path p stored
  refine ⟨kept.sound, kept.named, fun path' p' left => kept.behind path' p' (get?_of_delete left).2, ?_, kept.copies⟩
  intro id q' before
  by_cases here : id = p.id
  · exact .inr (.inr (here ▸ mem_cons_self))
  · have other : b.path id ≠ b.path p.id := fun same => here (distinct _ _ _ _ before found same)
    refine (kept.known id q' before).imp ?_ (.imp_right (mem_cons_of_mem _))
    rintro ⟨p', there, named⟩
    exact ⟨p', (get?_delete_of_ne _ other).trans there, named⟩

end

theorem step (step : CurrentStep env b a b') : b'.Kept := by
  cases step.1.change kept with
  | reduced reduced remains => exact kept.reduced reduced remains
  | passed remains hired => exact kept.passed remains hired
  | persisted head found => exact kept.persisted step.2.2 head found
  | copied mem => exact kept.copied step.2.2 mem step.2.1
  | swept stored => exact kept.swept step.2.2 stored

end

end Kept

/-- The file holds no older record of the preparation, and no other record. -/
structure AtLeast (id : PreparationID) (path : Path) (r : Nat) (b : Archive D) : Prop where
  named : b.path id = path
  live : ∃ q, b.host.repositoryPreparations.get? id = some q ∧ r ≤ q.revision
  durable : ∀ p, b.store.get? path = some p → p.id = id ∧ r ≤ p.revision

theorem AtLeast.step {id : PreparationID} {path : Path} {r : Nat} (least : AtLeast id path r b) (kept : b.Kept)
    (step : CurrentStep env b a b') : AtLeast id path r b' := by
  obtain ⟨rfl, ⟨q, found, le⟩, durable⟩ := least
  cases step.1.change kept with
  | reduced reduced =>
    refine ⟨rfl, ?_, durable⟩
    rcases kept_or_renewed reduced kept.sound with same | renewed
    · exact ⟨q, same.trans found, le⟩
    · obtain ⟨q', after, newer⟩ := renewed.newer
      exact ⟨q', after, le.trans (newer q found).le⟩
  | passed => exact ⟨rfl, ⟨q, found, le⟩, durable⟩
  | @persisted _ id' _ _ prep _ here =>
    refine ⟨rfl, ⟨q, found, le⟩, fun p stored => ?_⟩
    rcases get?_of_set stored with ⟨same, rfl⟩ | before
    · obtain rfl := step.2.2 _ _ _ _ found here same
      cases here.symm.trans found
      exact ⟨kept.sound.keyed _ _ found, le⟩
    · exact durable p before
  | @copied prep mem =>
    refine ⟨rfl, ⟨q, found, le⟩, fun p stored => ?_⟩
    obtain ⟨_, copied, -⟩ := kept.copies prep mem
    rcases get?_of_set stored with ⟨same, rfl⟩ | before
    · obtain rfl := step.2.2 _ _ _ _ found copied same
      rcases step.2.1 with ⟨q', found', same⟩ | ⟨_, p, old, newer⟩
      · cases found.symm.trans found'
        exact ⟨rfl, le.trans same.ge⟩
      · exact ⟨rfl, (durable p old).2.trans newer⟩
    · exact durable p before
  | swept => exact ⟨rfl, ⟨q, found, le⟩, fun p stored => durable p (get?_of_delete stored).2⟩

/-- The loop has just come up with the records of the store. -/
structure Loaded (b : Archive D) : Prop where
  sound : b.host.PreparationsSound
  named : b.host.repositoryPreparations.get? "" = none
  loaded : ∀ path p, b.store.get? path = some p ↔
    path = b.path p.id ∧ b.host.repositoryPreparations.get? p.id = some p
  idle : b.todo = [] ∧ b.workers = []

theorem Loaded.kept (loaded : b.Loaded) : b.Kept := by
  refine ⟨loaded.sound, loaded.named, ?_, ?_, ?_⟩
  · intro path p stored
    obtain ⟨there, found⟩ := (loaded.loaded path p).mp stored
    exact ⟨there, p, found, le_rfl, .inl rfl⟩
  · intro id q found
    have keyed := loaded.sound.keyed _ _ found
    exact .inl ⟨q, (loaded.loaded _ q).mpr ⟨congrArg b.path keyed.symm, keyed ▸ found⟩, keyed⟩
  · intro w mem
    rw [loaded.idle.2] at mem
    cases mem

/-- In every run in which the ids in use name different files and no worker saves a copy that is out
of date, the record in a file stays that of its preparation and its revision never decreases, and once
the loop has nothing left to do every record has the revision of the state; a preparation without a
record has been swept. -/
theorem durable_revision_never_falls {b₀ b₁ b : Archive D} {labels more : List (ArchiveLabel D)}
    (loaded : b₀.Loaded) (run : Run (CurrentStep env) b₀ labels b₁) (rest : Run (CurrentStep env) b₁ more b) :
    (∀ path p p', b₁.store.get? path = some p → b.store.get? path = some p' →
      p'.id = p.id ∧ p.revision ≤ p'.revision) ∧
    (b.todo = [] →
      (∀ path p, b.store.get? path = some p →
        ∃ q, b.host.repositoryPreparations.get? p.id = some q ∧ p.revision = q.revision) ∧
      ∀ id q, b.host.repositoryPreparations.get? id = some q →
        (∃ p, b.store.get? (b.path id) = some p ∧ p.id = id) ∨ id ∈ b.swept) := by
  have kept₁ : b₁.Kept := run.invariant Kept loaded.kept fun _ _ _ kept step => kept.step step
  constructor
  · intro path p p' before after
    obtain ⟨named, q, found, le, _⟩ := kept₁.behind path p before
    have start : AtLeast p.id path p.revision b₁ := by
      refine ⟨named.symm, ⟨q, found, le⟩, fun p₁ stored => ?_⟩
      cases before.symm.trans stored
      exact ⟨rfl, le_rfl⟩
    have least := rest.invariant (fun b => b.Kept ∧ AtLeast p.id path p.revision b) ⟨kept₁, start⟩
      fun _ _ _ ⟨kept, least⟩ step => ⟨kept.step step, least.step kept step⟩
    exact least.2.durable p' after
  · intro idle
    have kept : b.Kept := rest.invariant Kept kept₁ fun _ _ _ kept step => kept.step step
    have still : ∀ id, ¬ b.Pending id := by
      rintro id ⟨revision, mem⟩
      rw [idle] at mem
      cases mem
    constructor
    · intro path p stored
      obtain ⟨_, q, found, _, fresh⟩ := kept.behind path p stored
      exact ⟨q, found, fresh.resolve_right (still p.id)⟩
    · intro id q found
      exact (kept.known id q found).imp_right (·.resolve_left (still id))

/-! ## Driving the loop -/

/-- The step of the label, where the character is free to make new ids from. -/
def attempt (env : Env D) (b : Archive D) (input : Char × ArchiveLabel D) : Option (Archive D × ArchiveLabel D) :=
  if b.host.avoids input.1 then (b.apply env (Draw.tagged input.1) input.2).map fun b' => (b', input.2)
  else none

theorem attempt_step {input : Char × ArchiveLabel D} (tried : attempt env b input = some (b', a)) :
    Step env b a b' ∧ input.2 = a := by
  obtain ⟨unused, tried⟩ := Option.ite_none_right_eq_some.mp tried
  obtain ⟨_, applied, ⟨⟩⟩ := Option.map_eq_some_iff.mp tried
  exact ⟨⟨_, Draw.tagged_fresh unused, applied⟩, rfl⟩

/-- The ids in use name different files, and a copy that is saved has the revision of the state. -/
def orderly (b : Archive D) (a : ArchiveLabel D) : Bool :=
  let preps := b.host.repositoryPreparations
  preps.entries.all (fun e => preps.entries.all fun e' => e.1 = e'.1 || b.path e.1 ≠ b.path e'.1) &&
    match a with
    | .workerSave prep => (preps.get? prep.id).any (prep.revision = ·.revision)
    | _ => true

theorem current_of_orderly (orderly : b.orderly a = true) : b.Current a ∧ b.Distinct := by
  obtain ⟨apart, current⟩ := Bool.and_eq_true_iff.mp orderly
  constructor
  · cases a with
    | workerSave prep =>
      obtain ⟨q, found, same⟩ := (Option.any_eq_true _ _).mp current
      exact .inl ⟨q, found, of_decide_eq_true same⟩
    | _ => trivial
  · intro id id' q q' found found' same
    have one := List.all_eq_true.mp (List.all_eq_true.mp apart (id, q) (mem_entries.mpr found)) (id', q')
      (mem_entries.mpr found')
    simpa [same] using one

def attemptOrderly (env : Env D) (b : Archive D) (input : Char × ArchiveLabel D) :
    Option (Archive D × ArchiveLabel D) := if b.orderly input.2 then attempt env b input else none

variable (inputs : List (Char × ArchiveLabel D)) {labels : List (ArchiveLabel D)}

theorem attempt_run (driven : drive (attempt env) b inputs = some (b', labels)) : Run (Step env) b labels b' :=
  drive_run (fun _ _ _ _ tried => (attempt_step tried).1) driven

theorem attemptOrderly_run (driven : drive (attemptOrderly env) b inputs = some (b', labels)) :
    Run (CurrentStep env) b labels b' := by
  refine drive_run (fun s input s' a tried => ?_) driven
  obtain ⟨orderly, tried⟩ := Option.ite_none_right_eq_some.mp tried
  obtain ⟨step, rfl⟩ := attempt_step tried
  exact ⟨step, current_of_orderly orderly⟩

def empty : Archive Unit := { root := "/d", host := State.new {} }

theorem empty_loaded : empty.Loaded := ⟨.new {}, rfl, fun _ _ => ⟨nofun, nofun⟩, rfl, rfl⟩

def creating (id : PreparationID) : EvRepository :=
  { kind := .create, intentID := "i" ++ id, preparationID := id, serverID := "v"
    repository := ⟨"1", "o", "n"⟩, command := "x" }

/-- A repository is asked for and its clone is started. -/
def cloning : List (Char × ArchiveLabel Unit) :=
  [('a', .dispatch (.repository (creating "p"))), ('a', .execute false), ('a', .execute true)] ++
    List.replicate 4 ('b', .execute true)

/-- The copy that the worker of that clone was started with. -/
def startedCopy : RepositoryPreparation :=
  { confirmedPrep (creating "p") with stage := .cloneInProgress, revision := 2 }

/-- The worker of a clone saves its copy beside another preparation, and the record has the revision
of the state. -/
theorem clone_worker_saves_current : ∃ labels more b₁ b, Run (CurrentStep Env.inert) empty labels b₁ ∧
      Run (CurrentStep Env.inert) b₁ more b ∧ (b₁.store.get? (b₁.path "q")).map (·.revision) = some 1 ∧
      (b.store.get? (b.path "p")).map (·.revision) = some 2 ∧
      ∀ path p p', b₁.store.get? path = some p → b.store.get? path = some p' →
        p'.id = p.id ∧ p.revision ≤ p'.revision := by
  have facts : (drive (attemptOrderly Env.inert) empty (cloning ++ [('d', .dispatch (.repository (creating "q"))),
      ('d', .execute false)])).bind (fun r => (drive (attemptOrderly Env.inert) r.1
        [('e', .workerSave startedCopy)]).map fun r' => ((r.1.store.get? (r.1.path "q")).map (·.revision),
          (r'.1.store.get? (r'.1.path "p")).map (·.revision))) = some (some 1, some 2) := by
    decide +kernel
  obtain ⟨⟨b₁, _⟩, first, facts⟩ := Option.bind_eq_some_iff.mp facts
  obtain ⟨⟨b, _⟩, second, facts⟩ := Option.map_eq_some_iff.mp facts
  have run := attemptOrderly_run _ first
  have saved := attemptOrderly_run _ second
  exact ⟨_, _, b₁, b, run, saved, congrArg Prod.fst facts, congrArg Prod.snd facts,
    (durable_revision_never_falls empty_loaded run saved).1⟩

/-- The preparation is cancelled and saved while its clone is being published; the worker then
writes the revision it was started with over it, and the loop and the workers are idle. -/
theorem worker_overwrites_cancellation : ∃ labels b b', Run (Step Env.inert) empty labels b ∧
      Step Env.inert b (.workerSave startedCopy) b' ∧ (b.store.get? (b.path "p")).map (·.revision) = some 3 ∧
      (b'.store.get? (b'.path "p")).map (·.revision) = some 2 ∧ b'.todo.isEmpty = true ∧ b'.workers = [] ∧
      (b'.host.repositoryPreparations.get? "p").map (·.revision) = some 3 := by
  have run : Run (Step Env.inert) empty _ _ := attempt_run (cloning ++ [('c', .dispatch (.repository
        { kind := .cancelled, preparationID := "p", observedRevision := 2 })),
      ('d', .execute true), ('d', .execute true), ('d', .execute true)]) rfl
  exact ⟨_, _, _, run, ⟨_, Draw.tagged_fresh (c := 'e') rfl, rfl⟩, rfl, rfl, rfl, rfl, rfl⟩

end Archive

end AgentGrid.Preparation
