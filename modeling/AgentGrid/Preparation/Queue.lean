import AgentGrid.Host.Types
import AgentGrid.Lib.Run

/-!
# The queue of repository preparations

A preparation is cloned once a ledger of counters admits it.
-/

namespace AgentGrid.Preparation

open AgentGrid.Lib AgentGrid.Host Function List

def prepCapActivePerServer : Int := 4
def prepCapQueuedPerServer : Int := 32
def prepCapActivePerRepository : Int := 2
def prepCapNeverAvailableBytes : Int := 20 * 1073741824

/-- The ledger; a key that is absent reads 0. -/
structure PreparationCapacity where
  (activeGlobal queuedGlobal : Int := 0)
  activeByRepo : String → Int := fun _ => 0
  neverAvailBytes : Int := 0
  (processByIntent stagingByIntent : CreationIntentID → Int := fun _ => 0)

inductive Refusal where
  | intentWorkerBusy | capacityQueuedFull | capacityActiveFull | capacityRepositoryActiveFull | capacityDiskFull
  deriving DecidableEq

def repoKey (p : RepositoryPreparation) : String := p.serverID ++ "/" ++ p.repository.id

namespace PreparationCapacity

variable (c : PreparationCapacity) (p : RepositoryPreparation)

def admitClone (cloneBytes : Int) : Option Refusal :=
  if c.processByIntent p.intentID > 0 ∨ c.stagingByIntent p.intentID > 0 then some .intentWorkerBusy
  else if c.activeGlobal ≥ prepCapActivePerServer then
    if c.queuedGlobal ≥ prepCapQueuedPerServer then some .capacityQueuedFull else some .capacityActiveFull
  else if c.activeByRepo (repoKey p) ≥ prepCapActivePerRepository then some .capacityRepositoryActiveFull
  else if c.neverAvailBytes + cloneBytes > prepCapNeverAvailableBytes then some .capacityDiskFull
  else none

def beginActive : PreparationCapacity :=
  { c with
    activeGlobal := c.activeGlobal + 1
    activeByRepo := update c.activeByRepo (repoKey p) (c.activeByRepo (repoKey p) + 1)
    processByIntent := update c.processByIntent p.intentID 1
    stagingByIntent := update c.stagingByIntent p.intentID 1 }

def endActive : PreparationCapacity :=
  let n := c.activeByRepo (repoKey p)
  { c with
    activeGlobal := if c.activeGlobal > 0 then c.activeGlobal - 1 else c.activeGlobal
    activeByRepo := update c.activeByRepo (repoKey p) (if n > 0 then n - 1 else n)
    processByIntent := update c.processByIntent p.intentID 0
    stagingByIntent := update c.stagingByIntent p.intentID 0 }

def enqueue : PreparationCapacity := { c with queuedGlobal := c.queuedGlobal + 1 }

end PreparationCapacity

/-- The ledger and who was refused for lack of an active slot and waits. -/
structure Controller where
  cap : PreparationCapacity := {}
  waiting : List PreparationID := []

inductive ControllerLabel where
  | tryAdmit (p : RepositoryPreparation) | endActive (p : RepositoryPreparation)
  /-- A preparation is cancelled, abandoned or failed. -/
  | leave (id : PreparationID)
  /-- The bytes of the clones that no session owns are charged anew. -/
  | charge (bytes : Int)

namespace Controller

/-- Every refusal but one fails the preparation. -/
def tryAdmit (c : Controller) (p : RepositoryPreparation) : Controller :=
  match c.cap.admitClone p 0 with
  | none => ⟨c.cap.beginActive p, c.waiting.erase p.id⟩
  | some .capacityActiveFull => ⟨c.cap.enqueue, c.waiting.insert p.id⟩
  | some _ => ⟨c.cap, c.waiting.erase p.id⟩

def act (c : Controller) : ControllerLabel → Option Controller
  | .tryAdmit p => some (c.tryAdmit p)
  | .endActive p => some { c with cap := c.cap.endActive p }
  | .leave id => some { c with waiting := c.waiting.erase id }
  | .charge bytes => some { c with cap := { c.cap with neverAvailBytes := bytes } }

/-- Who waits is neither tried again nor leaves. -/
def patient (c : Controller) : ControllerLabel → Bool
  | .tryAdmit p => p.id ∉ c.waiting
  | .leave id => id ∉ c.waiting
  | _ => true

def Step (c : Controller) (label : ControllerLabel) (c' : Controller) : Prop := c.act label = some c'

variable {c c' : Controller} {label : ControllerLabel}

theorem queue_step (queued : c.cap.queuedGlobal = c.waiting.length) (patient : c.patient label = true)
    (step : c.Step label c') : c'.cap.queuedGlobal = c'.waiting.length := by
  cases label with
  | tryAdmit p =>
    have fresh := of_decide_eq_true patient
    cases step
    unfold tryAdmit
    split
    · simpa [PreparationCapacity.beginActive, erase_of_not_mem fresh] using queued
    · simp [PreparationCapacity.enqueue, insert_of_not_mem fresh, queued]
    · simpa [erase_of_not_mem fresh] using queued
  | leave id =>
    have fresh := of_decide_eq_true patient
    cases step
    simpa [erase_of_not_mem fresh] using queued
  | endActive | charge =>
    cases step
    exact queued

/-- Where who waits is neither tried again nor leaves, the counter of the queue is the number of those
who wait, and nobody is refused for a full queue while nobody waits. -/
theorem queue_exact {labels : List ControllerLabel}
    (run : Run (fun c label c' => Step c label c' ∧ c.patient label = true) {} labels c) :
    c.cap.queuedGlobal = c.waiting.length ∧ ∀ p, c.cap.admitClone p 0 = some .capacityQueuedFull → c.waiting ≠ [] := by
  have queued : c.cap.queuedGlobal = c.waiting.length :=
    run.invariant (fun c => c.cap.queuedGlobal = c.waiting.length) rfl fun _ _ _ queued step =>
      queue_step queued step.2 step.1
  refine ⟨queued, fun p refused empty => ?_⟩
  unfold PreparationCapacity.admitClone at refused
  simp [queued, empty, prepCapQueuedPerServer] at refused
  split_ifs at refused <;> cases refused

def clone (id : PreparationID) : ControllerLabel := .tryAdmit ⟨id, id, "s", ⟨id, "o", "r"⟩, .confirmed, .none, .none,
  1, 1, "", "", false, false⟩

/-- Four clones are active; each of 32 more is refused and cancelled. -/
def cancelled : List ControllerLabel :=
  ["a", "b", "c", "d"].map clone ++ (List.range 32).flatMap fun n => [clone (toString n), .leave (toString n)]

theorem cancelled_stay_queued : ∃ c, Run Step {} cancelled c ∧ c.waiting = [] ∧ c.cap.queuedGlobal = 32 := by
  have replayed : (replay act {} cancelled).map (fun c => (c.waiting, c.cap.queuedGlobal)) = some ([], 32) := by
    decide +kernel
  obtain ⟨c, done, seen⟩ := Option.map_eq_some_iff.mp replayed
  exact ⟨c, replay_run done, Prod.mk.inj seen⟩

theorem queue_exact_waiting : ∃ c, Run (fun c label c' => Step c label c' ∧ c.patient label = true) {}
    (["a", "b", "c", "d", "e"].map clone) c ∧ c.waiting = ["e"] ∧ c.cap.queuedGlobal = c.waiting.length := by
  have replayed : (replay (guarded act fun c label => c.patient label = true) {}
      (["a", "b", "c", "d", "e"].map clone)).map waiting = some ["e"] := by decide +kernel
  obtain ⟨c, done, seen⟩ := Option.map_eq_some_iff.mp replayed
  exact ⟨c, guarded_run done, seen, (queue_exact (guarded_run done)).1⟩

end Controller

end AgentGrid.Preparation
