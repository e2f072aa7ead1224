import AgentGrid.Host.Event
import AgentGrid.Lib.GoString
import AgentGrid.Preparation.Cleanup

/-!
# Publishing a clone and finding it again

A clone is published by a rename, with a marker in it that names the preparation.  After a restart
the marker that is expected is computed again, from the record of the preparation that was saved
last.
-/

namespace AgentGrid.Preparation

open AgentGrid.Lib AgentGrid.Host List

/-- The directories that are there, with their marker if they have one. -/
abbrev Files := GoMap Path (Option String)

variable (sessionsRoot : String) (fs : Files) (prep : RepositoryPreparation)

def markerFor : String :=
  prep.id ++ ":" ++ toString prep.lastOwnedWorkerGeneration ++ ":" ++ toString prep.revision

/-- Where the clone of a preparation is published. -/
def cloneDir : Path :=
  Path.join [sessionsRoot, "clones", prep.id]

/-! ## Publication -/

inductive PublishCode where
  | atomicPublishOK | atomicPublishUnsupported | cloneIdentityConflict | publishFailed
  deriving DecidableEq

/-- The operations on the file system that can fail. -/
inductive FsOp where
  | stat | syncTree | writeMarker | syncMarker | mkdirParent | rename | syncDir
  deriving DecidableEq

inductive Fault where
  | io (message : String) | crossDevice (message : String) | dirSyncUnsupported (message : String)

def Fault.message : Fault → String
  | .io message => message
  | .crossDevice message => message
  | .dirSyncUnsupported message => message

structure PublishRequest where
  (stagingDir finalDir : Path)
  marker : String

/-- `ensureContainedSibling`: neither directory is in the other. -/
def nested (a b : Path) : Bool :=
  (a.text ++ "/").toList.isPrefixOf (b.text ++ "/").toList || (b.text ++ "/").toList.isPrefixOf (a.text ++ "/").toList

/-- `PublishClone`, with what is reported and the files afterwards. -/
def publishClone (faults : FsOp → Option Fault) (fs : Files) (req : PublishRequest) :
    PublishCode × String × Files :=
  if req.marker = "" then (.publishFailed, "staging, final, and marker required", fs)
  else if req.stagingDir = req.finalDir then (.publishFailed, "staging and final must differ", fs)
  else if nested req.stagingDir req.finalDir then (.publishFailed, "staging and final must not nest", fs)
  else
    match faults .stat with
    | some fault => (.publishFailed, fault.message, fs)
    | none =>
      if (fs.get? req.finalDir).isSome then (.cloneIdentityConflict, "final path exists", fs)
      else
        match faults .syncTree with
        | some fault => (.publishFailed, "staging_sync: " ++ fault.message, fs)
        | none =>
          match faults .writeMarker with
          | some fault => (.publishFailed, "marker_write: " ++ fault.message, fs)
          | none =>
            let marked := fs.set req.stagingDir (some req.marker)
            match faults .syncMarker with
            | some fault => (.publishFailed, "marker_sync: " ++ fault.message, marked)
            | none =>
              match faults .mkdirParent with
              | some fault => (.publishFailed, "mkdir_parent: " ++ fault.message, marked)
              | none =>
                match faults .rename with
                | some (.crossDevice message) => (.atomicPublishUnsupported, message, marked)
                | some fault => (.publishFailed, "rename: " ++ fault.message, marked)
                | none =>
                  let moved := (marked.delete req.stagingDir).set req.finalDir (some req.marker)
                  match faults .syncDir with
                  | some (.dirSyncUnsupported message) => (.atomicPublishUnsupported, message, moved)
                  | some fault => (.publishFailed, "parent_sync: " ++ fault.message, moved)
                  | none => (.atomicPublishOK, "", moved)

/-! ## Reconciliation -/

inductive ReconcileDisposition where
  | cloneReady | retryClone | conflict | quarantine
  deriving DecidableEq

def pathContained (root target : Path) : Bool :=
  root == target || (root.text ++ "/").toList.isPrefixOf target.text.toList

/-- `readMarker`, where the directory can be read. -/
def readMarker (dir : Path) : Option String :=
  match fs.get? dir with
  | some (some content) => if trimSpace content = "" then none else some (trimSpace content)
  | _ => none

/-- `ReconcileCloneEvidence`, with the diagnostic. -/
def reconcileCloneEvidence (stagingDir finalDir : Path) (expectedMarker : String) : ReconcileDisposition × String :=
  if sessionsRoot ≠ "" ∧ (!pathContained (Path.clean sessionsRoot) finalDir ∨
      !pathContained (Path.clean sessionsRoot) stagingDir) then
    (.quarantine, "path escapes root")
  else
    match readMarker fs finalDir with
    | some marker =>
      if expectedMarker ≠ "" ∧ marker ≠ expectedMarker then (.conflict, "marker mismatch")
      else (.cloneReady, "")
    | none =>
      if (fs.get? stagingDir).isSome then (.retryClone, "incomplete staging")
      else (.retryClone, "no durable final")

/-- The evidence for the clone of a preparation whose record is in stage clone-ready. -/
def cloneEvidence : ReconcileDisposition × String :=
  reconcileCloneEvidence sessionsRoot fs (stagingDir sessionsRoot prep)
    (finalDir sessionsRoot prep) (markerFor prep)

/-- `ReconcileStartup`, of one preparation. -/
def reconcileStartup : Option EvRepository :=
  match prep.stage with
  | .confirmed | .cloneInProgress => some { kind := .interrupted, preparationID := prep.id }
  | .cloneReady =>
    match (cloneEvidence sessionsRoot fs prep).1 with
    | .cloneReady => none
    | .conflict | .quarantine =>
      some { kind := .quarantined, preparationID := prep.id, observedRevision := prep.revision }
    | .retryClone => some { kind := .interrupted, preparationID := prep.id }
  | _ => none

/-- The clone is found and taken as the preparation's own. -/
def Recognised : Prop :=
  prep.stage = .cloneReady ∧ (cloneEvidence sessionsRoot fs prep).1 = .cloneReady

/-! ## Markers -/

section Markers

variable {p q : RepositoryPreparation}

theorem markerFor_toList (p : RepositoryPreparation) : (markerFor p).toList = p.id.toList ++ ':' ::
      (Nat.toDigits 10 p.lastOwnedWorkerGeneration ++ ':' :: Nat.toDigits 10 p.revision) := by
  simp [markerFor, Nat.toString_eq_repr, Nat.toList_repr]

theorem markerFor_inj (same : p.id = q.id) : markerFor p = markerFor q ↔
      p.lastOwnedWorkerGeneration = q.lastOwnedWorkerGeneration ∧ p.revision = q.revision := by
  rw [← String.toList_inj, markerFor_toList, markerFor_toList, same, append_right_inj, cons_inj_right,
    append_cons_inj_of_notMem (notMem_toDigits rfl _) (notMem_toDigits rfl _), toDigits_inj, toDigits_inj]
  simp

theorem markerFor_ne_empty (p : RepositoryPreparation) : markerFor p ≠ "" := by
  intro empty
  have chars := markerFor_toList p
  rw [empty] at chars
  simp at chars

theorem markerFor_getLast (p : RepositoryPreparation) :
    ∃ d, (markerFor p).toList.getLast? = some d ∧ isSpace d = false := by
  have nonempty : Nat.toDigits 10 p.revision ≠ [] := ne_nil_of_length_pos Nat.length_toDigits_pos
  refine ⟨(Nat.toDigits 10 p.revision).getLast nonempty, ?_, ?_⟩
  · rw [markerFor_toList, getLast?_append_of_ne_nil _ (by simp), getLast?_cons_of_ne_nil
      (by simp), getLast?_append_of_ne_nil _ (by simp), getLast?_cons_of_ne_nil nonempty,
      getLast?_eq_some_getLast nonempty]
  · exact isSpace_of_isDigit (Nat.isDigit_of_mem_toDigits (by decide) (by decide) (getLast_mem nonempty))

theorem markerFor_head (p : RepositoryPreparation) : (markerFor p).toList.head? = some (p.id.toList.headD ':') := by
  rw [markerFor_toList]
  cases p.id.toList <;> rfl

/-- The marker that is read back is the one that is expected exactly if the id does not begin with
white space and worker and revision are the same. -/
theorem trimmed_marker_iff (same : p.id = q.id) : trimSpace (markerFor p) = markerFor q ↔
      isSpace (p.id.toList.headD ':') = false ∧
        p.lastOwnedWorkerGeneration = q.lastOwnedWorkerGeneration ∧ p.revision = q.revision := by
  obtain ⟨d, last, unspaced⟩ := markerFor_getLast p
  constructor
  · intro trimmed
    have first : isSpace (p.id.toList.headD ':') = false := by
      refine trimSpace_head (s := markerFor p) ?_
      rw [trimmed, markerFor_head, same]
    refine ⟨first, ?_⟩
    rw [trimSpace_eq_self (markerFor_head p) last first unspaced] at trimmed
    exact (markerFor_inj same).mp trimmed
  · rintro ⟨first, equal⟩
    rw [trimSpace_eq_self (markerFor_head p) last first unspaced]
    exact (markerFor_inj same).mpr equal

end Markers

/-! ## Recognition -/

theorem publishClone_marker {faults : FsOp → Option Fault} {fs : Files} {req : PublishRequest}
    (ok : (publishClone faults fs req).1 = .atomicPublishOK) :
    (publishClone faults fs req).2.2.get? req.finalDir = some (some req.marker) := by
  revert ok
  fun_cases publishClone faults fs req with
  | case14 => exact fun _ => GoMap.get?_set_self _ _ _
  | _ => exact fun ok => by cases ok

/-- The clone that was published for a preparation is recognised from a later record of it exactly
if that record is in stage clone-ready and still has the revision and the worker of the
publication, and the paths pass the check of the root.  So it is recognised neither from the
record that the worker saves nor from the one that is saved when the clone is reported. -/
theorem published_clone_recognised_iff {sessionsRoot : String} {faults : FsOp → Option Fault}
    {fs : Files} {prep rec : RepositoryPreparation} (ok : (publishClone faults fs
      ⟨stagingDir sessionsRoot prep, cloneDir sessionsRoot prep, markerFor prep⟩).1 = .atomicPublishOK)
    (same : prep.id = rec.id) (located : finalDir sessionsRoot rec = cloneDir sessionsRoot prep) :
    (Recognised sessionsRoot (publishClone faults fs
        ⟨stagingDir sessionsRoot prep, cloneDir sessionsRoot prep, markerFor prep⟩).2.2 rec ↔
      rec.stage = .cloneReady ∧ rec.revision = prep.revision ∧
        rec.lastOwnedWorkerGeneration = prep.lastOwnedWorkerGeneration ∧ isSpace (prep.id.toList.headD ':') = false ∧
        (sessionsRoot = "" ∨ pathContained (Path.clean sessionsRoot) (cloneDir sessionsRoot prep) = true ∧
          pathContained (Path.clean sessionsRoot) (stagingDir sessionsRoot rec) = true)) ∧
      (rec.stage = .cloneInProgress ∨ rec.revision = prep.revision + 1 →
        ¬ Recognised sessionsRoot (publishClone faults fs
          ⟨stagingDir sessionsRoot prep, cloneDir sessionsRoot prep, markerFor prep⟩).2.2 rec) := by
  have written := publishClone_marker ok
  generalize (publishClone faults fs
    ⟨stagingDir sessionsRoot prep, cloneDir sessionsRoot prep, markerFor prep⟩).2.2 = after at *
  have main : Recognised sessionsRoot after rec ↔ rec.stage = .cloneReady ∧ rec.revision = prep.revision ∧
        rec.lastOwnedWorkerGeneration = prep.lastOwnedWorkerGeneration ∧ isSpace (prep.id.toList.headD ':') = false ∧
        (sessionsRoot = "" ∨ pathContained (Path.clean sessionsRoot) (cloneDir sessionsRoot prep) = true ∧
          pathContained (Path.clean sessionsRoot) (stagingDir sessionsRoot rec) = true) := by
    have marker : readMarker after (cloneDir sessionsRoot prep) =
        if trimSpace (markerFor prep) = "" then none else some (trimSpace (markerFor prep)) := by
      rw [readMarker, written]
    have equal := trimmed_marker_iff same
    rw [Recognised, cloneEvidence, reconcileCloneEvidence, located, marker]
    refine and_congr_right fun _ => ?_
    by_cases contained : sessionsRoot = "" ∨
        pathContained (Path.clean sessionsRoot) (cloneDir sessionsRoot prep) = true ∧
        pathContained (Path.clean sessionsRoot) (stagingDir sessionsRoot rec) = true
    · rw [if_neg (by
        rintro ⟨named, escapes⟩
        rcases contained with nameless | ⟨inFinal, inStaging⟩
        · exact named nameless
        · simp [inFinal, inStaging] at escapes)]
      have expected := markerFor_ne_empty rec
      by_cases own : trimSpace (markerFor prep) = markerFor rec
      · obtain ⟨first, worker, revision⟩ := equal.mp own
        refine iff_of_true ?_ ⟨revision.symm, worker.symm, first, contained⟩
        simp [own, expected]
      have other : ¬ (rec.revision = prep.revision ∧ rec.lastOwnedWorkerGeneration = prep.lastOwnedWorkerGeneration ∧
          isSpace (prep.id.toList.headD ':') = false) := by
        rintro ⟨revision, worker, first⟩
        exact own (equal.mpr ⟨first, worker.symm, revision.symm⟩)
      refine iff_of_false ?_ fun all => other ⟨all.1, all.2.1, all.2.2.1⟩
      by_cases unmarked : trimSpace (markerFor prep) = ""
      · rw [if_pos unmarked]
        dsimp only
        split <;> simp
      · rw [if_neg unmarked]
        simp [own, expected]
    rw [if_pos (by
      rw [not_or, not_and_or] at contained
      refine ⟨contained.1, ?_⟩
      simpa using contained.2)]
    exact iff_of_false (by simp) fun all => contained all.2.2.2
  refine ⟨main, ?_⟩
  rintro (early | later) recognised
  · have ready := recognised.1
    cases early.symm.trans ready
  · have revision := (main.mp recognised).2.1
    omega

def cloning : RepositoryPreparation where
  id := "p"
  intentID := "i"
  serverID := "s"
  repository := ⟨"r", "o", "n"⟩
  stage := .cloneInProgress
  revision := 2
  lastOwnedWorkerGeneration := 1

/-- The record that is saved when the clone of the preparation is reported. -/
def cloned : RepositoryPreparation :=
  { cloning with stage := .cloneReady, revision := 3, clonePath := "/data/sessions/clones/p", cloneDurable := true }

/-- The files with a staged clone, and what its publication makes of them. -/
def published : PublishCode × String × Files :=
  publishClone (fun _ => none) ((∅ : Files).set (stagingDir "/data/sessions" cloning) none)
    ⟨stagingDir "/data/sessions" cloning, cloneDir "/data/sessions" cloning, markerFor cloning⟩

theorem republished_record_recognised :
    Recognised "/data/sessions" published.2.2 { cloned with revision := 2 } := by
  have ok : (publishClone (fun _ => none) ((∅ : Files).set (stagingDir "/data/sessions" cloning) none)
      ⟨stagingDir "/data/sessions" cloning, cloneDir "/data/sessions" cloning,
        markerFor cloning⟩).1 = .atomicPublishOK := by
    decide +kernel
  have located : finalDir "/data/sessions" { cloned with revision := 2 } = cloneDir "/data/sessions" cloning := by
    decide +kernel
  have same : cloning.id = { cloned with revision := 2 }.id := rfl
  refine (published_clone_recognised_iff ok same located).1.mpr ⟨rfl, rfl, rfl, ?_, .inr ⟨?_, ?_⟩⟩
  all_goals decide +kernel

/-- A clone that was published and reported is quarantined at the next start; one that was not yet
reported is interrupted, and the next clone finds its own directory in the way. -/
theorem published_clone_quarantined : published.1 = .atomicPublishOK ∧
      (reconcileStartup "/data/sessions" published.2.2 cloned).map EvRepository.kind = some .quarantined ∧
      (reconcileStartup "/data/sessions" published.2.2 cloning).map EvRepository.kind = some .interrupted ∧
      (publishClone (fun _ => none) published.2.2
        ⟨stagingDir "/data/sessions" cloning, cloneDir "/data/sessions" cloning,
          markerFor cloning⟩).1 = .cloneIdentityConflict := by decide +kernel

end AgentGrid.Preparation
