import AgentGrid.Host.Action

/-!
# The transitions of a preparation

A repository event is refused or answered without effect on the state, creates a
preparation, or takes the preparation it names through one transition.  The table of
transitions is written down once; the reducers are sorted into it.
-/

namespace AgentGrid.Host

open AgentGrid.Lib

variable {D : Type}

/-- The transitions, each with the stages it starts from and the record it leads to. -/
inductive Transition (e : EvRepository) (p : RepositoryPreparation) :
    RepositoryPreparation → Prop where
  | cloneStarted (kind : e.kind = .cloneStarted)
      (stage : p.stage ∈ [.confirmed, .failed, .cancelled, .interrupted])
      (origin : p.retryOrigin = .none ∨ p.retryOrigin = .clone) : Transition e p
        { p with stage := .cloneInProgress, failureCode := .none, retryOrigin := .none, revision := p.revision + 1 }
  | cloneReady (kind : e.kind = .cloneReady) (stage : p.stage = .cloneInProgress)
      (path : e.clonePath ≠ "") : Transition e p
        { p with
          clonePath := e.clonePath, cloneDurable := true, stage := .cloneReady
          failureCode := .none, retryOrigin := .none, revision := p.revision + 1 }
  | failed {code : PreparationFailureCode} (kind : e.kind = .failed)
      (stage : p.stage.isTerminal = false) : Transition e p
        { p with
          stage := .failed, failureCode := code, retryOrigin := interruptedOrigin p, revision := p.revision + 1 }
  | cancelled (kind : e.kind = .cancelled) (stage : p.stage.isTerminal = false) : Transition e p
        { p with
          stage := .cancelled, failureCode := .cancelled, retryOrigin := interruptedOrigin p
          revision := p.revision + 1 }
  | interrupted (kind : e.kind = .interrupted)
      (stage : p.stage ∈ [.confirmed, .cloneInProgress, .cloneReady]) : Transition e p
        { p with
          stage := .interrupted, failureCode := .interrupted, retryOrigin := interruptedOrigin p
          revision := p.revision + 1 }
  | quarantined (kind : e.kind = .quarantined) (stage : p.isSessionAvailable = false) : Transition e p
        { p with
          stage := .internalCorruption, failureCode := .internalCorrupt, retryOrigin := .none
          revision := p.revision + 1 }
  | relaunch (kind : e.kind = .retry) (stage : p.stage ∈ [.failed, .cancelled, .interrupted])
      (origin : p.retryOrigin = .launch) : Transition e p
        { p with
          lastOwnedWorkerGeneration := p.lastOwnedWorkerGeneration + 1, failureCode := .none
          retryOrigin := .none, revision := p.revision + 1, stage := .cloneReady }
  | reclone (kind : e.kind = .retry) (stage : p.stage ∈ [.failed, .cancelled, .interrupted])
      (origin : p.retryOrigin ≠ .launch) : Transition e p
        { p with
          lastOwnedWorkerGeneration := p.lastOwnedWorkerGeneration + 1, failureCode := .none
          retryOrigin := .none, revision := p.revision + 1, stage := .confirmed
          cloneDurable := false, clonePath := "" }
  | available (kind : e.kind = .commitAvailable) (stage : p.stage = .cloneReady)
      (durable : e.cloneDurable = true) (launched : e.launchSucceeded = true)
      (named : e.sessionID ≠ "") (path : e.clonePath ≠ "") : Transition e p
        { p with
          stage := .available, sessionID := e.sessionID, clonePath := e.clonePath
          cloneDurable := true, launchSucceeded := true, failureCode := .none
          retryOrigin := .none, revision := p.revision + 1 }
  | abandoned (kind : e.kind = .abandon) (stage : p.stage ≠ .available) :
      Transition e p { p with stage := .abandoned, revision := p.revision + 1 }

/-- The effect asks the preparation worker for something. -/
def Effect.preparing : Effect D → Bool
  | .repositoryPersist .. | .repositoryStartClone .. | .repositoryLaunchSession ..
  | .repositoryStopOwnedWork .. | .broadcastSessionsChanged => true
  | _ => false

def confirmedPrep (e : EvRepository) : RepositoryPreparation :=
  { id := e.preparationID, intentID := e.intentID, serverID := e.serverID
    repository := e.repository, stage := .confirmed, revision := 1, lastOwnedWorkerGeneration := 1 }

def intendedCreation (e : EvRepository) : CreationIntent :=
  ⟨e.intentID, e.serverID, e.repository, e.fingerprint, e.command⟩

/-- The event names everything a preparation needs. -/
@[simp] def EvRepository.complete (e : EvRepository) : Bool :=
  e.intentID != "" && e.preparationID != "" && e.serverID != "" && e.repository.valid && e.command != ""

inductive Prepared (d : Draw) (s : State D) (e : EvRepository) :
    Reduced D → Prop where
  | answered {effs : List (Effect D)}
      (answers : ∀ x ∈ effs, x.repliesTo = some (e.connID, e.reqID)) : Prepared d s e (s, effs)
  | created (kind : e.kind = .create) (complete : e.complete = true)
      (unprepared : ∀ intent, s.creationIntents.get? e.intentID = some intent →
        findPrepByIntent d s e.intentID = none)
      (free : s.repositoryPreparations.get? e.preparationID = none) :
      Prepared d s e (storePrep (putCreationIntent s (intendedCreation e)) (confirmedPrep e) e.connID e.reqID
          [startClone (confirmedPrep e)])
  | moved {p p' : RepositoryPreparation} {extra : List (Effect D)}
      (found : findPreparation s e.preparationID = some p)
      (fence : e.kind ≠ .interrupted → e.observedRevision = p.revision)
      (transition : Transition e p p') (unpublished : p'.stage ≠ .available)
      (asks : extra.all Effect.preparing = true) : Prepared d s e (storePrep s p' e.connID e.reqID extra)
  | published {p p' : RepositoryPreparation} {extra : List (Effect D)}
      (found : findPreparation s e.preparationID = some p)
      (fence : e.observedRevision = p.revision) (transition : Transition e p p')
      (available : e.kind = .commitAvailable)
      (free : s.sessions.get? e.sessionID = none) (asks : extra.all Effect.preparing = true) :
      Prepared d s e ({ (storePrep s p' e.connID e.reqID extra).1 with
            sessions := s.sessions.set e.sessionID (publishedSession p' e) },
          (storePrep s p' e.connID e.reqID extra).2)

variable {d : Draw} {s : State D} {e : EvRepository}

theorem Prepared.effects {r : Reduced D} (prepared : Prepared d s e r) :
    ∀ x ∈ r.2, x.preparing = true ∨ x.repliesTo = some (e.connID, e.reqID) := by
  have stored : ∀ base {p} {extra : List (Effect D)},
      extra.all Effect.preparing = true → ∀ x ∈ (storePrep base p e.connID e.reqID extra).2,
      x.preparing = true ∨ x.repliesTo = some (e.connID, e.reqID) := by
    intro base p extra asks x mem
    simp only [storePrep, List.mem_append, List.mem_singleton] at mem
    rcases mem with (rfl | asked) | rfl
    · exact .inl rfl
    · exact .inl (List.all_eq_true.mp asks x asked)
    · exact .inr rfl
  cases prepared with
  | answered answers => exact fun x mem => .inr (answers x mem)
  | created => exact stored _ rfl
  | moved _ _ _ _ asks | published _ _ _ _ _ asks => exact stored s asks

/-! ## Sorting the reducers -/

theorem reject_prepared {code : PreparationFailureCode} {message : String} :
    Prepared d s e (s, rejectPrep e.connID e.reqID code message) :=
  .answered (by simp [errResp])

theorem snapshot_prepared {prep : RepositoryPreparation} :
    Prepared d s e (s, [okResp e.connID e.reqID (.repositoryPreparation (prepSnapshot prep))]) :=
  .answered (by simp [okResp])

theorem fenced_prepared {next : RepositoryPreparation → Reduced D}
    (goesOn : ∀ p, findPreparation s e.preparationID = some p → e.observedRevision = p.revision →
      Prepared d s e (next p)) : Prepared d s e (fenced s e next) := by
  unfold fenced loadPrepFenced
  cases found : findPreparation s e.preparationID with
  | none => exact reject_prepared
  | some p =>
    by_cases stale : e.observedRevision ≠ p.revision
    · simp only [stale, ne_eq, not_false_eq_true, if_true]
      exact .answered (by simp [errResp])
    · simp only [stale, if_false]
      exact goesOn p found (not_not.mp stale)

theorem reduceRepositoryCreate_prepared (kind : e.kind = .create) :
    Prepared d s e (reduceRepositoryCreate d s e) := by
  fun_cases reduceRepositoryCreate d s e
  case case5 present known _ unprepared free _ _ =>
    refine .created kind ?_ ?_ (Option.not_isSome_iff_eq_none.mp free)
    · simpa [and_assoc] using present
    · intro intent found
      rwa [show known = some intent from found] at unprepared
  all_goals first | exact reject_prepared | exact snapshot_prepared

theorem reduceRepositoryCloneStarted_prepared (kind : e.kind = .cloneStarted) :
    Prepared d s e (reduceRepositoryCloneStarted s e) := by
  refine fenced_prepared fun p found fence => ?_
  split
  · exact reject_prepared
  rename_i stage
  split
  · exact reject_prepared
  rename_i origin
  refine .moved found (fun _ => fence) (.cloneStarted kind (not_not.mp stage) ?_) (by simp) rfl
  by_cases none : p.retryOrigin = .none
  · exact .inl none
  · exact .inr (not_not.mp fun other => origin ⟨none, other⟩)

theorem reduceRepositoryCloneReady_prepared (kind : e.kind = .cloneReady) :
    Prepared d s e (reduceRepositoryCloneReady s e) := by
  refine fenced_prepared fun p found fence => ?_
  split
  · exact reject_prepared
  rename_i stage
  split
  · exact reject_prepared
  · rename_i path
    exact .moved found (fun _ => fence) (.cloneReady kind (not_not.mp stage) path) (by simp) rfl

theorem reduceRepositoryFailed_prepared (kind : e.kind = .failed) : Prepared d s e (reduceRepositoryFailed s e) := by
  refine fenced_prepared fun p found fence => ?_
  split
  · exact reject_prepared
  · rename_i stage
    exact .moved found (fun _ => fence) (.failed kind (Bool.not_eq_true _ ▸ stage)) (by simp) rfl

theorem reduceRepositoryCancelled_prepared (kind : e.kind = .cancelled) :
    Prepared d s e (reduceRepositoryCancelled s e) := by
  refine fenced_prepared fun p found fence => ?_
  split
  · exact reject_prepared
  · rename_i stage
    exact .moved found (fun _ => fence) (.cancelled kind (Bool.not_eq_true _ ▸ stage)) (by simp) rfl

theorem reduceRepositoryInterrupted_prepared (kind : e.kind = .interrupted) :
    Prepared d s e (reduceRepositoryInterrupted s e) := by
  unfold reduceRepositoryInterrupted
  cases found : findPreparation s e.preparationID with
  | none => exact reject_prepared
  | some =>
    dsimp only
    split
    · rename_i stage
      exact .moved found (absurd kind) (.interrupted kind stage) (by simp) rfl
    · exact snapshot_prepared

theorem reduceRepositoryQuarantined_prepared (kind : e.kind = .quarantined) :
    Prepared d s e (reduceRepositoryQuarantined s e) := by
  refine fenced_prepared fun p found fence => ?_
  split
  · exact reject_prepared
  rename_i stage
  exact .moved found (fun _ => fence) (.quarantined kind (Bool.not_eq_true _ ▸ stage)) (by simp) rfl

theorem reduceRepositoryRetry_prepared (kind : e.kind = .retry) : Prepared d s e (reduceRepositoryRetry s e) := by
  refine fenced_prepared fun p found fence => ?_
  split
  · exact reject_prepared
  rename_i stage
  split
  · rename_i origin
    exact .moved found (fun _ => fence) (.relaunch kind (not_not.mp stage) origin) (by simp) rfl
  · rename_i origin
    exact .moved found (fun _ => fence) (.reclone kind (not_not.mp stage) origin) (by simp) rfl

theorem reduceRepositoryCommitAvailable_prepared (kind : e.kind = .commitAvailable) :
    Prepared d s e (reduceRepositoryCommitAvailable s e) := by
  refine fenced_prepared fun p found fence => ?_
  split
  · exact reject_prepared
  rename_i stage
  split
  · exact reject_prepared
  rename_i evidence
  split
  · exact reject_prepared
  rename_i ids
  split
  · exact reject_prepared
  rename_i free
  rw [not_or] at ids
  have proven : e.cloneDurable = true ∧ e.launchSucceeded = true := by simpa using evidence
  have absent : s.sessions.get? e.sessionID = none := by simpa [ids.1] using free
  exact .published found fence (.available kind (not_not.mp stage) proven.1 proven.2 ids.1 ids.2) kind absent rfl

theorem reduceRepositoryAbandon_prepared (kind : e.kind = .abandon) :
    Prepared d s e (reduceRepositoryAbandon s e) := by
  refine fenced_prepared fun p found fence => ?_
  split
  · exact reject_prepared
  · rename_i stage
    exact .moved found (fun _ => fence) (.abandoned kind stage) (by simp) rfl

theorem reduceRepository_prepared : Prepared d s e (reduceRepository d s e) := by
  unfold reduceRepository
  cases kind : e.kind with
  | create => exact reduceRepositoryCreate_prepared kind
  | cloneStarted => exact reduceRepositoryCloneStarted_prepared kind
  | cloneReady => exact reduceRepositoryCloneReady_prepared kind
  | failed => exact reduceRepositoryFailed_prepared kind
  | cancelled => exact reduceRepositoryCancelled_prepared kind
  | interrupted => exact reduceRepositoryInterrupted_prepared kind
  | quarantined => exact reduceRepositoryQuarantined_prepared kind
  | retry => exact reduceRepositoryRetry_prepared kind
  | commitAvailable => exact reduceRepositoryCommitAvailable_prepared kind
  | abandon => exact reduceRepositoryAbandon_prepared kind
  | unknown => exact reject_prepared

end AgentGrid.Host
