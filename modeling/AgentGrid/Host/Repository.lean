import AgentGrid.Host.Helpers

/-!
# Repository preparations

The life cycle of preparing a session from a repository: clone, launch, commit.
Every transition after the first is fenced by the revision the caller observed.
The commit publishes a session record that holds no frames.
-/

namespace AgentGrid.Host

open AgentGrid.Lib

variable {D : Type}

variable (d : Draw) (s : State D) (prep : RepositoryPreparation) (e : EvRepository) (conn : ConnID)
  (req : String)

def findPreparation (id : PreparationID) : Option RepositoryPreparation :=
  if id = "" then none else s.repositoryPreparations.get? id

def putPreparation (p : RepositoryPreparation) : State D :=
  { s with repositoryPreparations := s.repositoryPreparations.set p.id p }

def putCreationIntent (intent : CreationIntent) : State D :=
  { s with creationIntents := s.creationIntents.set intent.id intent }

@[simp] def sessionIsAvailableProjection (id : SessionID) : Bool :=
  id != "" && (s.sessions.get? id).isSome

def findPrepByIntent (intent : CreationIntentID) : Option RepositoryPreparation :=
  (s.repositoryPreparations.range d.toRangeOrder).findSome? fun e => if e.2.intentID = intent then some e.2 else none

def prepSnapshot (p : RepositoryPreparation) : RepositoryPreparationReply :=
  { preparationID := p.id, intentID := p.intentID, serverID := p.serverID
    repository := p.repository, stage := p.stage.text, failureCode := p.failureCode.text
    retryOrigin := p.retryOrigin.text, revision := p.revision, sessionID := p.sessionID, clonePath := p.clonePath }

@[simp] def rejectPrep (code : PreparationFailureCode) (msg : String) : List (Effect D) :=
  [errResp conn req code.text msg]

def illegal (prep : RepositoryPreparation) (conn : ConnID) (req : String) : List (Effect D) :=
  rejectPrep conn req .illegalTransition ("illegal preparation transition from " ++ prep.stage.text)

/-- `loadPrepFenced`; the error carries the effects of the refusal. -/
def loadPrepFenced : Except (List (Effect D)) RepositoryPreparation :=
  match findPreparation s e.preparationID with
  | none => .error (rejectPrep e.connID e.reqID .invalidIdentity "preparation not found")
  | some prep =>
    if e.observedRevision ≠ prep.revision then
      .error [errResp e.connID e.reqID errCodeStaleRevision "observed revision does not match"]
    else .ok prep

/-- Run a transition on the fenced preparation, or refuse and leave the state alone. -/
def fenced (next : RepositoryPreparation → Reduced D) : Reduced D :=
  match loadPrepFenced s e with
  | .error effs => (s, effs)
  | .ok prep => next prep

/-- Store a preparation and report it: persist, the given effects, then the reply. -/
def storePrep (effs : List (Effect D)) : Reduced D :=
  (putPreparation s prep, [.repositoryPersist prep.id prep.revision] ++ effs ++
      [okResp conn req (.repositoryPreparation (prepSnapshot prep))])

def advancePrep (stage : PreparationStage) (code : PreparationFailureCode) (origin : RetryOrigin)
    (conn : ConnID) (req : String) : Reduced D :=
  storePrep s
    { prep with stage := stage, failureCode := code, retryOrigin := origin, revision := prep.revision + 1 }
    conn req []

def startClone : Effect D :=
  .repositoryStartClone prep.id prep.serverID prep.repository prep.lastOwnedWorkerGeneration

@[simp] def launchSession : Effect D :=
  .repositoryLaunchSession prep.id prep.serverID prep.repository prep.lastOwnedWorkerGeneration

@[simp] def stopOwnedWork : Effect D :=
  .repositoryStopOwnedWork prep.id prep.lastOwnedWorkerGeneration

/-- Where a preparation that stops short has to be taken up again. -/
def interruptedOrigin : RetryOrigin :=
  if prep.stage = .cloneReady then .launch else .clone

def reduceRepositoryCreate : Reduced D :=
  if e.intentID = "" ∨ e.preparationID = "" ∨ e.serverID = "" ∨ !e.repository.valid ∨ e.command = "" then
    (s, rejectPrep e.connID e.reqID .invalidIdentity "fully-qualified identities and command required")
  else
    let known := s.creationIntents.get? e.intentID
    if known.any fun existing => existing.fingerprint != e.fingerprint then
      (s, rejectPrep e.connID e.reqID .illegalTransition "intent fingerprint conflict")
    else
      match known.bind fun _ => findPrepByIntent d s e.intentID with
      | some prep => (s, [okResp e.connID e.reqID (.repositoryPreparation (prepSnapshot prep))])
      | none =>
        if (s.repositoryPreparations.get? e.preparationID).isSome then
          (s, rejectPrep e.connID e.reqID .illegalTransition "preparation already exists")
        else
          let prep : RepositoryPreparation :=
            { id := e.preparationID, intentID := e.intentID, serverID := e.serverID
              repository := e.repository, stage := .confirmed, revision := 1, lastOwnedWorkerGeneration := 1 }
          let intended := putCreationIntent s ⟨e.intentID, e.serverID, e.repository, e.fingerprint, e.command⟩
          storePrep intended prep e.connID e.reqID [startClone prep]

def reduceRepositoryCloneStarted : Reduced D :=
  fenced s e fun prep =>
    if prep.stage ∉ [.confirmed, .failed, .cancelled, .interrupted] then (s, illegal prep e.connID e.reqID)
    else if prep.retryOrigin ≠ .none ∧ prep.retryOrigin ≠ .clone then (s, illegal prep e.connID e.reqID)
    else advancePrep s prep .cloneInProgress .none .none e.connID e.reqID

def reduceRepositoryCloneReady : Reduced D :=
  fenced s e fun prep =>
    if prep.stage ≠ .cloneInProgress then (s, illegal prep e.connID e.reqID)
    else if e.clonePath = "" then (s, rejectPrep e.connID e.reqID .invalidIdentity "clone path required")
    else
      let ready :=
        { prep with
          clonePath := e.clonePath, cloneDurable := true, stage := .cloneReady
          failureCode := .none, retryOrigin := .none, revision := prep.revision + 1 }
      storePrep s ready e.connID e.reqID [launchSession ready]

def reduceRepositoryFailed : Reduced D :=
  fenced s e fun prep =>
    if prep.stage.isTerminal then (s, illegal prep e.connID e.reqID)
    else
      let code := if e.code = .none then .cloneFailed else e.code
      let code := if prep.stage = .cloneReady ∧ code = .cloneFailed then .launchFailed else code
      advancePrep s prep .failed code (interruptedOrigin prep) e.connID e.reqID

def reduceRepositoryCancelled : Reduced D :=
  fenced s e fun prep =>
    if prep.stage.isTerminal then (s, illegal prep e.connID e.reqID)
    else
      let cancelled :=
        { prep with
          stage := .cancelled, failureCode := .cancelled, retryOrigin := interruptedOrigin prep
          revision := prep.revision + 1 }
      storePrep s cancelled e.connID e.reqID [stopOwnedWork cancelled]

/-- The daemon's own report after a restart: it is not fenced. -/
def reduceRepositoryInterrupted : Reduced D :=
  match findPreparation s e.preparationID with
  | none => (s, rejectPrep e.connID e.reqID .invalidIdentity "preparation not found")
  | some prep =>
    if prep.stage ∈ [.confirmed, .cloneInProgress, .cloneReady] then
      advancePrep s prep .interrupted .interrupted (interruptedOrigin prep) e.connID e.reqID
    else (s, [okResp e.connID e.reqID (.repositoryPreparation (prepSnapshot prep))])

def reduceRepositoryQuarantined : Reduced D :=
  fenced s e fun prep =>
    if prep.isSessionAvailable then (s, illegal prep e.connID e.reqID)
    else advancePrep s prep .internalCorruption .internalCorrupt .none e.connID e.reqID

def reduceRepositoryRetry : Reduced D :=
  fenced s e fun prep =>
    if prep.stage ∉ [.failed, .cancelled, .interrupted] then (s, illegal prep e.connID e.reqID)
    else
      let again :=
        { prep with
          lastOwnedWorkerGeneration := prep.lastOwnedWorkerGeneration + 1
          failureCode := .none, retryOrigin := .none, revision := prep.revision + 1 }
      if prep.retryOrigin = .launch then
        let launched := { again with stage := .cloneReady }
        storePrep s launched e.connID e.reqID [launchSession launched]
      else
        let cloned := { again with stage := .confirmed, cloneDurable := false, clonePath := "" }
        storePrep s cloned e.connID e.reqID [startClone cloned]

def publishedSession : Session D :=
  { id := e.sessionID
    project := "github://" ++ prep.serverID ++ "/" ++ prep.repository.owner ++ "/" ++ prep.repository.name
    command := e.command }

def reduceRepositoryCommitAvailable : Reduced D :=
  fenced s e fun prep =>
    if prep.stage ≠ .cloneReady then (s, illegal prep e.connID e.reqID)
    else if !e.cloneDurable || !e.launchSucceeded then
      (s, rejectPrep e.connID e.reqID .incompleteCommit "clone and launch evidence required")
    else if e.sessionID = "" ∨ e.clonePath = "" then
      (s, rejectPrep e.connID e.reqID .invalidIdentity "session and clone path ids required")
    else if sessionIsAvailableProjection s e.sessionID then
      (s, rejectPrep e.connID e.reqID .illegalTransition "session already available")
    else
      let available :=
        { prep with
          stage := .available, sessionID := e.sessionID, clonePath := e.clonePath
          cloneDurable := true, launchSucceeded := true, failureCode := .none
          retryOrigin := .none, revision := prep.revision + 1 }
      let stored := storePrep s available e.connID e.reqID [.broadcastSessionsChanged]
      ({ stored.1 with sessions := s.sessions.set e.sessionID (publishedSession available e) }, stored.2)

/-- Abandoning keeps the failure code and the retry origin; the record the source reads back
after storing it is the stored one. -/
def reduceRepositoryAbandon : Reduced D :=
  fenced s e fun prep =>
    if prep.stage = .available then (s, illegal prep e.connID e.reqID)
    else
      let abandoned := { prep with stage := .abandoned, revision := prep.revision + 1 }
      storePrep s abandoned e.connID e.reqID [stopOwnedWork abandoned]

def reduceRepository : Reduced D :=
  match e.kind with
  | .create => reduceRepositoryCreate d s e
  | .cloneStarted => reduceRepositoryCloneStarted s e
  | .cloneReady => reduceRepositoryCloneReady s e
  | .failed => reduceRepositoryFailed s e
  | .cancelled => reduceRepositoryCancelled s e
  | .interrupted => reduceRepositoryInterrupted s e
  | .quarantined => reduceRepositoryQuarantined s e
  | .retry => reduceRepositoryRetry s e
  | .commitAvailable => reduceRepositoryCommitAvailable s e
  | .abandon => reduceRepositoryAbandon s e
  | .unknown _ => (s, rejectPrep e.connID e.reqID .illegalTransition "unknown repository event kind")

def reduceRepositoryCreateEvent (connID : ConnID) (reqID : String) (p : RepositoryCreateParams) : Reduced D :=
  reduceRepositoryCreate d s
    { connID := connID, reqID := reqID, kind := .create, intentID := p.intentID
      preparationID := p.preparationID, serverID := p.serverID, repository := p.repository
      fingerprint := p.fingerprint, command := p.command }

def reduceRepositoryPreparationEvent (connID : ConnID) (reqID : String) (id : PreparationID) : Reduced D :=
  match findPreparation s id with
  | none => (s, rejectPrep connID reqID .invalidIdentity "preparation not found")
  | some prep => (s, [okResp connID reqID (.repositoryPreparation (prepSnapshot prep))])

end AgentGrid.Host
