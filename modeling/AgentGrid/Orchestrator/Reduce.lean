import AgentGrid.Orchestrator.Types
import Mathlib.Data.List.Sort
import Mathlib.Data.String.Basic

/-!
# The scheduler's reducer

The pure core of the scheduler: transitions of the claim of one issue, the slots, the choice
of candidates, and the fold of one event.  Lowering the case of a state name is a parameter.
-/

namespace AgentGrid.Orchestrator

open AgentGrid.Lib

abbrev Reduced := State × List Effect

/-! ## Transitions -/

variable (s : State) (cfg : Config) (issueID : IssueID) (issue : Issue) (attempt : Int)

/-- `claim`: refused for an issue that is claimed or running. -/
def claim : Option State :=
  if (s.claimed.get? issue.id).isSome then none
  else if (s.running.get? issue.id).isSome then none
  else some
    { s with retryAttempts := s.retryAttempts.delete issue.id, claimed := s.claimed.set issue.id () }

/-- `claimFromRetry`: refused unless the issue is queued for retry, not running, and claimed. -/
def claimFromRetry : Option State :=
  if (s.retryAttempts.get? issueID).isNone then none
  else if (s.running.get? issueID).isSome then none
  else if (s.claimed.get? issueID).isNone then none
  else some { s with retryAttempts := s.retryAttempts.delete issueID }

def markRunning (session : LiveSession) : State :=
  { s with
    running := s.running.set issue.id
      { issue := issue, session := session, attempt := attempt, phase := .preparingWorkspace
        startedAt := session.startedAt } }

/-- The running attempt of an issue is rewritten, if there is one. -/
def updateRun (f : RunAttempt → RunAttempt) : State :=
  match s.running.get? issueID with
  | none => s
  | some run => { s with running := s.running.set issueID (f run) }

def updateIssueSnapshot : State :=
  updateRun s issueID fun run => { run with issue := issue }

def workerExitNormal : Option (State × RetryEntry) :=
  (s.running.get? issueID).map fun run =>
    ({ s with running := s.running.delete issueID },
      { issueID := issueID, identifier := run.issue.identifier, attempt := run.attempt + 1, kind := .continuation })

def workerExitAbnormal (err : String) (attempt : Int) : Option (State × RetryEntry) :=
  (s.running.get? issueID).map fun run =>
    ({ s with running := s.running.delete issueID },
      { issueID := issueID, identifier := run.issue.identifier, attempt := attempt + 1
        kind := .backoff, err := some err })

/-- The tokens of an issue are added to the lifetime counters. -/
def closeUsage : State :=
  match s.usage.get? issueID with
  | none => s
  | some acc =>
    { s with
      codexTotals :=
        { input := s.codexTotals.input + acc.totals.input, output := s.codexTotals.output + acc.totals.output
          total := s.codexTotals.total + acc.totals.total }, usage := s.usage.delete issueID }

/-- The runtime of an issue is added to the lifetime counter. -/
def closeRuntime : State :=
  match s.runtime.get? issueID with
  | none => s
  | some rt => { s with codexRuntime := s.codexRuntime + rt, runtime := s.runtime.delete issueID }

def releaseClaim : State :=
  let s := closeRuntime (closeUsage s issueID) issueID
  { s with
    running := s.running.delete issueID, claimed := s.claimed.delete issueID
    retryAttempts := s.retryAttempts.delete issueID }

@[simp] def enqueueRetry (entry : RetryEntry) : State :=
  { s with retryAttempts := s.retryAttempts.set entry.issueID entry }

def incrementTurnCount : State :=
  updateRun s issueID fun run => { run with turnCount := run.turnCount + 1 }

def updateCodexActivity (event message : String) (ts : Time) :
    State :=
  updateRun s issueID fun run =>
    { run with
      lastCodexEvent := event, lastCodexTimestamp := ts
      lastCodexMessage := if message ≠ "" then message else run.lastCodexMessage }

def recordUsage (u : Usage) : State :=
  match s.running.get? issueID with
  | none => s
  | some run =>
    let acc := ((s.usage.get? issueID).getD {}).observe u
    { s with
      usage := s.usage.set issueID acc, running := s.running.set issueID
        { run with
          totalInputTokens := acc.totals.input, totalOutputTokens := acc.totals.output
          totalTokens := acc.totals.total } }

def recordRateLimit (rl : RateLimitSnapshot) : State :=
  updateRun s issueID fun run => { run with rateLimit := some rl }

def addRuntime (d : Duration) : State :=
  match s.running.get? issueID with
  | none => s
  | some run =>
    if d ≤ 0 then s
    else
      { s with
        running := s.running.set issueID { run with totalRuntime := run.totalRuntime + d }
        runtime := s.runtime.set issueID ((s.runtime.get? issueID).getD 0 + d) }

/-! ## Retries -/

def continuationDelay : Duration := 1000 * millisecond

/-- `backoffDelay`, in machine arithmetic. -/
def backoffDelay (cfg : Config) : Duration :=
  let attempt := if attempt < 1 then 1 else attempt
  let shift := if attempt - 1 > 62 then 62 else attempt - 1
  let ms := wrap64 (10000 * 2 ^ shift.toNat)
  let maxMS := cfg.agent.maxRetryBackoffMS
  let ms := if maxMS > 0 ∧ ms > maxMS then maxMS else ms
  wrap64 (ms * millisecond)

/-- `armRetry`: store the entry with its due time and ask for the timer. -/
@[simp] def armRetry (entry : RetryEntry) (delay : Duration) (now : Time) : Reduced :=
  (enqueueRetry s { entry with dueAtMS := (now + delay).unixMilli },
    [.armRetryTimer entry.issueID entry.identifier entry.attempt delay])

def errStall : String := "stall timeout exceeded"
def errNotInRefresh : String := "issue not in refresh response"
def errLeftActiveStates : String := "issue left active states"
def errNoSlots : String := "no available orchestrator slots"

/-! ## Slots -/

/-- `retryQueuedCount`: the issues queued for retry and not running. -/
def retryQueuedCount : Nat :=
  (s.retryAttempts.entries.filter fun e => (s.running.get? e.1).isNone).length

def availableGlobalSlots : Int :=
  max 0 (cfg.agent.maxConcurrentAgents - (s.running.entries.length + retryQueuedCount s))

def stateCapacity (norm : String) : Int :=
  (cfg.agent.maxConcurrentAgentsByState.get? norm).getD cfg.agent.maxConcurrentAgents

section Names

variable (lower : String → String)

variable (cands : List Issue) (s : State) (issueID : IssueID) (state : String) (issues : List Issue)
  (cfg : Config) (id : IssueID) (attempt : Int) (now : Time)

/-- `runningInState`, for a state name in lower case. -/
def runningInState (norm : String) : Nat :=
  (s.running.entries.filter fun e => lower e.2.issue.state = norm).length

def availablePerStateSlots (s : State) (cfg : Config) : Int :=
  max 0 (stateCapacity cfg (lower state) - runningInState lower s (lower state))

/-- `retryReclaimHasSlot`: the issue's own reservation does not count against it. -/
def retryReclaimHasSlot (issueID : IssueID) (state : String) : Bool :=
  let globalUsed : Int := s.running.entries.length + retryQueuedCount s
  let globalUsed := if (s.retryAttempts.get? issueID).isSome then globalUsed - 1 else globalUsed
  if globalUsed ≥ cfg.agent.maxConcurrentAgents then false
  else decide (availablePerStateSlots lower state s cfg > 0)

/-! ## Candidates -/

/-- A state name is in a set of names, whatever its case. -/
def normMember (states : List String) (norm : String) : Bool := (states.map lower).contains norm

/-- The name is that of a state in which issues are worked on. -/
def workable (state : String) : Bool :=
  normMember lower cfg.tracker.activeStates (lower state) &&
    !normMember lower cfg.tracker.terminalStates (lower state)

def hasActiveBlocker (blockers : List Blocker) (cfg : Config) : Bool :=
  blockers.any fun b => !normMember lower cfg.tracker.terminalStates (lower b.state)

def eligible (iss : Issue) (s : State) (cfg : Config) : Bool :=
  if iss.id = "" || iss.identifier = "" || iss.title = "" || iss.state = "" then false
  else if !workable lower cfg iss.state then false
  else if (s.running.get? iss.id).isSome then false
  else if (s.claimed.get? iss.id).isSome then false
  else if (s.retryAttempts.get? iss.id).isSome then false
  else if lower iss.state = "todo" && hasActiveBlocker lower iss.blockedBy cfg then false
  else true

def filterEligible : List Issue :=
  cands.filter fun iss => eligible lower iss s cfg

/-- The order of candidates: priority first, none last, then age, then identifier. -/
def candidateLess (a b : Issue) : Bool :=
  let tie := if a.createdAt ≠ b.createdAt then decide (a.createdAt < b.createdAt)
    else decide (a.identifier < b.identifier)
  match a.priority, b.priority with
  | none, some _ => false
  | some _, none => true
  | some p, some q => if p ≠ q then decide (p < q) else tie
  | none, none => tie

/-- `sortCandidates`, a stable sort. -/
def sortCandidates : List Issue :=
  cands.insertionSort fun a b => candidateLess b a = false

/-- The loop of `reduceCandidates`: claim the winners in order, as slots last. -/
def claimWinners (cfg : Config) : List Issue → State → Int → (String → Int) → Reduced
  | [], s, _, _ => (s, [])
  | iss :: rest, s, globalAvail, perStateUsed =>
    if globalAvail ≤ 0 then (s, [])
    else
      let norm := lower iss.state
      if perStateUsed norm ≥ stateCapacity cfg norm then claimWinners cfg rest s globalAvail perStateUsed
      else
        match claim s iss with
        | none => claimWinners cfg rest s globalAvail perStateUsed
        | some claimed =>
          let r := claimWinners cfg rest claimed (globalAvail - 1)
            (Function.update perStateUsed norm (perStateUsed norm + 1))
          (r.1, .revalidate iss 0 :: r.2)

def reduceCandidates (cands : List Issue) (cfg : Config) : Reduced :=
  claimWinners lower cfg (sortCandidates (filterEligible lower cands s cfg)) s
    (availableGlobalSlots s cfg) fun norm => runningInState lower s norm

def reduceRevalidated (issue : Issue) (attempt : Int) (fresh : Option Issue) (cfg : Config) :
    Reduced :=
  match fresh with
  | none => (releaseClaim s issue.id, [])
  | some found =>
    if workable lower cfg found.state then (s, [.spawn issue attempt])
    else (releaseClaim s issue.id, [])

/-! ## Retry results -/

/-- `findIssue`: the first issue with the id. -/
def findIssue : Option Issue := issues.find? fun i => i.id = id

def retryEntry (identifier : String) (attempt : Int) (cause : String) :
    RetryEntry :=
  { issueID := issueID, identifier := identifier, attempt := attempt, kind := .backoff, err := some cause }

def reduceRetryResolved (identifier : String) (attempt : Int) (issues : List Issue)
    (fetchErr : Option String) (cfg : Config) (now : Time) : Reduced :=
  match fetchErr with
  | some err => armRetry s (retryEntry issueID identifier (attempt + 1) err) (backoffDelay (attempt + 1) cfg) now
  | none =>
    match findIssue issues issueID with
    | none => (releaseClaim s issueID, [])
    | some found =>
      if !workable lower cfg found.state then (releaseClaim s issueID, [])
      else if !retryReclaimHasSlot lower s cfg issueID found.state then
        armRetry s (retryEntry issueID identifier (attempt + 1) errNoSlots) (backoffDelay (attempt + 1) cfg) now
      else
        match claimFromRetry s issueID with
        | none => (s, [])
        | some claimed => (claimed, [.spawn found attempt])

/-! ## Reconciliation -/

/-- Fold a list of items, collecting the effects. -/
def sweep {α : Type} (f : State → α → Reduced) : List α → State → Reduced
  | [], s => (s, [])
  | a :: rest, s =>
    let r := f s a
    let later := sweep f rest r.1
    (later.1, r.2 ++ later.2)

def sortedIDs (ids : List IssueID) : List IssueID := ids.insertionSort fun a b => a ≤ b

def sortedRunningIDs : List IssueID := sortedIDs (s.running.entries.map Prod.fst)

/-- `reconcileKillRetry`; the stall check does the same. -/
def reconcileKillRetry (cause reason : String) (cfg : Config) (now : Time) : Reduced :=
  match workerExitAbnormal s id cause attempt with
  | none => (s, [])
  | some (exited, entry) =>
    let armed := armRetry exited entry (backoffDelay entry.attempt cfg) now
    (armed.1, .killWorker id reason :: armed.2)

/-- The run has shown no activity for longer than the threshold. -/
def stalled (run : RunAttempt) : Bool :=
  let base := if run.lastCodexTimestamp.isZero then run.startedAt else run.lastCodexTimestamp
  let threshold := wrap64 (cfg.codex.stallTimeoutMS * millisecond)
  !(base.isZero || decide (now.sub base ≤ threshold))

def stallOne (s : State) (id : IssueID) : Reduced :=
  match s.running.get? id with
  | none => (s, [])
  | some run =>
    if stalled cfg now run then reconcileKillRetry s id run.attempt errStall "stall" cfg now
    else (s, [])

def reduceStall : Reduced :=
  if cfg.codex.stallTimeoutMS ≤ 0 then (s, [])
  else sweep (stallOne cfg now) (sortedRunningIDs s) s

def refreshOne (byID : GoMap IssueID Issue) (cfg : Config) (now : Time) (s : State) (id : IssueID) : Reduced :=
  match s.running.get? id with
  | none => (s, [])
  | some run =>
    match byID.get? id with
    | none => reconcileKillRetry s id run.attempt errNotInRefresh "not-found" cfg now
    | some iss =>
      if normMember lower cfg.tracker.terminalStates (lower iss.state) then
        (releaseClaim s id, [.killWorker id "terminal", .removeWorkspace run.issue.identifier])
      else if normMember lower cfg.tracker.activeStates (lower iss.state) then (updateIssueSnapshot s id iss, [])
      else reconcileKillRetry s id run.attempt errLeftActiveStates "non-active" cfg now

def reduceTrackerRefreshed (requestedIDs : List IssueID) (issues : List Issue) (cfg : Config)
    (now : Time) : Reduced :=
  let byID := issues.foldl (fun m iss => m.set iss.id iss) (∅ : GoMap IssueID Issue)
  sweep (refreshOne lower byID cfg now) (sortedIDs requestedIDs) s

/-! ## Events -/

def pollEffects (configValid : Bool) : List Effect :=
  (if s.running.entries.length > 0 then [.refreshTracker (sortedRunningIDs s)] else []) ++
    if configValid then [.fetchCandidates] else []

def reduceTick (configValid : Bool) (cfg : Config) (now : Time) : Reduced :=
  let r := reduceStall s cfg now
  (r.1, r.2 ++ pollEffects r.1 configValid)

def reduceWorkerExit (err : Option String) (attempt : Int) (cfg : Config) (now : Time) :
    Reduced :=
  match err with
  | none =>
    match workerExitNormal s issueID with
    | none => (s, [])
    | some (exited, entry) => armRetry exited entry continuationDelay now
  | some err =>
    match workerExitAbnormal s issueID err attempt with
    | none => (s, [])
    | some (exited, entry) => armRetry exited entry (backoffDelay entry.attempt cfg) now

/-- `reduceSpawnFailed`: the claim is released before the retry is armed. -/
@[simp] def reduceSpawnFailed (issue : Issue) (attempt : Int) (err : String) (cfg : Config) (now : Time) :
    Reduced :=
  armRetry (releaseClaim s issue.id)
    { issueID := issue.id, identifier := issue.identifier, attempt := attempt + 1, kind := .backoff, err := some err }
    (backoffDelay (attempt + 1) cfg) now

def reduceCodexActivity (e : EvCodexActivity) : State :=
  let s := updateCodexActivity s e.issueID e.event e.message e.timestamp
  let s := e.usage.elim s (recordUsage s e.issueID)
  let s := e.rateLimit.elim s (recordRateLimit s e.issueID)
  let s := e.turnDuration.elim s (addRuntime s e.issueID)
  if e.turnCompleted then incrementTurnCount s e.issueID else s

def reduce (ev : Event) (cfg : Config) (now : Time) : Reduced :=
  match ev with
  | .tick configValid => reduceTick s configValid cfg now
  | .trackerRefreshed requestedIDs issues => reduceTrackerRefreshed lower s requestedIDs issues cfg now
  | .candidatesFetched issues => reduceCandidates lower s issues cfg
  | .revalidated issue attempt fresh => reduceRevalidated lower s issue attempt fresh cfg
  | .retryDue issueID identifier attempt => (s, [.retryFetch issueID identifier attempt])
  | .retryResolved issueID identifier attempt issues fetchErr =>
    reduceRetryResolved lower s issueID identifier attempt issues fetchErr cfg now
  | .spawned issue attempt session => (markRunning s issue attempt session, [])
  | .spawnFailed issue attempt err => reduceSpawnFailed s issue attempt err cfg now
  | .workerExit issueID err attempt => reduceWorkerExit s issueID err attempt cfg now
  | .codexActivity e => (reduceCodexActivity s e, [])

end Names

end AgentGrid.Orchestrator
