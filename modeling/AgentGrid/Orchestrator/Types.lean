import AgentGrid.Lib.GoMap
import Mathlib.Algebra.Ring.Int.Defs
import Mathlib.Algebra.Ring.Nat

/-!
# The orchestrator's vocabulary

Issues of the tracker, the configuration of the workflow, and the scheduler's state: the
running attempts, the claims and the retries, each keyed by the issue's id.
-/

namespace AgentGrid.Orchestrator

open AgentGrid.Lib

/-! ## Machine arithmetic and time -/

/-- An `int64` after overflow. -/
def wrap64 (n : Int) : Int := Int.bmod n (2 ^ 64)

/-- Nanoseconds since the zero instant of Go's `time.Time`. -/
abbrev Time := Int

abbrev Duration := Int

def millisecond : Duration := 1000000

def Time.isZero (t : Time) : Bool := t == 0

/-- `Time.Sub`, which saturates. -/
def Time.sub (t u : Time) : Duration := max (-2 ^ 63) (min (2 ^ 63 - 1) (t - u))

/-- The Unix epoch is 62135596800 seconds after the zero instant. -/
def Time.unixMilli (t : Time) : Int := (t - 62135596800 * 1000000000) / 1000000

/-! ## The tracker -/

abbrev IssueID := String

structure Blocker where
  state : String
  deriving DecidableEq

structure Issue where
  id : IssueID
  (identifier title : String)
  priority : Option Int := none
  state : String
  blockedBy : List Blocker := []
  createdAt : Time := 0
  deriving DecidableEq

/-! ## The configuration -/

structure TrackerConfig where
  (activeStates terminalStates : List String := [])

structure AgentConfig where
  maxConcurrentAgents : Int := 0
  /-- The keys are in lower case. -/
  maxConcurrentAgentsByState : GoMap String Int := ∅
  maxRetryBackoffMS : Int := 0

structure CodexConfig where
  stallTimeoutMS : Int := 0

structure Config where
  tracker : TrackerConfig := {}
  agent : AgentConfig := {}
  codex : CodexConfig := {}

/-! ## Token and runtime accounting -/

structure Totals where
  (input output total : Int := 0)
  deriving DecidableEq

structure Usage where
  threadID : String := ""
  (input output total : Int := 0)
  deriving DecidableEq

structure Accumulator where
  lastSeen : GoMap String Usage := ∅
  totals : Totals := {}

def clampPos (v : Int) : Int := if v < 0 then 0 else v

/-- `Observe`: a report counts for what it adds to the last report of its thread. -/
def Accumulator.observe (a : Accumulator) (u : Usage) : Accumulator :=
  let prev := (a.lastSeen.get? u.threadID).getD {}
  { lastSeen := a.lastSeen.set u.threadID u
    totals :=
      { input := a.totals.input + clampPos (u.input - prev.input)
        output := a.totals.output + clampPos (u.output - prev.output)
        total := a.totals.total + clampPos (u.total - prev.total) } }

/-- Kept for display only. -/
abbrev RateLimitSnapshot := Unit

/-! ## The scheduler's state -/

inductive RunPhase where
  | preparingWorkspace | buildingPrompt | launchingAgentProcess | initializingSession | streamingTurn
  | finishing | succeeded | failed | timedOut | stalled | canceledByReconciliation
  deriving DecidableEq

inductive RetryKind where
  | continuation | backoff
  deriving DecidableEq

structure LiveSession where
  startedAt : Time := 0
  deriving DecidableEq

structure RunAttempt where
  issue : Issue
  session : LiveSession
  attempt : Int
  phase : RunPhase
  turnCount : Int := 0
  startedAt : Time
  (lastCodexMessage lastCodexEvent : String := "")
  lastCodexTimestamp : Time := 0
  (totalInputTokens totalOutputTokens totalTokens : Int := 0)
  totalRuntime : Duration := 0
  rateLimit : Option RateLimitSnapshot := none
  deriving DecidableEq

structure RetryEntry where
  issueID : IssueID
  identifier : String
  attempt : Int
  kind : RetryKind
  err : Option String := none
  dueAtMS : Int := 0
  deriving DecidableEq

structure State where
  running : GoMap IssueID RunAttempt := ∅
  claimed : GoMap IssueID Unit := ∅
  retryAttempts : GoMap IssueID RetryEntry := ∅
  usage : GoMap IssueID Accumulator := ∅
  runtime : GoMap IssueID Duration := ∅
  codexTotals : Totals := {}
  codexRuntime : Duration := 0

/-! ## Events and effects -/

structure EvCodexActivity where
  issueID : IssueID
  (event message : String)
  timestamp : Time
  usage : Option Usage := none
  rateLimit : Option RateLimitSnapshot := none
  turnDuration : Option Duration := none
  turnCompleted : Bool := false

inductive Event where
  | tick (configValid : Bool) | candidatesFetched (issues : List Issue)
  | trackerRefreshed (requestedIDs : List IssueID) (issues : List Issue)
  | revalidated (issue : Issue) (attempt : Int) (fresh : Option Issue)
  | retryDue (issueID : IssueID) (identifier : String) (attempt : Int)
  | retryResolved (issueID : IssueID) (identifier : String) (attempt : Int)
      (issues : List Issue) (fetchErr : Option String)
  | spawned (issue : Issue) (attempt : Int) (session : LiveSession)
  | spawnFailed (issue : Issue) (attempt : Int) (err : String)
  | workerExit (issueID : IssueID) (err : Option String) (attempt : Int) | codexActivity (e : EvCodexActivity)

inductive Effect where
  | fetchCandidates | refreshTracker (ids : List IssueID) | revalidate (issue : Issue) (attempt : Int)
  | retryFetch (issueID : IssueID) (identifier : String) (attempt : Int)
  | spawn (issue : Issue) (attempt : Int) | killWorker (issueID : IssueID) (reason : String)
  | removeWorkspace (identifier : String)
  | armRetryTimer (issueID : IssueID) (identifier : String) (attempt : Int) (delay : Duration)
  | cancelRetryTimer (issueID : IssueID)
  deriving DecidableEq

end AgentGrid.Orchestrator
