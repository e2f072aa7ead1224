import AgentGrid.Lib.Run
import AgentGrid.Orchestrator.Reduce

/-!
# The scheduler's shell

The loop around the reducer, one atomic action at a time: it takes an event, folds it, and
executes the effects depth first, each of which may fold an event of its own, while timers
fire and workers exit at any moment.  The answers of the tracker and the spawner are in the
label of a step, so all runs are runs with all answers.

Tracker and spawner are wired.  A refresh that fails, or that is not wired, has the answer
`none`; a revalidation that is not wired answers as one that finds the issue unchanged.
-/

namespace AgentGrid.Orchestrator

open AgentGrid.Lib Option

/-- A worker, with a serial number that tells it from the other workers of its issue. -/
structure Worker where
  serial : Nat
  issue : Issue
  attempt : Int
  deriving DecidableEq

structure RetryFireReq where
  issueID : IssueID
  identifier : String
  attempt : Int
  deriving DecidableEq

/-- The exit message of a worker; it carries the worker's issue id and attempt. -/
structure WorkerExit where
  worker : Worker
  err : Option String
  deriving DecidableEq

/-- The buffer of the channel `workerDone`. -/
def workerDoneCap : Nat := 64

structure Shell where
  cur : State := {}
  (cfg lastGood : Config)
  /-- The effects still to be executed in this iteration, the next one first. -/
  todo : List Effect := []
  workers : GoMap IssueID Worker := ∅
  timers : GoMap IssueID Nat := ∅
  /-- Timers that have been started and have neither fired nor been stopped. -/
  armed : List (Nat × RetryFireReq) := []
  nextTimer : Nat := 0
  /-- Requests of timers that have fired, sent or waiting to be sent. -/
  retryFire : List RetryFireReq := []
  workerDone : List WorkerExit := []
  /-- Workers that a spawn has returned and that have not sent their exit. -/
  live : List Worker := []
  nextWorker : Nat := 0
  /-- For each issue the worker that the last successful spawn returned. -/
  tenants : GoMap IssueID Worker := ∅
  /-- Workers whose kill has been started. -/
  killed : List Worker := []

def Shell.new (cfg : Config) : Shell := { cfg := cfg, lastGood := cfg }

/-- What tracker and spawner answer to an effect. -/
structure Answer where
  candidates : Except String (List Issue) := .ok []
  refreshed : Option (List Issue) := none
  spawned : Except String LiveSession := .error ""

inductive Label where
  | tick (reload : Option Config) (now : Time) | retryFire (i : Nat) (reload : Option Config) (now : Time)
  | workerDone (i : Nat) (reload : Option Config) (now : Time)
  | codexActivity (a : EvCodexActivity) (now : Time) | exec (answer : Answer) (now : Time) | fire (i : Nat)
  | exit (i : Nat) (err : Option String)

namespace Shell

/-! ## Timers -/

/-- `armTimer`: the timer that the map holds for the issue is stopped. -/
def armTimer (w : Shell) (req : RetryFireReq) : Shell :=
  { w with
    armed := w.armed.filter (fun t => decide (w.timers.get? req.issueID ≠ some t.1)) ++ [(w.nextTimer, req)]
    timers := w.timers.set req.issueID w.nextTimer, nextTimer := w.nextTimer + 1 }

def cancelTimer (w : Shell) (issueID : IssueID) : Shell :=
  { w with
    armed := w.armed.filter fun t => decide (w.timers.get? issueID ≠ some t.1), timers := w.timers.delete issueID }

/-! ## Effects -/

section Names

variable (lower : String → String)

variable (w : Shell) (issue : Issue) (issueID : IssueID) (reload : Option Config) (attempt : Int)
  (answer : Answer) (now : Time)

/-- `step`: fold an event; its effects come before those that are left. -/
def step (ev : Event) (now : Time) : Shell :=
  let r := reduce lower w.cur ev w.cfg now
  { w with cur := r.1, todo := r.2 ++ w.todo }

def execFetchCandidates : Shell :=
  match answer.candidates with
  | .error _ => w
  | .ok cands => w.step lower (.candidatesFetched cands) now

def execRefreshTracker (ids : List IssueID) (answer : Answer) (now : Time) : Shell :=
  match answer.refreshed with
  | none => w
  | some issues => w.step lower (.trackerRefreshed ids issues) now

/-- `execRevalidate`; an error counts as an issue that is not found. -/
def execRevalidate :
    Shell :=
  w.step lower (.revalidated issue attempt (answer.refreshed.bind fun issues => findIssue issues issue.id)) now

def execRetryFetch (identifier : String) (attempt : Int) (answer : Answer) (now : Time) : Shell :=
  match answer.candidates with
  | .error err => w.step lower (.retryResolved issueID identifier attempt [] (some err)) now
  | .ok cands => w.step lower (.retryResolved issueID identifier attempt cands none) now

/-- The worker that the next successful spawn returns. -/
def newWorker : Worker :=
  ⟨w.nextWorker, issue, attempt⟩

/-- A spawn has returned a worker, which is live and takes the issue over. -/
def hire : Shell :=
  { w with
    workers := w.workers.set issue.id (w.newWorker issue attempt), live := w.live ++ [w.newWorker issue attempt]
    tenants := w.tenants.set issue.id (w.newWorker issue attempt), nextWorker := w.nextWorker + 1 }

def execSpawn :
    Shell :=
  match answer.spawned with
  | .error err => w.step lower (.spawnFailed issue attempt err) now
  | .ok session => (w.hire issue attempt).step lower (.spawned issue attempt session) now

/-- `execKillWorker`: the handle is dropped and the kill runs in a goroutine of its own. -/
def execKillWorker : Shell :=
  { w with workers := w.workers.delete issueID, killed := (w.workers.get? issueID).toList ++ w.killed }

/-- `exec`, of an effect that is no longer among those to be executed. -/
def exec : Effect → Shell
  | .fetchCandidates => w.execFetchCandidates lower answer now
  | .refreshTracker ids => w.execRefreshTracker lower ids answer now
  | .revalidate issue attempt => w.execRevalidate lower issue attempt answer now
  | .retryFetch issueID identifier attempt => w.execRetryFetch lower issueID identifier attempt answer now
  | .spawn issue attempt => w.execSpawn lower issue attempt answer now
  | .killWorker issueID _ => w.execKillWorker issueID
  | .removeWorkspace _ => w
  | .armRetryTimer issueID identifier attempt _ => w.armTimer ⟨issueID, identifier, attempt⟩
  | .cancelRetryTimer issueID => w.cancelTimer issueID

/-! ## Iterations of the loop -/

/-- `reloadConfig`: a workflow that does not load leaves the last good one in force. -/
def reloadConfig : Config := reload.getD w.lastGood

def tick : Shell :=
  { w with cfg := w.reloadConfig reload, lastGood := w.reloadConfig reload }.step lower (.tick reload.isSome) now

def postpone : Shell :=
  (w.cur.retryAttempts.get? issueID).elim w fun entry =>
    { w with
      cur := enqueueRetry w.cur
        { entry with dueAtMS := (now + continuationDelay).unixMilli } }

/-- `handleRetryFire`: while the workflow is invalid the request is put off. -/
def handleRetryFire (req : RetryFireReq) (reload : Option Config) (now : Time) :
    Shell :=
  let w := { w with timers := w.timers.delete req.issueID }
  if reload.isSome then
    { w with cfg := w.reloadConfig reload, lastGood := w.reloadConfig reload }.step lower
      (.retryDue req.issueID req.identifier req.attempt) now
  else (w.postpone req.issueID now).armTimer req

def handleWorkerDone (e : WorkerExit) (reload : Option Config) (now : Time) : Shell :=
  { w with
    workers := w.workers.delete e.worker.issue.id
    cfg := w.reloadConfig reload, lastGood := w.reloadConfig reload }.step lower
      (.workerExit e.worker.issue.id e.err e.worker.attempt) now

/-! ## Steps -/

/-- `sendWorkerExit`: a message that the channel has no room for is lost. -/
def sendWorkerExit (e : WorkerExit) : Shell :=
  if w.workerDone.length < workerDoneCap then { w with workerDone := w.workerDone ++ [e] } else w

/-- One atomic action; an iteration starts when the one before has executed its effects. -/
def apply : Label → Option Shell
  | .tick reload now => if w.todo.isEmpty then some (w.tick lower reload now) else none
  | .retryFire i reload now =>
    if w.todo.isEmpty then
      w.retryFire[i]?.map fun req =>
        { w with retryFire := w.retryFire.eraseIdx i }.handleRetryFire lower req reload now
    else none
  | .workerDone i reload now =>
    if w.todo.isEmpty then
      w.workerDone[i]?.map fun e =>
        { w with workerDone := w.workerDone.eraseIdx i }.handleWorkerDone lower e reload now
    else none
  | .codexActivity a now => if w.todo.isEmpty then some (w.step lower (.codexActivity a) now) else none
  | .exec answer now => w.todo.head?.map fun e => { w with todo := w.todo.tail }.exec lower answer now e
  | .fire i => w.armed[i]?.map fun t => { w with armed := w.armed.eraseIdx i, retryFire := w.retryFire ++ [t.2] }
  | .exit i err => w.live[i]?.map fun worker => { w with live := w.live.eraseIdx i }.sendWorkerExit ⟨worker, err⟩

def Step (a : Label) (w' : Shell) : Prop := w.apply lower a = some w'

/-- The actions of one step, with the conditions under which it takes them. -/
inductive Taken (w : Shell) : Label → Shell → Prop where
  | tick {reload : Option Config} {now : Time} (idle : w.todo = []) :
      Taken w (.tick reload now) (w.tick lower reload now)
  | retryFire {i : Nat} {reload : Option Config} {now : Time} {req : RetryFireReq}
      (idle : w.todo = []) (held : w.retryFire[i]? = some req) : Taken w (.retryFire i reload now)
        ({ w with retryFire := w.retryFire.eraseIdx i }.handleRetryFire lower req reload now)
  | workerDone {i : Nat} {reload : Option Config} {now : Time} {e : WorkerExit}
      (idle : w.todo = []) (held : w.workerDone[i]? = some e) : Taken w (.workerDone i reload now)
        ({ w with workerDone := w.workerDone.eraseIdx i }.handleWorkerDone lower e reload now)
  | codexActivity {a : EvCodexActivity} {now : Time} (idle : w.todo = []) :
      Taken w (.codexActivity a now) (w.step lower (.codexActivity a) now)
  | exec {answer : Answer} {now : Time} {e : Effect} {rest : List Effect}
      (next : w.todo = e :: rest) : Taken w (.exec answer now) ({ w with todo := rest }.exec lower answer now e)
  | fire {i : Nat} {t : Nat × RetryFireReq} (held : w.armed[i]? = some t) : Taken w (.fire i)
        { w with armed := w.armed.eraseIdx i, retryFire := w.retryFire ++ [t.2] }
  | exit {i : Nat} {err : Option String} {worker : Worker} (held : w.live[i]? = some worker) : Taken w (.exit i err)
        ({ w with live := w.live.eraseIdx i }.sendWorkerExit ⟨worker, err⟩)

variable {lower}

theorem Step.taken {w w' : Shell} {a : Label} (step : Step lower w a w') : Taken lower w a w' := by
  have idle : ∀ {next}, (if w.todo.isEmpty then next else none) = some w' → w.todo = [] ∧ next = some w' := by
    intro next taken
    by_cases empty : w.todo.isEmpty
    · rw [if_pos empty] at taken
      exact ⟨List.isEmpty_iff.mp empty, taken⟩
    · rw [if_neg empty] at taken
      cases taken
  cases a with
  | tick =>
    obtain ⟨empty, same⟩ := idle step
    cases same
    exact .tick empty
  | retryFire =>
    obtain ⟨empty, found⟩ := idle step
    obtain ⟨req, held, rfl⟩ := map_eq_some_iff.mp found
    exact .retryFire empty held
  | workerDone =>
    obtain ⟨empty, found⟩ := idle step
    obtain ⟨e, held, rfl⟩ := map_eq_some_iff.mp found
    exact .workerDone empty held
  | codexActivity =>
    obtain ⟨empty, same⟩ := idle step
    cases same
    exact .codexActivity empty
  | exec =>
    obtain ⟨e, head, rfl⟩ := map_eq_some_iff.mp step
    obtain ⟨rest, next⟩ := List.head?_eq_some_iff.mp head
    have tail : w.todo.tail = rest := by rw [next]; rfl
    rw [tail]
    exact .exec next
  | fire =>
    obtain ⟨t, held, rfl⟩ := map_eq_some_iff.mp step
    exact .fire held
  | exit =>
    obtain ⟨worker, held, rfl⟩ := map_eq_some_iff.mp step
    exact .exit held

end Names

end Shell

/-- The runs of a scheduler that starts with a configuration. -/
def SchedulerRun (lower : String → String) (cfg : Config) (labels : List Label) (w : Shell) :
    Prop :=
  Run (Shell.Step lower) (Shell.new cfg) labels w

namespace Shell

def advance (lower : String → String) (ok : Shell → Label → Bool) (w : Shell) (a : Label) :
    Option (Shell × Label) :=
  if ok w a then (w.apply lower a).map fun w' => (w', a) else none

theorem drive_advance {lower : String → String} {ok : Shell → Label → Bool} {w w' : Shell}
    {labels taken : List Label} (driven : drive (advance lower ok) w labels = some (w', taken)) :
    Run (fun w a w' => Step lower w a w' ∧ ok w a = true) w taken w' := by
  refine drive_run (fun s input s' a advanced => ?_) driven
  unfold advance at advanced
  split at advanced
  · rename_i met
    obtain ⟨next, applied, same⟩ := map_eq_some_iff.mp advanced
    cases same
    exact ⟨applied, met⟩
  · cases advanced

end Shell

end AgentGrid.Orchestrator
