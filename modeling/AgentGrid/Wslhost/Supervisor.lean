import AgentGrid.Lib.Run

/-!
# The supervisor of the WSL server

The Windows service keeps one server running inside a WSL distribution.  Its supervisor probes for
a server, adopts a matching one or spawns its own, follows its health, and backs off after
failures.  One mutex serialises its handlers; timers, exit watchers and recovery stops call it from
their own goroutines, each with the epoch it was created under.

A handler holds the mutex while it probes and spawns, so the answers it gets are its inputs.
-/

namespace AgentGrid.Wslhost

open AgentGrid.Lib

inductive Phase where
  | stopped | starting | ready | backoff | failed | restarting | alreadyRunning
  deriving DecidableEq

abbrev Time := Int

def millisecond : Time := 1000000

def second : Time := 1000 * millisecond

structure Thresholds where
  healthCadenceMS : Int := 5000
  startupBudgetMS : Int := 60000
  healthRestartThreshold : Int := 3
  configTerminalThreshold : Int := 5
  transientTerminalThreshold : Int := 10
  backoffSeconds : List Int := [1, 2, 5, 15, 60]

/-- What a probe of the distribution answers, with the ownership token of a matching server. -/
inductive ProbeAnswer where
  | error | matchedRunning (ownershipToken : String) | absent | mismatch | unknown | unclassified
  deriving DecidableEq

def healthStatusOK : String := "ok"

structure HealthResult where
  healthy : Bool := false
  status : String := ""
  deriving DecidableEq

def HealthResult.good (res : HealthResult) : Bool := res.healthy && res.status == healthStatusOK

inductive TimerKind where
  | health | backoff | resume
  deriving DecidableEq

/-- A timer with the epoch its callback captured. -/
structure Timer where
  kind : TimerKind
  epoch : Nat
  delay : Time
  deriving DecidableEq

/-- A unit that was started, with the epoch its exit watcher carries. -/
structure SupervisedUnit where
  watch : Nat
  (exited delivered : Bool := false)
  deriving DecidableEq

inductive Call where
  | probe (answer : ProbeAnswer) | startForeground (started : Bool) | stop (ownershipToken : String)
  deriving DecidableEq

/-- What the supervisor holds, whatever phase it is in. -/
structure Custody where
  epoch : Nat := 0
  ownershipToken : String := ""
  unit : Option Nat := none
  unitEpoch : Nat := 0
  (adopted healthInFlight spawnInFlight recoveryStop recoveryActive closed : Bool := false)
  /-- Every unit it started, in order. -/
  units : List SupervisedUnit := []
  /-- The calls it made, in order. -/
  calls : List Call := []
  deriving DecidableEq

structure Supervisor extends Custody where
  phase : Phase := .stopped
  (configFails transientFails healthFails retryAttempt : Int := 0)
  /-- The pending timer, while it has not fired. -/
  pendingTimer : Option Timer := none
  startupSince : Option Time := none
  deriving DecidableEq

/-- What the outside answers during one handler: the clock when the handler begins and when a probe
cycle looks at its startup budget, the probe, whether the launch is valid and starts, and the
health result of the cycle. -/
structure Answers where
  (now checked : Time := 0)
  probe : ProbeAnswer := .error
  (launch started : Bool := true)
  health : HealthResult := {}
  deriving DecidableEq

variable (t : Thresholds) (a : Answers) (s : Supervisor) (res : HealthResult) (now : Time) (epoch : Nat)

/-! ## Timers -/

@[simp] def cancelTimerLocked : Supervisor := { s with pendingTimer := none }

def scheduleLocked (kind : TimerKind) (delay : Time) : Supervisor :=
  { cancelTimerLocked s with pendingTimer := some ⟨kind, s.epoch, delay⟩ }

def backoffDelayLocked : Time :=
  if t.backoffSeconds = [] then second
  else
    let idx := min (s.retryAttempt - 1).toNat (t.backoffSeconds.length - 1)
    min (t.backoffSeconds.getD idx 0) 60 * second

def scheduleHealthCadenceLocked : Supervisor :=
  if s.phase = .failed ∨ s.phase = .stopped then s
  else
    let cadence := t.healthCadenceMS * millisecond
    let cadence := match s.startupSince with
      | none => cadence
      | some since =>
        let remaining := t.startupBudgetMS * millisecond - (now - since)
        if remaining < cadence then max remaining 0 else cadence
    scheduleLocked s .health cadence

/-! ## Failures -/

def enterFailedLocked : Supervisor := cancelTimerLocked { s with phase := .failed }

def enterBackoffLocked : Supervisor :=
  scheduleLocked { s with phase := .backoff } .backoff (backoffDelayLocked t s)

def noteConfigLocked : Supervisor :=
  let s := { s with configFails := s.configFails + 1, retryAttempt := s.retryAttempt + 1 }
  if t.configTerminalThreshold ≤ s.configFails then enterFailedLocked s else enterBackoffLocked t s

def noteTransientLocked : Supervisor :=
  let s := { s with transientFails := s.transientFails + 1, retryAttempt := s.retryAttempt + 1 }
  if t.transientTerminalThreshold ≤ s.transientFails then enterFailedLocked s
  else enterBackoffLocked t s

def startupBudgetExpiredLocked : Supervisor × Bool :=
  match s.startupSince with
  | none => ({ s with startupSince := some now }, false)
  | some since => (s, decide (t.startupBudgetMS * millisecond ≤ now - since))

/-! ## Health and probes -/

/-- `onHealthLocked`; `restart` is what it does when a ready server has failed too often. -/
def onHealthLocked (restart : Supervisor → Supervisor) (s : Supervisor) (res : HealthResult)
    (now : Time) : Supervisor :=
  if res.good then
    scheduleHealthCadenceLocked t
      { s with
        healthFails := 0, configFails := 0, transientFails := 0, retryAttempt := 0
        phase := .ready, startupSince := none } now
  else
    match s.phase with
    | .ready =>
      let s := { s with healthFails := s.healthFails + 1 }
      if t.healthRestartThreshold ≤ s.healthFails then restart s
      else scheduleHealthCadenceLocked t s now
    | .starting | .alreadyRunning | .backoff | .restarting =>
      let expiry := startupBudgetExpiredLocked t s now
      if expiry.2 then noteTransientLocked t expiry.1
      else scheduleHealthCadenceLocked t expiry.1 now
    | .failed | .stopped => scheduleHealthCadenceLocked t s now

/-- `issueHealthLocked`; the mutex is held during the request, so the epoch cannot move. -/
def issueHealthLocked (restart : Supervisor → Supervisor) (s : Supervisor) (res : HealthResult)
    (now : Time) : Supervisor :=
  if s.healthInFlight then s
  else if s.closed then { s with healthInFlight := false }
  else onHealthLocked t restart { s with healthInFlight := false } res now

/-- A health request made by a probe cycle. The phase is starting or already running there, so that
the result never restarts the server. -/
def issueFirstHealth : Supervisor :=
  issueHealthLocked t id s a.health a.checked

def spawnOnceLocked : Supervisor :=
  if s.spawnInFlight then s
  else if a.launch = false then noteConfigLocked t { s with spawnInFlight := false }
  else if a.started = false then
    noteTransientLocked t
      { s with spawnInFlight := false, calls := s.calls ++ [.startForeground false] }
  else
    issueFirstHealth t a
      { s with
        spawnInFlight := true, unit := some s.units.length, adopted := false
        unitEpoch := s.epoch, units := s.units ++ [{ watch := s.epoch }]
        calls := s.calls ++ [.startForeground true] }

def runProbeCycleLocked : Supervisor :=
  let s := { cancelTimerLocked s with calls := s.calls ++ [.probe a.probe] }
  match a.probe with
  | .error => noteTransientLocked t s
  | .matchedRunning ownershipToken =>
    issueFirstHealth t a
      { s with ownershipToken := ownershipToken, adopted := true, unitEpoch := s.epoch, phase := .alreadyRunning }
  | .absent => spawnOnceLocked t a s
  | .mismatch => noteConfigLocked t s
  | .unknown => noteTransientLocked t s
  | .unclassified => noteTransientLocked t s

def beginGracefulRestartLocked : Supervisor :=
  let s := { cancelTimerLocked s with
    phase := .restarting, healthFails := 0, healthInFlight := false, startupSince := some a.now }
  if s.recoveryStop && !s.recoveryActive then { s with recoveryActive := true }
  else
    let s := if s.ownershipToken ≠ "" then { s with calls := s.calls ++ [.stop s.ownershipToken] } else s
    if s.unit.isSome then s else runProbeCycleLocked t a { s with phase := .starting }

/-- A health result that is not part of a probe cycle. -/
def onHealth : Supervisor :=
  onHealthLocked t (beginGracefulRestartLocked t a) s res a.now

def issueHealth : Supervisor :=
  issueHealthLocked t (beginGracefulRestartLocked t a) s res a.now

/-! ## Handlers -/

def start : Supervisor :=
  if s.closed then s
  else
    runProbeCycleLocked t a { cancelTimerLocked s with
      epoch := s.epoch + 1, healthInFlight := false, spawnInFlight := false
      phase := .starting, startupSince := some a.now }

def close : Supervisor := cancelTimerLocked { s with closed := true }

def onResume : Supervisor :=
  if s.closed ∨ s.phase = .failed ∨ s.phase = .stopped then s
  else
    scheduleLocked { cancelTimerLocked s with
      healthFails := 0, healthInFlight := false, epoch := s.epoch + 1 } .resume 0

def recheck : Supervisor :=
  if s.closed ∨ epoch ≠ s.epoch then s
  else if s.phase = .failed ∨ s.phase = .stopped then s
  else if s.phase = .ready ∨ s.phase = .alreadyRunning then issueHealth t a s res
  else runProbeCycleLocked t a { s with phase := .starting }

def checkHealth : Supervisor :=
  if s.closed ∨ epoch ≠ s.epoch then s
  else if s.phase = .failed ∨ s.phase = .stopped ∨ s.phase = .backoff then s
  else issueHealth t a s res

def retry : Supervisor :=
  if s.closed ∨ epoch ≠ s.epoch then s
  else if s.phase ≠ .backoff then s
  else
    runProbeCycleLocked t a { s with
      epoch := s.epoch + 1, healthInFlight := false, spawnInFlight := false
      phase := .starting, startupSince := some a.now }

def callback (timer : Timer) (s : Supervisor) : Supervisor :=
  match timer.kind with
  | .resume => recheck t a s res timer.epoch
  | .health => checkHealth t a s res timer.epoch
  | .backoff => retry t a s timer.epoch

def onChildExit (unitEpoch : Nat) : Supervisor :=
  if s.closed then s
  else if unitEpoch ≠ s.unitEpoch then s
  else
    let s := { s with unit := none, ownershipToken := "", adopted := false, spawnInFlight := false }
    if s.phase = .failed ∨ s.phase = .stopped then s
    else if s.phase = .restarting then
      if s.recoveryActive then s
      else runProbeCycleLocked t a { s with phase := .starting, startupSince := some a.now }
    else noteTransientLocked t s

def deliverHealth : Supervisor :=
  if s.closed then s
  else if epoch ≠ s.epoch then s
  else onHealth t a { s with healthInFlight := false } res

def onRecoveryStop (rejected : Bool) : Supervisor :=
  let s := { s with recoveryActive := false }
  if s.closed ∨ s.phase ≠ .restarting then s
  else if rejected then noteTransientLocked t s
  else
    runProbeCycleLocked t a { s with
      unit := none, ownershipToken := "", adopted := false, spawnInFlight := false
      epoch := s.epoch + 1, phase := .starting, startupSince := some a.now }

/-! ## The system -/

/-- The supervisor and the callbacks of fired timers that wait for its mutex. -/
structure World where
  sup : Supervisor := {}
  firing : List Timer := []
  deriving DecidableEq

inductive Label where
  | setRecoveryStop (wired : Bool) | start (a : Answers) | close | onResume
  /-- The process of a unit ends, by itself or killed. -/
  | exit (unit : Nat)
  /-- The watcher of a unit reports its exit. -/
  | onChildExit (unit : Nat) (a : Answers) | deliverHealth (res : HealthResult) (epoch : Nat) (a : Answers)
  | fire | callback (n : Nat) (res : HealthResult) (a : Answers) | onRecoveryStop (rejected : Bool) (a : Answers)
  deriving DecidableEq

def World.act (w : World) : Label → Option World
  | .setRecoveryStop wired => some { w with sup := { w.sup with recoveryStop := wired } }
  | .start a => some { w with sup := start t a w.sup }
  | .close => some { w with sup := close w.sup }
  | .onResume => some { w with sup := onResume w.sup }
  | .exit unit =>
    w.sup.units[unit]?.map fun u =>
      { w with sup := { w.sup with units := w.sup.units.set unit { u with exited := true } } }
  | .onChildExit unit a =>
    w.sup.units[unit]?.bind fun u =>
      let reported := w.sup.units.set unit { u with delivered := true }
      if u.exited && !u.delivered then some { w with sup := onChildExit t a { w.sup with units := reported } u.watch }
      else none
  | .deliverHealth res epoch a => some { w with sup := deliverHealth t a w.sup res epoch }
  | .fire =>
    w.sup.pendingTimer.map fun timer => { sup := { w.sup with pendingTimer := none }, firing := w.firing ++ [timer] }
  | .callback n res a =>
    w.firing[n]?.map fun timer => { sup := callback t a res timer w.sup, firing := w.firing.eraseIdx n }
  | .onRecoveryStop rejected a =>
    if w.sup.recoveryActive then some { w with sup := onRecoveryStop t a w.sup rejected }
    else none

def World.Step (w : World) (label : Label) (w' : World) : Prop := w.act t label = some w'

end AgentGrid.Wslhost
