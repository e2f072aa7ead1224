import AgentGrid.Wslhost.Supervisor
import Mathlib.Tactic.Tauto
import Mathlib.Tactic.Push

/-!
# What the steps of the supervisor do

A probe cycle, a health result and each step of the system are described by what they leave behind:
the custody of the supervisor, its phase and the timer that is armed.  The invariants of the
supervisor rest on this description and not on the handlers.
-/

namespace AgentGrid.Wslhost

open AgentGrid.Lib Option

/-! ## What a probe cycle does -/

variable {t : Thresholds} {a : Answers} {s s' : Supervisor} {res : HealthResult}

/-- A timer of the kind is pending, and its callback carries the epoch. -/
def Supervisor.Armed (s : Supervisor) (kind : TimerKind) : Prop :=
  ∃ delay, s.pendingTimer = some ⟨kind, s.epoch, delay⟩

/-- The supervisor failed, or waits to try again. -/
def Supervisor.GaveUp (s : Supervisor) : Prop :=
  s.phase = .failed ∨ s.phase = .backoff ∧ s.Armed .backoff

/-- A health result has been taken in a phase before readiness. -/
def Supervisor.Judged (s : Supervisor) (res : HealthResult) (phase : Phase) : Prop :=
  s.GaveUp ∨ s.phase = .ready ∧ res.good = true ∧ s.Armed .health ∨
    s.phase = phase ∧ res.good = false ∧ s.Armed .health

theorem noteConfigLocked_custody : (noteConfigLocked t s).toCustody = s.toCustody := by
  unfold noteConfigLocked
  dsimp only
  split <;> rfl

theorem noteConfigLocked_gaveUp : (noteConfigLocked t s).GaveUp := by
  unfold noteConfigLocked
  dsimp only
  split
  · exact .inl rfl
  · exact .inr ⟨rfl, _, rfl⟩

theorem noteTransientLocked_custody : (noteTransientLocked t s).toCustody = s.toCustody := by
  unfold noteTransientLocked
  dsimp only
  split <;> rfl

theorem noteTransientLocked_gaveUp : (noteTransientLocked t s).GaveUp := by
  unfold noteTransientLocked
  dsimp only
  split
  · exact .inl rfl
  · exact .inr ⟨rfl, _, rfl⟩

section Health

variable (now : Time)

theorem scheduleHealthCadenceLocked_custody : (scheduleHealthCadenceLocked t s now).toCustody = s.toCustody := by
  unfold scheduleHealthCadenceLocked
  split <;> rfl

theorem scheduleHealthCadenceLocked_phase : (scheduleHealthCadenceLocked t s now).phase = s.phase := by
  unfold scheduleHealthCadenceLocked
  split <;> rfl

theorem scheduleHealthCadenceLocked_armed (alive : s.phase ≠ .failed ∧ s.phase ≠ .stopped) :
    (scheduleHealthCadenceLocked t s now).Armed .health := by
  rw [scheduleHealthCadenceLocked, if_neg (not_or.mpr alive)]
  exact ⟨_, rfl⟩

theorem startupBudgetExpiredLocked_custody : (startupBudgetExpiredLocked t s now).1.toCustody = s.toCustody ∧
      (startupBudgetExpiredLocked t s now).1.phase = s.phase := by
  unfold startupBudgetExpiredLocked
  split <;> exact ⟨rfl, rfl⟩

variable (restart : Supervisor → Supervisor)

theorem onHealthLocked_good (good : res.good = true) : (onHealthLocked t restart s res now).toCustody = s.toCustody ∧
      (onHealthLocked t restart s res now).phase = .ready ∧ (onHealthLocked t restart s res now).Armed .health := by
  rw [onHealthLocked, if_pos good]
  exact ⟨scheduleHealthCadenceLocked_custody _, scheduleHealthCadenceLocked_phase _,
    scheduleHealthCadenceLocked_armed _ ⟨nofun, nofun⟩⟩

theorem onHealthLocked_early (bad : res.good = false)
    (early : s.phase = .starting ∨ s.phase = .alreadyRunning ∨ s.phase = .backoff ∨ s.phase = .restarting) :
    onHealthLocked t restart s res now = if (startupBudgetExpiredLocked t s now).2
      then noteTransientLocked t (startupBudgetExpiredLocked t s now).1
      else scheduleHealthCadenceLocked t (startupBudgetExpiredLocked t s now).1 now := by
  rw [onHealthLocked, bad, if_neg Bool.false_ne_true]
  rcases early with early | early | early | early <;> rw [early]

theorem onHealthLocked_bad (bad : res.good = false)
    (early : s.phase = .starting ∨ s.phase = .alreadyRunning ∨ s.phase = .backoff ∨ s.phase = .restarting) :
    (onHealthLocked t restart s res now).toCustody = s.toCustody ∧
      ((onHealthLocked t restart s res now).GaveUp ∨ (onHealthLocked t restart s res now).phase = s.phase ∧
          (onHealthLocked t restart s res now).Armed .health) := by
  obtain ⟨custody, phase⟩ := startupBudgetExpiredLocked_custody now
  rw [onHealthLocked_early now restart bad early]
  split
  · exact ⟨noteTransientLocked_custody.trans custody, .inl noteTransientLocked_gaveUp⟩
  refine ⟨(scheduleHealthCadenceLocked_custody _).trans custody, .inr ⟨?_, ?_⟩⟩
  · rw [scheduleHealthCadenceLocked_phase, phase]
  · apply scheduleHealthCadenceLocked_armed
    rw [phase]
    rcases early with early | early | early | early <;> simp [early]

theorem issueHealthLocked_eq (res : HealthResult) (idle : s.healthInFlight = false) (opened : s.closed = false) :
    issueHealthLocked t restart s res now = onHealthLocked t restart s res now := by
  have same : ({ s with healthInFlight := false } : Supervisor) = s := by rw [← idle]
  rw [issueHealthLocked, if_neg (by simp [idle]), if_neg (by simp [opened]), same]

end Health

theorem issueFirstHealth_judged (idle : s.healthInFlight = false) (opened : s.closed = false)
    (early : s.phase = .starting ∨ s.phase = .alreadyRunning) :
    (issueFirstHealth t a s).toCustody = s.toCustody ∧ (issueFirstHealth t a s).Judged a.health s.phase := by
  rw [issueFirstHealth, issueHealthLocked_eq _ _ _ idle opened]
  cases good : a.health.good with
  | true =>
    obtain ⟨custody, phase, armed⟩ := onHealthLocked_good a.checked id good
    exact ⟨custody, .inr (.inl ⟨phase, good, armed⟩)⟩
  | false =>
    obtain ⟨custody, outcome⟩ := onHealthLocked_bad a.checked id good (by tauto)
    refine ⟨custody, ?_⟩
    rcases outcome with gaveUp | ⟨phase, armed⟩
    · exact .inl gaveUp
    · exact .inr (.inr ⟨phase, good, armed⟩)

inductive Cycled (a : Answers) (s s' : Supervisor) : Prop where
  /-- A spawn is in flight and the probe finds no server: nothing is scheduled. -/
  | idle (inFlight : s.spawnInFlight = true) (absent : a.probe = .absent)
      (custody : s'.toCustody = { s.toCustody with calls := s.calls ++ [.probe .absent] })
      (phase : s'.phase = .starting)
  | gaveUp
      (custody : s'.toCustody = { s.toCustody with calls := s.calls ++ [.probe a.probe] })
      (outcome : s'.GaveUp)
  | unstarted (free : s.spawnInFlight = false) (absent : a.probe = .absent)
      (custody : s'.toCustody = { s.toCustody with calls := s.calls ++ [.probe .absent] ++ [.startForeground false] })
      (outcome : s'.GaveUp)
  | adopted (token : String) (matched : a.probe = .matchedRunning token)
      (custody : s'.toCustody =
        { s.toCustody with
          ownershipToken := token, adopted := true, unitEpoch := s.epoch, calls := s.calls ++ [.probe a.probe] })
      (outcome : s'.Judged a.health .alreadyRunning)
  | spawned (free : s.spawnInFlight = false) (absent : a.probe = .absent)
      (custody : s'.toCustody =
        { s.toCustody with
          spawnInFlight := true, unit := some s.units.length, adopted := false
          unitEpoch := s.epoch, units := s.units ++ [{ watch := s.epoch }]
          calls := s.calls ++ [.probe .absent] ++ [.startForeground true] })
      (outcome : s'.Judged a.health .starting)

theorem runProbeCycleLocked_cycled (idle : s.healthInFlight = false) (opened : s.closed = false)
    (starting : s.phase = .starting) : Cycled a s (runProbeCycleLocked t a s) := by
  unfold runProbeCycleLocked
  cases answer : a.probe with
  | error | unknown | unclassified =>
    exact .gaveUp (by rw [answer]; exact noteTransientLocked_custody) noteTransientLocked_gaveUp
  | mismatch => exact .gaveUp (by rw [answer]; exact noteConfigLocked_custody) noteConfigLocked_gaveUp
  | matchedRunning token =>
    obtain ⟨custody, judged⟩ := issueFirstHealth_judged (s := { s with
        ownershipToken := token, adopted := true, unitEpoch := s.epoch
        calls := s.calls ++ [.probe a.probe], pendingTimer := none, phase := .alreadyRunning })
      idle opened (.inr rfl)
    rw [answer] at custody judged
    exact .adopted token answer (by rwa [answer]) judged
  | absent =>
    dsimp only
    unfold spawnOnceLocked
    split
    · rename_i inFlight
      exact .idle inFlight answer rfl starting
    rename_i free
    have free : s.spawnInFlight = false := by simpa using free
    split
    · refine .gaveUp ?_ noteConfigLocked_gaveUp
      rw [noteConfigLocked_custody, answer]
      simp [free]
    split
    · refine .unstarted free answer ?_ noteTransientLocked_gaveUp
      rw [noteTransientLocked_custody]
      simp [free]
    obtain ⟨custody, judged⟩ := issueFirstHealth_judged (s := { s with
        spawnInFlight := true, unit := some s.units.length, adopted := false
        unitEpoch := s.epoch, units := s.units ++ [{ watch := s.epoch }]
        calls := s.calls ++ [.probe .absent] ++ [.startForeground true], pendingTimer := none })
      idle opened (.inl starting)
    exact .spawned free answer custody (starting ▸ judged)

/-! ## What a health result does -/

/-- What the supervisor does with a health result outside of a probe cycle. -/
inductive Taken (t : Thresholds) (a : Answers) (res : HealthResult) (s s' : Supervisor) : Prop where
  | good (good : res.good = true) (custody : s'.toCustody = s.toCustody)
      (ready : s'.phase = .ready) (armed : s'.Armed .health)
  | gaveUp (bad : res.good = false) (custody : s'.toCustody = s.toCustody) (outcome : s'.GaveUp)
  | waits (bad : res.good = false) (custody : s'.toCustody = s.toCustody)
      (phase : s'.phase = s.phase) (armed : s'.Armed .health)
      (within : s.phase = .backoff → (startupBudgetExpiredLocked t s a.now).2 = false)
  | ignored (bad : res.good = false) (same : s' = s)
      (ended : s.phase = .failed ∨ s.phase = .stopped)
  | recovering (bad : res.good = false) (ready : s.phase = .ready)
      (custody : s'.toCustody = { s.toCustody with recoveryActive := true })
      (phase : s'.phase = .restarting)
  | stopping (bad : res.good = false) (ready : s.phase = .ready)
      (reached : t.healthRestartThreshold ≤ s.healthFails + 1)
      (unwired : s.recoveryStop = false ∨ s.recoveryActive = true) (held : s.unit.isSome = true)
      (stops : List Call) (kind : ∀ call ∈ stops, call = .stop s.ownershipToken)
      (custody : s'.toCustody = { s.toCustody with calls := s.calls ++ stops })
      (phase : s'.phase = .restarting)
  | cycled (bad : res.good = false) (ready : s.phase = .ready) (free : s.unit = none)
      (stops : List Call) (kind : ∀ call ∈ stops, call = .stop s.ownershipToken)
      (middle : Supervisor)
      (custody : middle.toCustody = { s.toCustody with calls := s.calls ++ stops })
      (cycle : Cycled a middle s')

theorem beginGracefulRestartLocked_taken (idle : s.healthInFlight = false)
    (opened : s.closed = false) (bad : res.good = false) (ready : s.phase = .ready)
    (reached : t.healthRestartThreshold ≤ s.healthFails + 1) :
    Taken t a res s (beginGracefulRestartLocked t a { s with healthFails := s.healthFails + 1 }) := by
  unfold beginGracefulRestartLocked
  dsimp only [cancelTimerLocked]
  split
  · refine .recovering bad ready ?_ rfl
    simp [← idle]
  rename_i unwired
  have unwired : s.recoveryStop = false ∨ s.recoveryActive = true := by simpa [imp_iff_not_or] using unwired
  split <;> rename_i token
  · split <;> rename_i unit
    · exact .stopping bad ready reached unwired unit [.stop s.ownershipToken] (by simp) (by simp [← idle]) rfl
    · exact .cycled bad ready (by simpa using unit) [.stop s.ownershipToken] (by simp) _
        (by simp [← idle]) (runProbeCycleLocked_cycled rfl opened rfl)
  split <;> rename_i unit
  · exact .stopping bad ready reached unwired unit [] nofun (by simp [← idle]) rfl
  · exact .cycled bad ready (by simpa using unit) [] nofun _ (by simp [← idle])
      (runProbeCycleLocked_cycled rfl opened rfl)

theorem onHealth_taken (idle : s.healthInFlight = false) (opened : s.closed = false) :
    Taken t a res s (onHealth t a s res) := by
  unfold onHealth
  cases good : res.good with
  | true =>
    obtain ⟨custody, phase, armed⟩ := onHealthLocked_good a.now (beginGracefulRestartLocked t a) good
    exact .good good custody phase armed
  | false =>
    by_cases early : s.phase = .starting ∨ s.phase = .alreadyRunning ∨ s.phase = .backoff ∨ s.phase = .restarting
    · obtain ⟨custody, outcome⟩ := onHealthLocked_bad a.now (beginGracefulRestartLocked t a) good early
      rcases outcome with gaveUp | ⟨phase, armed⟩
      · exact .gaveUp good custody gaveUp
      by_cases within : s.phase = .backoff → (startupBudgetExpiredLocked t s a.now).2 = false
      · exact .waits good custody phase armed within
      refine .gaveUp good custody ?_
      push Not at within
      obtain ⟨backoff, expired⟩ := within
      rw [onHealthLocked, good, if_neg Bool.false_ne_true, backoff]
      simp only [expired, if_true]
      exact noteTransientLocked_gaveUp
    rw [onHealthLocked, good, if_neg Bool.false_ne_true]
    cases phase : s.phase with
    | starting | alreadyRunning | backoff | restarting => simp [phase] at early
    | failed | stopped =>
      refine .ignored good ?_ (by simp [phase])
      simp [scheduleHealthCadenceLocked, phase]
    | ready =>
      dsimp only
      split
      · rename_i reached
        rw [← phase]
        exact beginGracefulRestartLocked_taken idle opened good phase reached
      refine .waits good (scheduleHealthCadenceLocked_custody _)
        ((scheduleHealthCadenceLocked_phase _).trans phase.symm)
        (scheduleHealthCadenceLocked_armed _ ⟨nofun, nofun⟩) (by simp [phase])

/-! ## What a step does -/

/-- A new cycle: results of the one before are stale, and a spawn in flight is forgotten. -/
def Custody.renewed (c : Custody) : Custody :=
  { c with epoch := c.epoch + 1, healthInFlight := false, spawnInFlight := false }

/-- The unit is gone, and with it the authority over it. -/
@[simp] def Custody.released (c : Custody) : Custody :=
  { c with unit := none, ownershipToken := "", adopted := false, spawnInFlight := false }

@[simp] def Custody.reported (c : Custody) (unit : Nat) (u : SupervisedUnit) : Custody :=
  { c with units := c.units.set unit { u with delivered := true } }

def Timer.Skipped (timer : Timer) (s : Supervisor) : Prop :=
  s.closed = true ∨ timer.epoch ≠ s.epoch ∨ s.phase = .failed ∨ s.phase = .stopped ∨
    timer.kind = .health ∧ s.phase = .backoff ∨ timer.kind = .backoff ∧ s.phase ≠ .backoff

/-- A callback that asks for the health of the server. -/
def Timer.Asks (timer : Timer) (s : Supervisor) : Prop :=
  timer.kind = .resume ∧ (s.phase = .ready ∨ s.phase = .alreadyRunning) ∨
    timer.kind = .health ∧ s.phase ≠ .failed ∧ s.phase ≠ .stopped ∧ s.phase ≠ .backoff

def Custody.Exiting (c : Custody) (unit : Nat) (u : SupervisedUnit) : Prop :=
  c.units[unit]? = some u ∧ u.exited = true ∧ u.delivered = false

inductive Move (t : Thresholds) (w : World) : Label → World → Prop where
  | wire (wired : Bool) : Move t w (.setRecoveryStop wired) { w with sup := { w.sup with recoveryStop := wired } }
  | close : Move t w .close { w with sup := Wslhost.close w.sup }
  | exit (unit : Nat) (u : SupervisedUnit) (there : w.sup.units[unit]? = some u) : Move t w (.exit unit)
        { w with sup := { w.sup with units := w.sup.units.set unit { u with exited := true } } }
  | fire (timer : Timer) (pending : w.sup.pendingTimer = some timer) :
      Move t w .fire { sup := { w.sup with pendingTimer := none }, firing := w.firing ++ [timer] }
  | startIgnored (a : Answers) (closed : w.sup.closed = true) : Move t w (.start a) w
  | started (a : Answers) (opened : w.sup.closed = false) (middle s' : Supervisor)
      (custody : middle.toCustody = w.sup.toCustody.renewed) (cycle : Cycled a middle s') :
      Move t w (.start a) { w with sup := s' }
  | resumeIgnored (why : w.sup.closed = true ∨ w.sup.phase = .failed ∨ w.sup.phase = .stopped) : Move t w .onResume w
  | resumed (s' : Supervisor) (opened : w.sup.closed = false)
      (custody : s'.toCustody = { w.sup.toCustody with healthInFlight := false, epoch := w.sup.epoch + 1 })
      (phase : s'.phase = w.sup.phase) (armed : s'.Armed .resume) : Move t w .onResume { w with sup := s' }
  | skipped (n : Nat) (res : HealthResult) (a : Answers) (timer : Timer)
      (fired : w.firing[n]? = some timer) (why : timer.Skipped w.sup) :
      Move t w (.callback n res a) { w with firing := w.firing.eraseIdx n }
  | asked (n : Nat) (res : HealthResult) (a : Answers) (timer : Timer)
      (fired : w.firing[n]? = some timer) (asks : timer.Asks w.sup)
      (current : timer.epoch = w.sup.epoch) (s' : Supervisor) (opened : w.sup.closed = false)
      (taken : Taken t a res w.sup s') : Move t w (.callback n res a) { sup := s', firing := w.firing.eraseIdx n }
  | rechecked (n : Nat) (res : HealthResult) (a : Answers) (timer : Timer)
      (fired : w.firing[n]? = some timer) (kind : timer.kind = .resume)
      (current : timer.epoch = w.sup.epoch) (middle s' : Supervisor)
      (opened : w.sup.closed = false)
      (early : w.sup.phase = .starting ∨ w.sup.phase = .backoff ∨ w.sup.phase = .restarting)
      (custody : middle.toCustody = w.sup.toCustody) (cycle : Cycled a middle s') :
      Move t w (.callback n res a) { sup := s', firing := w.firing.eraseIdx n }
  | retried (n : Nat) (res : HealthResult) (a : Answers) (timer : Timer)
      (fired : w.firing[n]? = some timer) (kind : timer.kind = .backoff)
      (current : timer.epoch = w.sup.epoch) (middle s' : Supervisor)
      (opened : w.sup.closed = false) (backoff : w.sup.phase = .backoff)
      (custody : middle.toCustody = w.sup.toCustody.renewed) (cycle : Cycled a middle s') :
      Move t w (.callback n res a) { sup := s', firing := w.firing.eraseIdx n }
  | healthIgnored (res : HealthResult) (epoch : Nat) (a : Answers)
      (why : w.sup.closed = true ∨ epoch ≠ w.sup.epoch) : Move t w (.deliverHealth res epoch a) w
  | healthTaken (res : HealthResult) (a : Answers) (s' : Supervisor)
      (opened : w.sup.closed = false) (taken : Taken t a res w.sup s') :
      Move t w (.deliverHealth res w.sup.epoch a) { w with sup := s' }
  | exitIgnored (unit : Nat) (a : Answers) (u : SupervisedUnit)
      (exiting : w.sup.Exiting unit u) (s' : Supervisor)
      (why : w.sup.closed = true ∨ u.watch ≠ w.sup.unitEpoch)
      (custody : s'.toCustody = w.sup.reported unit u) (phase : s'.phase = w.sup.phase)
      (timer : s'.pendingTimer = w.sup.pendingTimer) : Move t w (.onChildExit unit a) { w with sup := s' }
  | exitNoted (unit : Nat) (a : Answers) (u : SupervisedUnit)
      (exiting : w.sup.Exiting unit u) (s' : Supervisor)
      (opened : w.sup.closed = false) (current : u.watch = w.sup.unitEpoch)
      (quiet : w.sup.phase = .failed ∨ w.sup.phase = .stopped ∨
        w.sup.phase = .restarting ∧ w.sup.recoveryActive = true)
      (custody : s'.toCustody = (w.sup.reported unit u).released)
      (phase : s'.phase = w.sup.phase) : Move t w (.onChildExit unit a) { w with sup := s' }
  | exitFailed (unit : Nat) (a : Answers) (u : SupervisedUnit)
      (exiting : w.sup.Exiting unit u) (s' : Supervisor)
      (opened : w.sup.closed = false) (current : u.watch = w.sup.unitEpoch)
      (custody : s'.toCustody = (w.sup.reported unit u).released) (outcome : s'.GaveUp) :
      Move t w (.onChildExit unit a) { w with sup := s' }
  | exitCycled (unit : Nat) (a : Answers) (u : SupervisedUnit)
      (exiting : w.sup.Exiting unit u) (middle s' : Supervisor)
      (opened : w.sup.closed = false) (current : u.watch = w.sup.unitEpoch)
      (restarting : w.sup.phase = .restarting)
      (custody : middle.toCustody = (w.sup.reported unit u).released)
      (cycle : Cycled a middle s') : Move t w (.onChildExit unit a) { w with sup := s' }
  | recoveryIgnored (rejected : Bool) (a : Answers) (active : w.sup.recoveryActive = true)
      (why : w.sup.closed = true ∨ w.sup.phase ≠ .restarting) :
      Move t w (.onRecoveryStop rejected a) { w with sup := { w.sup with recoveryActive := false } }
  | recoveryFailed (a : Answers) (active : w.sup.recoveryActive = true) (s' : Supervisor)
      (opened : w.sup.closed = false)
      (custody : s'.toCustody = { w.sup.toCustody with recoveryActive := false })
      (outcome : s'.GaveUp) : Move t w (.onRecoveryStop true a) { w with sup := s' }
  | recovered (a : Answers) (active : w.sup.recoveryActive = true) (middle s' : Supervisor)
      (opened : w.sup.closed = false) (restarting : w.sup.phase = .restarting)
      (custody : middle.toCustody =
        { w.sup.toCustody.released with recoveryActive := false, epoch := w.sup.epoch + 1 })
      (cycle : Cycled a middle s') : Move t w (.onRecoveryStop false a) { w with sup := s' }

variable {w w' : World} {label : Label}

section

variable (idle : w.sup.healthInFlight = false)

include idle

theorem callback_move {n : Nat} {timer : Timer} (fired : w.firing[n]? = some timer) :
    Move t w (.callback n res a) { sup := callback t a res timer w.sup, firing := w.firing.eraseIdx n } := by
  by_cases skipped : timer.Skipped w.sup
  · have same : callback t a res timer w.sup = w.sup := by
      unfold callback recheck checkHealth retry
      rcases skipped with closed | stale | failed | stopped | ⟨kind, phase⟩ | ⟨kind, phase⟩
      · cases timer.kind <;> simp [closed]
      · cases timer.kind <;> simp [stale]
      · cases timer.kind <;> simp [failed]
      · cases timer.kind <;> simp [stopped]
      · simp [kind, phase]
      · simp [kind, phase]
    rw [same]
    exact .skipped n res a timer fired skipped
  simp only [Timer.Skipped, not_or, Bool.not_eq_true, not_not, not_and] at skipped
  obtain ⟨opened, current, notFailed, notStopped, notHealth, backoff⟩ := skipped
  unfold callback
  cases kind : timer.kind with
  | resume =>
    dsimp only
    rw [recheck, if_neg (by simp [opened, current]), if_neg (by simp [notFailed, notStopped])]
    split
    · rename_i settled
      rw [issueHealth, issueHealthLocked_eq _ _ _ idle opened]
      exact .asked n res a timer fired (.inl ⟨kind, settled⟩) current _ opened (onHealth_taken idle opened)
    refine .rechecked n res a timer fired kind current { w.sup with phase := .starting } _
      opened ?_ rfl (runProbeCycleLocked_cycled idle opened rfl)
    cases phase : w.sup.phase <;> simp_all
  | health =>
    unfold checkHealth
    rw [if_neg (by simp [opened, current]), if_neg (by simp [notFailed, notStopped, notHealth kind]), issueHealth,
      issueHealthLocked_eq _ _ _ idle opened]
    exact .asked n res a timer fired  (.inr ⟨kind, notFailed, notStopped, notHealth kind⟩) current _ opened
      (onHealth_taken idle opened)
  | backoff =>
    rw [retry, if_neg (by simp [opened, current]), if_neg (by simp [backoff kind])]
    exact .retried n res a timer fired kind current _ _ opened (backoff kind) rfl
      (runProbeCycleLocked_cycled rfl opened rfl)

theorem onChildExit_move {unit : Nat} {u : SupervisedUnit} (exiting : w.sup.Exiting unit u) :
    let units := w.sup.units.set unit { u with delivered := true }
    Move t w (.onChildExit unit a) { w with sup := onChildExit t a { w.sup with units := units } u.watch } := by
  intro units
  fun_cases onChildExit t a { w.sup with units := units } u.watch
  case case1 closed => exact .exitIgnored unit a u exiting _ (.inl closed) rfl rfl rfl
  case case2 stale => exact .exitIgnored unit a u exiting _ (.inr stale) rfl rfl rfl
  all_goals
    have opened : w.sup.closed = false := Bool.eq_false_iff.mpr ‹_›
    have current := not_not.mp ‹_›
  case case3 ended => exact .exitNoted unit a u exiting _ opened current (by tauto) rfl rfl
  case case4 restarting active =>
    exact .exitNoted unit a u exiting _ opened current (.inr (.inr ⟨restarting, active⟩)) rfl rfl
  case case5 restarting _ =>
    exact .exitCycled unit a u exiting _ _ opened current restarting rfl (runProbeCycleLocked_cycled idle opened rfl)
  case case6 =>
    exact .exitFailed unit a u exiting _ opened current noteTransientLocked_custody noteTransientLocked_gaveUp

theorem onRecoveryStop_move (active : w.sup.recoveryActive = true) (rejected : Bool) :
    Move t w (.onRecoveryStop rejected a) { w with sup := onRecoveryStop t a w.sup rejected } := by
  unfold onRecoveryStop
  dsimp only
  split
  · rename_i why
    exact .recoveryIgnored rejected a active why
  rename_i ongoing
  obtain ⟨opened, restarting⟩ := not_or.mp ongoing
  have opened : w.sup.closed = false := by simpa using opened
  cases rejected with
  | true => exact .recoveryFailed a active _ opened noteTransientLocked_custody noteTransientLocked_gaveUp
  | false =>
    exact .recovered a active _ _ opened (not_not.mp restarting) rfl (runProbeCycleLocked_cycled idle opened rfl)

theorem World.Step.move (step : w.Step t label w') : Move t w label w' := by
  cases label with
  | setRecoveryStop wired =>
    cases step
    exact .wire wired
  | close =>
    cases step
    exact .close
  | start a =>
    cases step
    fun_cases Wslhost.start t a w.sup
    · exact .startIgnored a ‹_›
    have opened := Bool.eq_false_iff.mpr ‹_›
    exact .started a opened _ _ rfl (runProbeCycleLocked_cycled rfl opened rfl)
  | onResume =>
    cases step
    fun_cases Wslhost.onResume w.sup
    · exact .resumeIgnored ‹_›
    · exact .resumed _ (Bool.eq_false_iff.mpr (not_or.mp ‹_›).1) rfl rfl ⟨_, rfl⟩
  | exit unit =>
    obtain ⟨u, there, rfl⟩ := map_eq_some_iff.mp step
    exact .exit unit u there
  | onChildExit =>
    obtain ⟨u, there, reported⟩ := bind_eq_some_iff.mp step
    simp only [Bool.and_eq_true, Bool.not_eq_true', ite_none_right_eq_some, some.injEq] at reported
    obtain ⟨⟨exited, undelivered⟩, rfl⟩ := reported
    exact onChildExit_move idle ⟨there, exited, undelivered⟩
  | deliverHealth res epoch a =>
    cases step
    fun_cases Wslhost.deliverHealth t a w.sup res epoch
    · exact .healthIgnored res epoch a (.inl ‹_›)
    · exact .healthIgnored res epoch a (.inr ‹_›)
    rename_i opened current
    have opened : w.sup.closed = false := by simpa using opened
    have same : ({ w.sup with healthInFlight := false } : Supervisor) = w.sup := by rw [← idle]
    rw [same, not_not.mp current]
    exact .healthTaken res a _ opened (onHealth_taken idle opened)
  | fire =>
    obtain ⟨timer, pending, rfl⟩ := map_eq_some_iff.mp step
    exact .fire timer pending
  | callback =>
    obtain ⟨timer, fired, rfl⟩ := map_eq_some_iff.mp step
    exact callback_move idle fired
  | onRecoveryStop rejected =>
    obtain ⟨active, rfl⟩ := of_guard step
    exact onRecoveryStop_move idle active rejected

end

/-! ## Health requests -/

theorem Cycled.idle_of (cycle : Cycled a s s') (idle : s.healthInFlight = false) : s'.healthInFlight = false := by
  cases cycle with
  | idle _ _ custody | gaveUp custody | unstarted _ _ custody | adopted _ _ custody
  | spawned _ _ custody => rwa [custody]

/-- What holds whatever calls were made and whether a recovery is on holds after a health result, if
it survives a cycle. -/
theorem Taken.preserves {P : Custody → Prop} (taken : Taken t a res s s')
    (kept : ∀ active calls, P { s.toCustody with recoveryActive := active, calls := calls })
    (cycled : ∀ middle, P middle.toCustody → Cycled a middle s' → P s'.toCustody) : P s'.toCustody := by
  cases taken with
  | good _ custody | gaveUp _ custody | waits _ custody =>
    rw [custody]
    exact kept s.recoveryActive s.calls
  | recovering _ _ custody | stopping _ _ _ _ _ _ _ custody =>
    rw [custody]
    exact kept _ _
  | ignored _ unchanged =>
    rw [unchanged]
    exact kept s.recoveryActive s.calls
  | cycled _ _ _ _ _ middle custody cycle => exact cycled middle (by rw [custody]; exact kept _ _) cycle

theorem World.Step.idle (idle : w.sup.healthInFlight = false) (step : w.Step t label w') :
    w'.sup.healthInFlight = false := by
  cases step.move idle with
  | wire | close | exit | fire | startIgnored | resumeIgnored | skipped | healthIgnored
  | recoveryIgnored => exact idle
  | started _ _ _ _ custody cycle => exact cycle.idle_of (by rw [custody]; rfl)
  | resumed _ _ custody => simp only [custody]
  | asked _ _ _ _ _ _ _ _ _ taken | healthTaken _ _ _ _ taken =>
    exact taken.preserves (P := (·.healthInFlight = false)) (fun _ _ => idle) fun _ idle cycle => cycle.idle_of idle
  | rechecked _ _ _ _ _ _ _ _ _ _ _ custody cycle => exact cycle.idle_of (by rwa [custody])
  | retried _ _ _ _ _ _ _ _ _ _ _ custody cycle => exact cycle.idle_of (by rw [custody]; rfl)
  | exitIgnored _ _ _ _ _ _ custody | exitNoted _ _ _ _ _ _ _ _ custody
  | exitFailed _ _ _ _ _ _ _ custody =>
    simp only [custody]
    exact idle
  | exitCycled _ _ _ _ _ _ _ _ _ custody cycle => exact cycle.idle_of (by rwa [custody])
  | recoveryFailed _ _ _ _ custody =>
    simp only [custody]
    exact idle
  | recovered _ _ _ _ _ _ custody cycle => exact cycle.idle_of (by rwa [custody])

end AgentGrid.Wslhost
