import AgentGrid.Wslhost.Stop
import AgentGrid.Wslhost.Units

/-!
# The service: supervising and stopping

The Windows service runs the supervisor and the stop coordinator side by side.  A stop control
begins a transaction; a recovery stop goes through the same coordinator, and a call that finds one
in flight returns its outcome so far.  The coordinator does not tell the supervisor that the
service is stopping.
-/

namespace AgentGrid.Wslhost

open AgentGrid.Lib Option

/-- The goroutine that a restart starts: it calls the coordinator and hands its outcome back. -/
inductive Recovery where
  | calling | running | returned (out : StopOutcome)
  deriving DecidableEq

def Call.isStart : Call → Bool
  | .startForeground _ => true
  | _ => false

def World.starts (w : World) : Nat := w.sup.calls.countP Call.isStart

/-- `ServiceHost`, with the number of starts when its first stop control was accepted. -/
structure Service where
  world : World := { sup := { recoveryStop := true } }
  transaction : Option Transaction := none
  last : StopOutcome := { path := .scm }
  recovery : Option Recovery := none
  accepted : Option Nat := none
  deriving DecidableEq

inductive ServiceLabel where
  /-- A Stop or Shutdown control, or the end of the control loop. -/
  | control
  /-- The recovery goroutine calls the coordinator. -/
  | recover
  /-- The transaction in flight is answered. -/
  | answer (answer : StopAnswer)
  /-- The call that runs the transaction returns. -/
  | finish
  /-- The recovery goroutine hands its outcome to the supervisor. -/
  | recovered (a : Answers) | supervise (label : Label)
  deriving DecidableEq

namespace Service

variable (t : Thresholds) (distribution : String)

/-- `Run` of the coordinator: the transaction that it starts, or the outcome of a duplicate. -/
def run (s : Service) (path : StopPath) : Service × Option StopOutcome :=
  if s.transaction.isSome then
    let out := ({ s.last with duplicate := true } : StopOutcome).mark .duplicateIgnored
    ({ s with last := out }, some out)
  else
    let txn := Transaction.start path
    ({ s with transaction := some txn, last := txn.out }, none)

/-- The supervisor takes a step; a restart may start the recovery goroutine. -/
def supervise (s : Service) (label : Label) : Option Service :=
  (s.world.act t label).map fun w =>
    { s with world := w, recovery := if w.sup.recoveryActive && s.recovery.isNone then some .calling else s.recovery }

def act (s : Service) : ServiceLabel → Option Service
  | .control =>
    let s := { s with accepted := s.accepted <|> some s.world.starts }
    some (s.run .scm).1
  | .recover =>
    match s.recovery with
    | some .calling =>
      let r := s.run .recovery
      some { r.1 with recovery := some (r.2.elim .running .returned) }
    | _ => none
  | .answer answer =>
    s.transaction.bind fun txn =>
      let answer := if txn.stage = .readSession then .session s.world.sup.stopSession else answer
      (txn.advance distribution answer).map fun txn' =>
        { s with
          transaction := some txn'
          last := if txn'.out.checkpoints = txn.out.checkpoints then s.last else txn'.out }
  | .finish =>
    s.transaction.bind fun txn =>
      if txn.stage = .finished then
        some { s with
          transaction := none, last := txn.out
          recovery := if txn.out.path = .recovery then some (.returned txn.out) else s.recovery }
      else none
  | .recovered a =>
    match s.recovery with
    | some (.returned out) => ({ s with recovery := none } : Service).supervise t (.onRecoveryStop out.rejected a)
    | _ => none
  | .supervise label =>
    match label with
    | .setRecoveryStop _ | .onRecoveryStop _ _ => none
    | label => s.supervise t label

def Step (s : Service) (label : ServiceLabel) (s' : Service) : Prop :=
  s.act t distribution label = some s'

end Service

/-! ## No start after a stop -/

variable {t : Thresholds} {distribution : String} {w w' : World} {s s' : Service}

/-- The supervisor starts no server in the step: it is closed, the step finds no server absent, or
the supervisor has failed or stopped and is not called to start. -/
@[simp] def World.calm (w : World) (label : Label) : Bool :=
  w.sup.closed || (label.answers.all fun a => decide (a.probe ≠ .absent)) || match label with
    | .start _ => false
    | _ => decide (w.sup.phase = .failed ∨ w.sup.phase = .stopped)

theorem Cycled.starts_same {a : Answers} {x x' : Supervisor} (cycle : Cycled a x x') (present : a.probe ≠ .absent) :
    x'.calls.countP Call.isStart = x.calls.countP Call.isStart := by
  cases cycle with
  | idle _ absent | unstarted _ absent | spawned _ absent => exact absurd absent present
  | gaveUp custody | adopted _ _ custody =>
    rw [custody, List.countP_append]
    rfl

theorem Taken.starts_same {a : Answers} {res : HealthResult} {x x' : Supervisor} (taken : Taken t a res x x')
    (present : x.phase = .ready → a.probe ≠ .absent) :
    x'.calls.countP Call.isStart = x.calls.countP Call.isStart := by
  have stopped : ∀ stops : List Call, (∀ call ∈ stops, call = .stop x.ownershipToken) →
      (x.calls ++ stops).countP Call.isStart = x.calls.countP Call.isStart := by
    intro stops kind
    rw [List.countP_append, Nat.add_eq_left, List.countP_eq_zero]
    intro call mem
    simp [kind call mem, Call.isStart]
  cases taken with
  | good _ custody | gaveUp _ custody | waits _ custody | recovering _ _ custody => rw [custody]
  | ignored _ same => rw [same]
  | stopping _ _ _ _ _ stops kind custody =>
    rw [custody]
    exact stopped stops kind
  | cycled _ ready _ stops kind _ custody cycle =>
    rw [cycle.starts_same (present ready), custody]
    exact stopped stops kind

theorem World.Step.starts_of_calm {label : Label} (idle : w.sup.healthInFlight = false)
    (calm : w.calm label = true) (step : w.Step t label w') : w'.starts = w.starts := by
  unfold World.starts
  cases step.move idle with
  | wire | close | exit | fire | startIgnored | resumeIgnored | skipped | healthIgnored
  | recoveryIgnored => rfl
  | started _ opened _ _ custody cycle =>
    rw [cycle.starts_same (by simpa [Label.answers, opened] using calm), custody]
    rfl
  | healthTaken _ _ _ opened taken =>
    exact taken.starts_same fun ready => by simpa [Label.answers, opened, ready] using calm
  | asked _ _ _ _ _ _ _ _ opened taken =>
    exact taken.starts_same fun ready => by simpa [Label.answers, opened, ready] using calm
  | rechecked _ _ _ _ _ _ _ _ _ opened early custody cycle =>
    rw [cycle.starts_same, custody]
    rcases early with phase | phase | phase <;> simpa [Label.answers, opened, phase] using calm
  | retried _ _ _ _ _ _ _ _ _ opened backoff custody cycle =>
    rw [cycle.starts_same (by simpa [Label.answers, opened, backoff] using calm), custody]
    rfl
  | exitCycled _ _ _ _ _ _ opened _ restarting custody cycle
  | recovered _ _ _ _ opened restarting custody cycle =>
    rw [cycle.starts_same (by simpa [Label.answers, opened, restarting] using calm), custody]
    rfl
  | resumed _ _ custody | recoveryFailed _ _ _ _ custody => simp only [custody]
  | exitIgnored _ _ _ _ _ _ custody | exitNoted _ _ _ _ _ _ _ _ custody
  | exitFailed _ _ _ _ _ _ _ custody =>
    simp only [custody]
    rfl

/-- Once a stop was accepted, the supervisor starts no server in the step. -/
@[simp] def Service.calm (s : Service) (label : ServiceLabel) : Bool :=
  s.accepted.isNone || match label, s.recovery with
    | .supervise label, _ => s.world.calm label
    | .recovered a, some (.returned out) => s.world.calm (.onRecoveryStop out.rejected a)
    | _, _ => true

theorem Service.run_world (s : Service) (path : StopPath) :
    (s.run path).1.world = s.world ∧ (s.run path).1.accepted = s.accepted := by
  unfold Service.run
  split <;> exact ⟨rfl, rfl⟩

theorem Service.supervise_world {label : Label} (supervised : s.supervise t label = some s') :
    s.world.Step t label s'.world ∧ s'.accepted = s.accepted := by
  obtain ⟨w, stepped, rfl⟩ := map_eq_some_iff.mp supervised
  exact ⟨stepped, rfl⟩

/-- A step of the service accepts a control, leaves the supervisor alone, or is a step of the
supervisor. -/
theorem Service.Step.cases {label : ServiceLabel} (step : s.Step t distribution label s') :
    s'.world = s.world ∧ (s'.accepted = s.accepted ∨ s.accepted = none ∧ s'.accepted = some s.world.starts) ∨
    s'.accepted = s.accepted ∧ ∃ l, s.world.Step t l s'.world ∧
      (s.calm label = true → s.accepted ≠ none → s.world.calm l = true) := by
  unfold Service.Step at step
  cases label with
  | control =>
    cases step
    obtain ⟨world, accepted⟩ := Service.run_world
      { s with accepted := s.accepted <|> some s.world.starts } .scm
    refine .inl ⟨world, ?_⟩
    rw [accepted]
    cases s.accepted with
    | none => exact .inr ⟨rfl, rfl⟩
    | some => exact .inl rfl
  | recover =>
    simp only [Service.act] at step
    split at step <;> cases step
    exact .inl ⟨(Service.run_world s .recovery).1, .inl (Service.run_world s .recovery).2⟩
  | answer =>
    obtain ⟨txn, -, later⟩ := bind_eq_some_iff.mp step
    obtain ⟨txn', -, rfl⟩ := map_eq_some_iff.mp later
    exact .inl ⟨rfl, .inl rfl⟩
  | finish =>
    obtain ⟨txn, -, later⟩ := bind_eq_some_iff.mp step
    obtain ⟨-, rfl⟩ := of_guard later
    exact .inl ⟨rfl, .inl rfl⟩
  | recovered =>
    simp only [Service.act] at step
    split at step
    · rename_i out returned
      obtain ⟨stepped, accepted⟩ := Service.supervise_world step
      refine .inr ⟨accepted, _, stepped, fun calm stopping => ?_⟩
      simpa [returned, stopping] using calm
    · cases step
  | supervise =>
    simp only [Service.act] at step
    split at step <;> try cases step
    obtain ⟨stepped, accepted⟩ := Service.supervise_world step
    refine .inr ⟨accepted, _, stepped, fun calm stopping => ?_⟩
    simpa [stopping] using calm

/-- Where, once a stop was accepted, the supervisor is closed, finds no server absent, or has failed
or stopped and is not started again, no server is started after that. -/
theorem no_start_after_stop {labels : List ServiceLabel} {n : Nat}
    (run : Run (fun s label s' => s.Step t distribution label s' ∧ s.calm label = true)
      {} labels s) (accepted : s.accepted = some n) : s.world.starts = n := by
  have inv := run.invariant
    (fun s => s.world.sup.healthInFlight = false ∧ ∀ n, s.accepted = some n → s.world.starts = n)
    ⟨rfl, nofun⟩ fun s label s' inv step => ?_
  · exact inv.2 n accepted
  obtain ⟨idle, kept⟩ := inv
  rcases step.1.cases with ⟨world, same | ⟨-, first⟩⟩ | ⟨same, l, stepped, calm⟩
  · rw [world, same]
    exact ⟨idle, kept⟩
  · rw [world]
    refine ⟨idle, fun n accepted => ?_⟩
    rw [first] at accepted
    exact some.inj accepted
  refine ⟨stepped.idle idle, fun n accepted => ?_⟩
  rw [same] at accepted
  rw [stepped.starts_of_calm idle (calm step.2 (by simp [accepted]))]
  exact kept n accepted

/-- The supervisor is closed, and then the service is stopped. -/
def closedStop : List ServiceLabel :=
  [.supervise (.start { probe := .matchedRunning "tok", health := ⟨true, healthStatusOK⟩ }),
    .supervise .close, .control, .answer (.session ⟨"", none⟩), .answer (.stopped .signaled ""),
    .supervise .onResume, .answer (.waited true), .answer (.probed .absent), .finish]

/-- The theorem at a run in which the supervisor is closed before the stop. -/
theorem no_start_after_stop_closed : ∃ s,
    Run (fun s label s' => Service.Step {} "Ubuntu" s label s' ∧ s.calm label = true) {} closedStop s ∧
    s.last.completed = true ∧ s.accepted = some 0 ∧ s.world.starts = 0 := by
  have facts : ((replay (guarded (Service.act {} "Ubuntu") fun s label => s.calm label = true) {}
      closedStop).map fun s => (s.last.completed, s.accepted)) = some (true, some 0) := by
    decide +kernel
  obtain ⟨s, replayed, found⟩ := map_eq_some_iff.mp facts
  obtain ⟨completed, accepted⟩ := Prod.mk.inj found
  have run := guarded_run replayed
  exact ⟨s, run, completed, accepted, no_start_after_stop run accepted⟩

/-- An adopted server is stopped when it has been unhealthy twice; a third bad result restarts it,
and the recovery stop returns the outcome so far of the stop in flight. -/
def respawning : List ServiceLabel :=
  let sick : List ServiceLabel := [.supervise .fire, .supervise (.callback 0 {} {})]
  [.supervise (.start { probe := .matchedRunning "tok", health := ⟨true, healthStatusOK⟩ })] ++ sick ++ sick ++
    [.control, .answer (.session ⟨"", none⟩), .answer (.stopped .signaled "")] ++ sick ++
    [.recover, .recovered { probe := .absent }, .answer (.waited false),
      .answer (.probed (.matchedRunning "new")), .answer (.terminated none), .answer (.probed .absent)]

/-- The supervisor starts a new server during the stop, and the coordinator, which finds it running,
terminates the distribution. -/
theorem stopped_service_respawns : ∃ s, Run (Service.Step {} "Ubuntu") {} respawning s ∧
    s.accepted = some 0 ∧ s.world.starts = 1 ∧ s.last.distroTerminated = true := by
  have facts : ((replay (Service.act {} "Ubuntu") {} respawning).map fun s =>
      (s.accepted, s.world.starts, s.last.distroTerminated)) = some (some 0, 1, true) := by
    decide +kernel
  obtain ⟨s, replayed, found⟩ := map_eq_some_iff.mp facts
  obtain ⟨accepted, starts, terminated⟩ : s.accepted = some 0 ∧ s.world.starts = 1 ∧
      s.last.distroTerminated = true := by simpa using found
  exact ⟨s, replay_run replayed, accepted, starts, terminated⟩

end AgentGrid.Wslhost
