import AgentGrid.Wslhost.Moves

/-!
# The stop coordinator and the authority to stop

A stop is a transaction: the coordinator reads the ownership token and the unit of the session,
asks the host to stop the server under that token, waits for its exit, and escalates without one.
Without a token nothing is sent.  The supervisor learns the token when it adopts a server; one it
spawned has none until it is probed again.
-/

namespace AgentGrid.Wslhost

open AgentGrid.Lib

/-! ## The transaction -/

inductive StopPath where
  | scm | recovery
  deriving DecidableEq

inductive StopCheckpoint where
  | accepted | duplicateIgnored | tokenMissing | stopRejected | sigtermDelivered | gracefulWaiting
  | gracefulExited | budgetExpired | childKill | childWait | evidenceProbe | terminateDistro
  | absenceConfirmed | completed | terminateFailed | evidenceCleared
  deriving DecidableEq

inductive StopClass where
  | none | signaled | rejected | absent | unknown
  deriving DecidableEq

structure StopSession where
  ownershipToken : String
  unit : Option Nat
  deriving DecidableEq

structure StopOutcome where
  path : StopPath
  (completed rejected duplicate : Bool := false)
  stopClass : StopClass := .none
  (reason escalation terminateTarget : String := "")
  checkpoints : List StopCheckpoint := []
  (sigtermIssued childKilled distroTerminated : Bool := false)
  deriving DecidableEq

@[simp] def StopOutcome.mark (out : StopOutcome) (checkpoint : StopCheckpoint) : StopOutcome :=
  { out with checkpoints := out.checkpoints ++ [checkpoint] }

/-- Where a transaction stands: the next thing it does outside. -/
inductive Stage where
  | readSession | hostStop (session : StopSession) | wait (session : StopSession) | kill | evidence
  | terminate | confirm (graceful : Bool) | finished
  deriving DecidableEq

inductive StopAnswer where
  | session (session : StopSession) | stopped (stopClass : StopClass) (reason : String)
  | stopError (error : String) | waited (exited : Bool) | killed (error : Option String)
  | probed (answer : ProbeAnswer) | terminated (error : Option String)
  deriving DecidableEq

structure Transaction where
  stage : Stage
  out : StopOutcome
  deriving DecidableEq

def buildTerminateArgv (distribution : String) : List String :=
  ["wsl.exe", "--terminate", distribution]

def argvContainsShutdown (argv : List String) : Bool := argv.any (· == "--shutdown")

namespace Transaction

def start (path : StopPath) : Transaction :=
  ⟨.readSession, ({ path := path } : StopOutcome).mark .accepted⟩

def refuse (out : StopOutcome) (stopClass : StopClass) (reason : String)
    (checkpoint : StopCheckpoint) : Transaction :=
  ⟨.finished, (({ out with rejected := true, reason := reason, stopClass := stopClass } :
    StopOutcome).mark checkpoint).mark .completed⟩

def terminateBound (distribution : String) (out : StopOutcome) : Transaction :=
  if argvContainsShutdown (buildTerminateArgv distribution) then
    ⟨.confirm false, ({ out with rejected := true, reason := "shutdown_forbidden" } :
      StopOutcome).mark .terminateFailed⟩
  else ⟨.terminate, out.mark .terminateDistro⟩

def scmEscalate (out : StopOutcome) (unit : Option Nat) : Transaction :=
  if unit.isSome then ⟨.kill, out.mark .childKill⟩ else ⟨.evidence, out.mark .evidenceProbe⟩

/-- `runTransaction`, up to its next question. -/
def advance (distribution : String) (txn : Transaction) : StopAnswer → Option Transaction
  | .session session =>
    match txn.stage with
    | .readSession =>
      if session.ownershipToken = "" then some (refuse txn.out .rejected "missing_ownership_token" .tokenMissing)
      else some ⟨.hostStop session, txn.out⟩
    | _ => none
  | .stopError error =>
    match txn.stage with
    | .hostStop _ => some (refuse txn.out .unknown ("stop_error: " ++ error) .stopRejected)
    | _ => none
  | .stopped stopClass reason =>
    match txn.stage with
    | .hostStop session =>
      let out := { txn.out with stopClass := stopClass, reason := reason }
      match stopClass with
      | .rejected | .unknown => some (refuse txn.out stopClass reason .stopRejected)
      | .absent => some ⟨.confirm true, (out.mark .sigtermDelivered).mark .gracefulExited⟩
      | .signaled | .none =>
        some ⟨.wait session,
          (({ out with sigtermIssued := true } : StopOutcome).mark .sigtermDelivered).mark .gracefulWaiting⟩
    | _ => none
  | .waited exited =>
    match txn.stage with
    | .wait session =>
      if exited then some ⟨.confirm true, txn.out.mark .gracefulExited⟩
      else
        match txn.out.path with
        | .scm => some (scmEscalate (txn.out.mark .budgetExpired) session.unit)
        | .recovery => some (terminateBound distribution (txn.out.mark .budgetExpired))
    | _ => none
  | .killed error =>
    match txn.stage with
    | .kill =>
      let out := { txn.out with
        reason := error.elim txn.out.reason ("child_kill: " ++ ·), childKilled := true, escalation := "child_kill" }
      some ⟨.evidence, (out.mark .childWait).mark .evidenceProbe⟩
    | _ => none
  | .probed answer =>
    match txn.stage with
    | .evidence =>
      match answer with
      | .matchedRunning _ => some (terminateBound distribution txn.out)
      | _ => some ⟨.confirm false, txn.out.mark .evidenceCleared⟩
    | .confirm graceful =>
      let out := if answer = .absent then txn.out.mark .absenceConfirmed else txn.out
      some ⟨.finished, ({ out with completed := graceful || !out.rejected } : StopOutcome).mark .completed⟩
    | _ => none
  | .terminated error =>
    match txn.stage with
    | .terminate =>
      match error with
      | some error =>
        some ⟨.confirm false, ({ txn.out with rejected := true, reason := "terminate: " ++ error } :
          StopOutcome).mark .terminateFailed⟩
      | none =>
        some ⟨.confirm false, { txn.out with
          distroTerminated := true, terminateTarget := distribution, escalation := "terminate_distro" }⟩
    | _ => none

end Transaction

/-- The default session source of the coordinator. -/
def Supervisor.stopSession (s : Supervisor) : StopSession := ⟨s.ownershipToken, s.unit⟩

/-! ## The authority over a ready server -/

variable {t : Thresholds} {a : Answers} {s s' : Supervisor} {res : HealthResult} {w w' : World}
  {label : Label}

/-- Every matching server that a probe finds has a token. -/
def Answers.tokened (a : Answers) : Bool := decide (a.probe ≠ .matchedRunning "")

def Label.answers : Label → Option Answers
  | .start a | .onChildExit _ a | .deliverHealth _ _ a | .callback _ _ a | .onRecoveryStop _ a => some a
  | .setRecoveryStop _ | .close | .onResume | .exit _ | .fire => none

/-- The health result a label carries, outside of a probe cycle. -/
def Label.result : Label → Option HealthResult
  | .deliverHealth res _ _ | .callback _ res _ => some res
  | _ => none

/-- No good health result is taken from a server that the supervisor spawned: a cycle that spawns
finds it not yet healthy, and later results are good only once the server is adopted. -/
def World.vouched (w : World) (label : Label) : Bool :=
  (label.answers.all fun a => !(decide (a.probe = .absent) && a.health.good)) &&
    label.result.all fun res => !res.good || w.sup.adopted

/-- An adopted server has a token, and a ready one is adopted. -/
structure Supervisor.Authorised (s : Supervisor) : Prop where
  token : s.adopted = true → s.ownershipToken ≠ ""
  ready : s.phase = .ready → s.adopted = true

theorem Supervisor.GaveUp.notReady (gaveUp : s.GaveUp) : s.phase ≠ .ready := by
  rcases gaveUp with failed | ⟨backoff, -⟩
  · simp [failed]
  · simp [backoff]

theorem Supervisor.Judged.notReady {phase : Phase} (judged : s.Judged res phase)
    (bad : res.good = false) (early : phase ≠ .ready) : s.phase ≠ .ready := by
  rcases judged with gaveUp | ⟨-, good, -⟩ | ⟨same, -⟩
  · exact gaveUp.notReady
  · cases bad.symm.trans good
  · rwa [same]

theorem Cycled.authorised (cycle : Cycled a s s')
    (token : s.adopted = true → s.ownershipToken ≠ "") (tokened : a.tokened = true)
    (vouched : a.probe = .absent → a.health.good = false) : s'.Authorised := by
  cases cycle with
  | idle _ _ custody phase => exact ⟨by rwa [custody], fun ready => by simp [phase] at ready⟩
  | gaveUp custody outcome | unstarted _ _ custody outcome =>
    exact ⟨by rwa [custody], fun ready => absurd ready outcome.notReady⟩
  | adopted found matched custody =>
    refine ⟨fun _ => ?_, fun _ => by rw [custody]⟩
    rw [custody]
    rintro rfl
    simp [Answers.tokened, matched] at tokened
  | spawned _ absent custody outcome =>
    refine ⟨by rw [custody]; exact nofun, fun ready => ?_⟩
    exact absurd ready (outcome.notReady (vouched absent) nofun)

theorem Taken.authorised (taken : Taken t a res s s') (authorised : s.Authorised)
    (tokened : a.tokened = true) (vouched : a.probe = .absent → a.health.good = false)
    (adopted : res.good = true → s.adopted = true) : s'.Authorised := by
  cases taken with
  | good good custody => exact ⟨by rw [custody]; exact authorised.token, fun _ => by
      rw [custody]; exact adopted good⟩
  | gaveUp _ custody outcome =>
    exact ⟨by rw [custody]; exact authorised.token, fun ready => absurd ready outcome.notReady⟩
  | waits _ custody phase =>
    constructor
    · rw [custody]
      exact authorised.token
    · rw [custody, phase]
      exact authorised.ready
  | ignored _ same => rwa [same]
  | recovering _ _ custody phase | stopping _ _ _ _ _ _ _ custody phase =>
    exact ⟨by rw [custody]; exact authorised.token, fun ready => by simp [phase] at ready⟩
  | cycled _ _ _ _ _ _ custody cycle =>
    exact cycle.authorised (by rw [custody]; exact authorised.token) tokened vouched

theorem World.Step.authorised (idle : w.sup.healthInFlight = false) (authorised : w.sup.Authorised)
    (tokened : label.answers.all Answers.tokened = true) (vouched : w.vouched label = true)
    (step : w.Step t label w') : w'.sup.Authorised := by
  simp only [World.vouched, Bool.and_eq_true] at vouched
  obtain ⟨fresh, known⟩ := vouched
  have unspawned : ∀ a, label.answers = some a → a.probe = .absent → a.health.good = false := by
    intro a carried absent
    simpa [carried, absent] using fresh
  have tokens : ∀ a, label.answers = some a → a.tokened = true := by
    intro a carried
    simpa [carried] using tokened
  have adopted : ∀ res, label.result = some res → res.good = true → w.sup.adopted = true := by
    intro res carried good
    simpa [carried, good] using known
  cases step.move idle with
  | wire | close | exit | fire | startIgnored | resumeIgnored | skipped | healthIgnored
  | recoveryIgnored => exact ⟨authorised.token, authorised.ready⟩
  | started _ _ _ _ custody cycle | retried _ _ _ _ _ _ _ _ _ _ _ custody cycle
  | rechecked _ _ _ _ _ _ _ _ _ _ _ custody cycle =>
    exact cycle.authorised (by rw [custody]; exact authorised.token) (tokens _ rfl) (unspawned _ rfl)
  | exitCycled _ _ _ _ _ _ _ _ _ custody cycle | recovered _ _ _ _ _ _ custody cycle =>
    exact cycle.authorised (by rw [custody]; exact nofun) (tokens _ rfl) (unspawned _ rfl)
  | resumed _ _ custody phase | exitIgnored _ _ _ _ _ _ custody phase =>
    refine ⟨by simp only [custody]; exact authorised.token, ?_⟩
    simp only [custody, phase]
    exact authorised.ready
  | asked _ _ _ _ _ _ _ _ _ taken | healthTaken _ _ _ _ taken =>
    exact taken.authorised authorised (tokens _ rfl) (unspawned _ rfl) (adopted _ rfl)
  | exitNoted _ _ _ _ _ _ _ quiet custody phase =>
    refine ⟨by simp only [custody]; exact nofun, fun ready => ?_⟩
    rw [phase] at ready
    rcases quiet with ended | ended | ⟨ended, -⟩
    all_goals simp [ended] at ready
  | exitFailed _ _ _ _ _ _ _ custody outcome =>
    exact ⟨by simp only [custody]; exact nofun, fun ready => absurd ready outcome.notReady⟩
  | recoveryFailed _ _ _ _ custody outcome =>
    exact ⟨by simp only [custody]; exact authorised.token, fun ready => absurd ready outcome.notReady⟩

/-- Where matching servers have tokens and a spawned server becomes ready only after it was adopted,
a ready supervisor holds a token, and a stop is not rejected for want of one. -/
theorem ready_holds_token {labels : List Label} (run : Run (fun w label w' => w.Step t label w' ∧
      label.answers.all Answers.tokened = true ∧ w.vouched label = true) {} labels w)
    (ready : w.sup.phase = .ready) : w.sup.ownershipToken ≠ "" ∧ ∀ distribution path,
      (Transaction.start path).advance distribution (.session w.sup.stopSession) =
        some ⟨.hostStop w.sup.stopSession, (Transaction.start path).out⟩ := by
  have inv := run.invariant (fun w => w.sup.healthInFlight = false ∧ w.sup.Authorised)
    ⟨rfl, nofun, nofun⟩ fun w label w' inv step =>
      ⟨step.1.idle inv.1, step.1.authorised inv.1 inv.2 step.2.1 step.2.2⟩
  have token := inv.2.token (inv.2.ready ready)
  exact ⟨token, fun distribution path => if_neg token⟩

def adoption : List Label :=
  [.start { probe := .matchedRunning "tok", health := ⟨true, healthStatusOK⟩ }]

/-- The theorem at a run that adopts a server. -/
theorem ready_holds_token_adoption : ∃ w, Run (fun w label w' => World.Step {} w label w' ∧
      label.answers.all Answers.tokened = true ∧ w.vouched label = true) {} adoption w ∧
    w.sup.phase = .ready ∧ w.sup.ownershipToken ≠ "" := by
  have facts : ((replay (guarded (World.act {}) fun w label =>
      label.answers.all Answers.tokened = true ∧ w.vouched label = true) {} adoption).map
        (·.sup.phase)) = some .ready := by
    decide +kernel
  obtain ⟨w, replayed, ready⟩ := Option.map_eq_some_iff.mp facts
  have run := guarded_run replayed
  exact ⟨w, run, ready, (ready_holds_token run ready).1⟩

/-- No server is found; the one that is spawned is healthy at once. -/
def spawning : List Label :=
  [.start { probe := .absent, health := ⟨true, healthStatusOK⟩ }]

/-- A spawned server is ready without a token, and the stop of it is rejected. -/
theorem spawned_server_unstoppable : ∃ w, Run (World.Step {}) {} spawning w ∧
    w.sup.phase = .ready ∧ w.sup.ownershipToken = "" ∧
    (Transaction.start .scm).advance "Ubuntu" (.session w.sup.stopSession) =
      some ⟨.finished, { path := .scm, rejected := true, stopClass := .rejected
                         reason := "missing_ownership_token"
                         checkpoints := [.accepted, .tokenMissing, .completed] }⟩ := by
  have facts : ((replay (World.act {}) {} spawning).map fun w =>
      (w.sup.phase, w.sup.stopSession)) = some (.ready, ⟨"", some 0⟩) := by
    decide +kernel
  obtain ⟨w, replayed, found⟩ := Option.map_eq_some_iff.mp facts
  obtain ⟨ready, session⟩ := Prod.mk.inj found
  refine ⟨w, replay_run replayed, ready, congrArg StopSession.ownershipToken session, ?_⟩
  rw [session]
  rfl

end AgentGrid.Wslhost
