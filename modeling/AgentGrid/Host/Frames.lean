import AgentGrid.Host.Capsule
import AgentGrid.Host.Session

/-!
# Events of frames, drivers and workers

The reducers of everything that is not asked for by a client: driver hooks,
subsystem events, terminal signals, worker results, ticks and the death of a
frame.  Most of them run the driver of the addressed frame.
-/

namespace AgentGrid.Host

open AgentGrid.Lib

variable {D : Type}

variable (env : Env D) (d : Draw) (s : State D) (frameID : FrameID)

def incrementStatusSignal (sessID : SessionID) : State D :=
  { s with statusSignals := s.statusSignals.set sessID ((s.statusSignals.get? sessID).getD 0 + 1) }

/-- `okResp` to a client that waits; connection zero is the daemon itself. -/
def okRespTo (connID : ConnID) (reqID : String) : List (Effect D) :=
  if connID ≠ 0 then [okResp connID reqID .empty] else []

def reduceDriverHook (e : EvDriverEvent) : Go (Reduced D) :=
  if e.senderID = "" then
    .ok (s, [errResp e.connID e.reqID errCodeInvalidArgument ("driver event requires sender_id: " ++ e.event)])
  else if (findFrame d s e.senderID).isNone then .ok (s, [errResp e.connID e.reqID errCodeNotFound "unknown session"])
  else do
    match ← stepDriver env d s e.senderID (.hook e.event e.timestamp e.senderID e.payload) with
    | none => return (s, [errResp e.connID e.reqID errCodeInternal "no driver for session"])
    | some (next, rawEffs) =>
      let pushed := resolvePushDriverEffects env d 0 next rawEffs
      return (pushed.1, pushed.2 ++ [.persistSnapshot, .broadcastSessionsChanged] ++ okRespTo e.connID e.reqID)

/-- Record the target the subsystem reports for the frame. -/
def retarget (sessID : SessionID) (sess : Session D) (frameIdx : Nat) (targetID : TargetID) :
    Go (State D) := do
  let frame ← Go.index sess.frames frameIdx
  if targetID ≠ "" ∧ targetID ≠ frame.targetID then
    let frames ← Go.assign sess.frames frameIdx { frame with targetID := targetID }
    return { s with sessions := s.sessions.set sessID { sess with frames := frames } }
  else return s

/-- The kinds of subsystem events that raise a session's status signal. -/
def SubsystemEventKind.signals : SubsystemEventKind → Bool
  | .turnCompleted | .approvalRequested | .questionRequested => true
  | _ => false

/-- The bookkeeping of human-input requests that a subsystem event causes. -/
@[simp] def reduceHumanInput (e : EvSubsystem D) : Reduced D :=
  let approval := (maybeCreateApprovalFromSubsystem d s e).getD (s, [])
  let question := (maybeCreateQuestionFromSubsystem d approval.1 e).getD (approval.1, [])
  let resolved := (maybeResolveHumanInputFromSubsystem d question.1 e).getD (question.1, [])
  (resolved.1, approval.2 ++ question.2 ++ resolved.2)

def reduceSubsystem (e : EvSubsystem D) : Go (Reduced D) :=
  if e.frameID = "" then
    .ok (s, [errResp e.connID e.reqID errCodeInvalidArgument "subsystem event requires frame_id"])
  else
    match findFrame d s e.frameID with
    | none => .ok (s, [errResp e.connID e.reqID errCodeNotFound "unknown session"])
    | some (sessID, sess, frameIdx) => do
        let targeted ← retarget s sessID sess frameIdx e.payload.targetID
        match ← stepDriver env d targeted e.frameID (.subsystem e.source e.kind e.timestamp e.payload) with
        | none => return (targeted, [errResp e.connID e.reqID errCodeInternal "no driver for session"])
        | some (next, rawEffs) =>
          let pushed := resolvePushDriverEffects env d 0 next rawEffs
          let asked := reduceHumanInput d pushed.1 e
          let signalled := if e.kind.signals then incrementStatusSignal asked.1 sessID else asked.1
          return (signalled, pushed.2 ++ asked.2 ++ [.persistSnapshot, .broadcastSessionsChanged] ++
              okRespTo e.connID e.reqID)

/-! ## Workers and files -/

def reduceJobResult (jobID : JobID) (result : JobResult D) (err : Option String) : Go (Reduced D) :=
  match s.jobs.get? jobID with
  | none => .ok (s, [])
  | some jobMeta =>
    let cleared := { s with jobs := s.jobs.delete jobID }
    match result with
    | .capsule capResult => .ok (reduceCapsuleJobResult cleared jobMeta capResult err)
    | .driver _ => do
        match ← stepDriver env d cleared jobMeta.frameID (.jobResult result err cleared.now) with
        | none => return (cleared, [])
        | some (next, effs) => return (next, effs ++ [.persistSnapshot, .broadcastSessionsChanged])

def reduceFileChanged (path : String) : Go (Reduced D) :=
  if (findFrame d s frameID).isNone then .ok (s, [])
  else do
    match ← stepDriver env d s frameID (.fileChanged path) with
    | none => return (s, [])
    | some (next, effs) =>
      if effs.isEmpty then return (next, effs)
      else return (next, effs ++ [.persistSnapshot, .broadcastSessionsChanged])

/-! ## Terminal signals -/

def Effect.isPersistSnapshot : Effect D → Bool
  | .persistSnapshot => true
  | _ => false

def Effect.isBroadcastSessionsChanged : Effect D → Bool
  | .broadcastSessionsChanged => true
  | _ => false

def appendMissingSessionRefreshEffects (effs : List (Effect D)) : List (Effect D) :=
  effs ++ (if effs.any Effect.isPersistSnapshot then [] else [.persistSnapshot]) ++
    (if effs.any Effect.isBroadcastSessionsChanged then [] else [.broadcastSessionsChanged])

/-- The signal an OSC sequence without an explicit kind stands for. -/
def oscSignal (kind : TerminalSignalKind) (cmd : Int) : TerminalSignalKind :=
  if kind = .unknown then (if cmd = 0 ∨ cmd = 2 then .windowTitle else .notification) else kind

/-- Log a line for the frame, run its driver and refresh the session views. -/
def logAndStep (line : String) (ev : DriverEvent D) : Go (Reduced D) := do
  let stepped ← stepDriver env d s frameID ev
  let (next, effs) := stepped.getD (s, [])
  return (next, appendMissingSessionRefreshEffects (.eventLogAppend frameID line :: effs))

def reduceFrameOsc (e : EvFrameOsc) : Go (Reduced D) :=
  match oscSignal e.kind e.cmd with
  | .windowTitle =>
    if e.title = "" ∨ (findFrame d s e.frameID).isNone then .ok (s, [])
    else
      logAndStep env d s e.frameID ("[osc" ++ toString e.cmd ++ "] " ++ e.title)
        (.frameOsc e.cmd .windowTitle e.title "" 0 0 e.now)
  | .progress =>
    if (findFrame d s e.frameID).isNone then .ok (s, [])
    else
      logAndStep env d s e.frameID
        ("[osc9;4] state=" ++ toString e.progressState ++ " value=" ++ toString e.progressValue)
        (.frameOsc e.cmd .progress "" "" e.progressState e.progressValue e.now)
  | .bell =>
    match findFrame d s e.frameID with
    | none => .ok (s, [])
    | some (sessID, _, _) =>
      .ok (incrementStatusSignal s sessID,
        [.eventLogAppend e.frameID "[bell]", .persistSnapshot, .broadcastSessionsChanged])
  | _ =>
    if e.title = "" ∧ e.body = "" then .ok (s, [])
    else
      match findFrame d s e.frameID with
      | none => .ok (s, [])
      | some (sessID, _, _) =>
        .ok (incrementStatusSignal s sessID,
          [.recordNotification sessID e.frameID e.cmd e.title e.body, .persistSnapshot, .broadcastSessionsChanged])

def promptPhaseName : PromptPhase → String
  | .start => "start"
  | .input => "input"
  | .command => "command"
  | .complete => "complete"
  | .none => "none"

def promptEventLogLine (phase : PromptPhase) (exitCode : Option Int) : String :=
  match phase, exitCode with
  | .complete, some code => "[osc133] phase=" ++ promptPhaseName .complete ++ " exit=" ++ toString code
  | phase, _ => "[osc133] phase=" ++ promptPhaseName phase

def reduceFramePrompt (e : EvFramePrompt) : Go (Reduced D) :=
  let s := { s with now := e.now }
  if (findFrame d s e.frameID).isNone then .ok (s, [])
  else logAndStep env d s e.frameID (promptEventLogLine e.phase e.exitCode) (.framePrompt e.phase e.exitCode e.now)

/-! ## Ticks and the death of a frame -/

def reduceTick (now : Time) (n : UInt64) :
    Go (Reduced D) := do
  let scan ← stepActiveSessions env d { s with now := now } fun seq sess watched =>
    .tick now watched (((rootFrame sess).map SessionFrame.project).getD "") n seq
  let capsules := maybeEnqueueResumeCapsules env d scan.state n
  let approvalExpiry := expirePendingApprovals d capsules.1 now
  let questionExpiry := expirePendingQuestions d approvalExpiry.1 now
  let refresh := scan.changed || !approvalExpiry.2.isEmpty || !questionExpiry.2.isEmpty
  return (questionExpiry.1, scan.effects ++ (if n % 5 == 0 then [.reconcileWindows] else []) ++ capsules.2 ++
      approvalExpiry.2 ++ questionExpiry.2 ++ (if refresh then [.persistSnapshot, .broadcastSessionsChanged] else []))

def reduceFrameVanished :
    Go (Reduced D) := do
  let evicted ← evictFrame d s frameID false .retainEndedSession
  return evicted.getD (s, [])

def isIntentionalExit (code : Int) : Bool :=
  code == 0 || code == 129 || code == 130 || code == 137 || code == 143

/-- The driver already reports the frame's process as stopped. -/
def driverStopped (frame : SessionFrame D) : Bool :=
  match env.getDriver frame.command with
  | none => false
  | some drv => frame.driver.isSome && drv.status frame.driver == .stopped

def reduceFrameCommandExited (exitCode : Int) : Go (Reduced D) :=
  match findFrame d s frameID with
  | none => .ok (s, [])
  | some (_, sess, idx) =>
    if isIntentionalExit exitCode then do
      let evicted ← evictFrame d s frameID true .retainEndedSession
      return evicted.getD (s, [])
    else do
      let frame ← Go.index sess.frames idx
      if driverStopped env frame then return (s, [Effect.releaseFrame frameID])
      else
        let stepped ← stepDriver env d s frameID (.commandExited exitCode s.now)
        let (next, rawEffs) := stepped.getD (s, [])
        return (next, rawEffs ++ [Effect.releaseFrame frameID])

end AgentGrid.Host
