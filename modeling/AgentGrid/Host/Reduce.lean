import AgentGrid.Host.Clients
import AgentGrid.Host.Frames
import AgentGrid.Host.Repository
import AgentGrid.Lib.Run

/-!
# The reducer

`reduce` dispatches an event by the phase of the daemon: while it is running to
the reducer of the event's domain, while it is quiescing through the admission
table, which keeps the shutdown results and the read-only commands and neutralises
the rest.
-/

namespace AgentGrid.Host

open AgentGrid.Lib

variable {D : Type}

/-! ## Shutdown -/

variable (env : Env D) (connID : ConnID) (d : Draw) (cfg : Config) (s : State D) (reqID : String)

def reduceShutdown (connID : ConnID) (reqID : String) : Reduced D :=
  let waiter : List ShutdownWaiter := if connID ≠ 0 then [⟨connID, reqID⟩] else []
  match s.lifecycle with
  | .quiescing => ({ s with shutdown := s.shutdown.map fun tx => { tx with waiters := tx.waiters ++ waiter } }, [])
  | .running =>
    let id := s.nextShutdownID + 1
    ({ s with lifecycle := .quiescing, shutdown := some ⟨id, waiter⟩, nextShutdownID := id },
      [.commitShutdownSessions id])

/-- The current transaction, if it is the one with the id; `currentShutdown` and the access to
`s.Shutdown` that follows it. -/
def currentShutdown (id : Nat) : Option ShutdownTransaction :=
  if s.lifecycle = .quiescing then s.shutdown.filter fun tx => tx.id == id else none

def reduceShutdownSaveSucceeded (transactionID : Nat) : Reduced D :=
  match currentShutdown s transactionID with
  | none => (s, [])
  | some _ => (s, [.releaseFrames transactionID])

def reduceShutdownSaveFailed (transactionID : Nat) (err : String) : Reduced D :=
  match currentShutdown s transactionID with
  | none => (s, [])
  | some tx =>
    ({ s with lifecycle := .running, shutdown := none }, (tx.waiters.map fun waiter =>
        errResp waiter.connID waiter.reqID errCodeInternal ("shutdown persistence failed: " ++ err)) ++
        [.completeShutdown .commitFailed])

def reduceShutdownCleanupFinished (transactionID : Nat) (outcome : ShutdownCleanupOutcome) : Reduced D :=
  match currentShutdown s transactionID with
  | none => (s, [])
  | some tx =>
    let result : ShutdownResult := match outcome with
      | .completed => .committed
      | .deadlineExceeded => .deadlineExceeded
    ({ s with shutdown := none }, (tx.waiters.map fun waiter =>
        match outcome with
        | .deadlineExceeded =>
          errResp waiter.connID waiter.reqID errCodeUnavailable "shutdown cleanup deadline exceeded"
        | .completed => .sendResponseSync waiter.connID waiter.reqID .empty) ++
        [.completeShutdown result, .terminateRuntime])

/-! ## Command events -/

/-- The wrapper `RegisterEvent` puts around a handler: a payload that does not decode is refused. -/
def decoded {α : Type} (s : State D) (connID : ConnID) (reqID : String) (payload : Payload α)
    (handler : α → Reduced D) : Go (Reduced D) :=
  match payload with
  | .error err => .ok (s, [errResp connID reqID errCodeInvalidArgument ("invalid payload: " ++ err)])
  | .ok p => .ok (handler p)

/-- `reduceEvent`: an unregistered name looks up a nil handler. -/
def reduceEvent (connID : ConnID) (reqID : String) : CommandEvent → Go (Reduced D)
  | .createSession p => decoded s connID reqID p (reduceCreateSession env d s connID reqID)
  | .stopSession p => decoded s connID reqID p (reduceStopSession s connID reqID)
  | .listSessions p => decoded s connID reqID p fun _ => reduceListSessions s connID reqID
  | .shutdown p => decoded s connID reqID p fun _ => reduceShutdown s connID reqID
  | .pushDriver p => decoded s connID reqID p (reducePushDriver env d s connID reqID)
  | .forkSession p => decoded s connID reqID p (reduceForkSession env d s connID reqID)
  | .setHeadFrame p => decoded s connID reqID p fun target => reduceSetHeadFrame s connID reqID target.1 target.2
  | .listSessionMessages p => decoded s connID reqID p (reduceListSessionMessages s connID reqID)
  | .readSessionMessages p => decoded s connID reqID p (reduceReadSessionMessages s connID reqID)
  | .createRepositorySession p => decoded s connID reqID p (reduceRepositoryCreateEvent d s connID reqID)
  | .getRepositoryPreparation p => decoded s connID reqID p (reduceRepositoryPreparationEvent s connID reqID)
  | .listResumeCapsules p => decoded s connID reqID p fun _ => reduceListResumeCapsules s connID reqID
  | .flagResumeCapsule p =>
    decoded s connID reqID p fun target => reduceFlagResumeCapsule s connID reqID target.1 target.2
  | .unregistered _ => .error .nilFunctionCall

/-! ## Dispatch -/

def unavailable : Effect D :=
  errResp connID reqID errCodeUnavailable "runtime is shutting down"

/-- `unavailable` to a client that waits; connection zero is the daemon itself. -/
def unavailableTo : List (Effect D) :=
  if connID ≠ 0 then [unavailable connID reqID] else []

/-- The command events the quiescing daemon still serves. -/
def CommandEvent.servedQuiescing : CommandEvent → Bool
  | .shutdown _ | .listSessions _ | .listSessionMessages _ => true
  | _ => false

def reduceQuiescing : Event D → Go (Reduced D)
  | .shutdownSaveBarrierSucceeded id => .ok (reduceShutdownSaveSucceeded s id)
  | .shutdownSaveBarrierFailed id err => .ok (reduceShutdownSaveFailed s id err)
  | .shutdownCleanupFinished id outcome => .ok (reduceShutdownCleanupFinished s id outcome)
  | .connOpened connID => .ok (reduceConnOpened s connID)
  | .connClosed connID => .ok (reduceConnClosed d s connID)
  | .driverList connID reqID => .ok (reduceDriverList s connID reqID)
  | .surfaceReadText connID reqID sid lines => .ok (reduceSurfaceReadText s connID reqID sid lines)
  | .subscribe connID reqID filters => .ok (reduceSubscribe s connID reqID filters)
  | .unsubscribe connID reqID => .ok (reduceUnsubscribe s connID reqID)
  | .surfaceUnsubscribe e => .ok (reduceSurfaceUnsubscribe s e)
  | .event connID reqID call =>
    if call.servedQuiescing then reduceEvent env d s connID reqID call
    else .ok (s, [unavailable connID reqID])
  | .surfaceSubscribe e => .ok (s, [unavailable e.connID e.reqID])
  | .surfaceSendText connID reqID _ _ => .ok (s, [unavailable connID reqID])
  | .surfaceSendKey connID reqID _ _ => .ok (s, [unavailable connID reqID])
  | .surfaceResize connID reqID _ _ _ => .ok (s, [unavailable connID reqID])
  | .surfaceWriteRaw connID reqID _ _ => .ok (s, [unavailable connID reqID])
  | .approvalRespond e => .ok (s, [unavailable e.connID e.reqID])
  | .approvalCancel e => .ok (s, [unavailable e.connID e.reqID])
  | .questionRespond e => .ok (s, [unavailable e.connID e.reqID])
  | .questionCancel e => .ok (s, [unavailable e.connID e.reqID])
  | .driverEvent e => .ok (s, unavailableTo e.connID e.reqID)
  | .subsystem e => .ok (s, unavailableTo e.connID e.reqID)
  | .frameSpawned _ => .ok (s, [])
  | .spawnFailed _ => .ok (s, [])
  | .frameVanished _ => .ok (s, [])
  | .frameCommandExited _ _ => .ok (s, [])
  | .tick _ _ => .ok (s, [])
  | .jobResult _ _ _ => .ok (s, [])
  | .fileChanged _ _ => .ok (s, [])
  | .frameOsc _ => .ok (s, [])
  | .framePrompt _ => .ok (s, [])
  | .repository _ => .error (.explicit "state.reduceQuiescing: unclassified event type state.EvRepository")

def reduceRunning : Event D → Go (Reduced D)
  | .event connID reqID call => reduceEvent env d s connID reqID call
  | .driverEvent e => reduceDriverHook env d s e
  | .subsystem e => reduceSubsystem env d s e
  | .frameSpawned e => reduceFrameSpawned env d s e
  | .spawnFailed e => reduceSpawnFailed d s e
  | .frameVanished frameID => reduceFrameVanished d s frameID
  | .frameCommandExited frameID exitCode => reduceFrameCommandExited env d s frameID exitCode
  | .tick now n => reduceTick env d s now n
  | .jobResult jobID result err => reduceJobResult env d s jobID result err
  | .fileChanged frameID path => reduceFileChanged env d s frameID path
  | .frameOsc e => reduceFrameOsc env d s e
  | .framePrompt e => reduceFramePrompt env d s e
  | .shutdownSaveBarrierSucceeded id => .ok (reduceShutdownSaveSucceeded s id)
  | .shutdownSaveBarrierFailed id err => .ok (reduceShutdownSaveFailed s id err)
  | .shutdownCleanupFinished id outcome => .ok (reduceShutdownCleanupFinished s id outcome)
  | .connOpened connID => .ok (reduceConnOpened s connID)
  | .connClosed connID => .ok (reduceConnClosed d s connID)
  | .subscribe connID reqID filters => .ok (reduceSubscribe s connID reqID filters)
  | .unsubscribe connID reqID => .ok (reduceUnsubscribe s connID reqID)
  | .surfaceReadText connID reqID sid lines => .ok (reduceSurfaceReadText s connID reqID sid lines)
  | .surfaceSendText connID reqID sid text => .ok (reduceSurfaceSendText s connID reqID sid text)
  | .surfaceSendKey connID reqID sid key => .ok (reduceSurfaceSendKey s connID reqID sid key)
  | .driverList connID reqID => .ok (reduceDriverList s connID reqID)
  | .surfaceSubscribe e => .ok (reduceSurfaceSubscribe s e)
  | .surfaceUnsubscribe e => .ok (reduceSurfaceUnsubscribe s e)
  | .surfaceResize connID reqID sid cols rows => .ok (reduceSurfaceResize s connID reqID sid cols rows)
  | .surfaceWriteRaw connID reqID sid data => .ok (reduceSurfaceWriteRaw s connID reqID sid data)
  | .approvalRespond e => .ok (reduceApprovalRespond d s e)
  | .approvalCancel e => .ok (reduceApprovalCancel d s e)
  | .questionRespond e => .ok (reduceQuestionRespond d s e)
  | .questionCancel e => .ok (reduceQuestionCancel d s e)
  | .repository e => .ok (reduceRepository d s e)

def reduce (ev : Event D) : Go (Reduced D) :=
  match s.lifecycle with
  | .quiescing => reduceQuiescing env d s ev
  | .running => reduceRunning env d s ev

/-! ## Runs -/

/-- One step of the daemon: an event, and the effects the reducer returns for it. -/
def Step (label : Event D × List (Effect D)) (s' : State D) : Prop :=
  ∃ d : Draw, d.Fresh s ∧ reduce env d s label.1 = .ok (s', label.2)

/-- A run of the daemon from its start, with the events and effects in their order. -/
abbrev HostRun (labels : List (Event D × List (Effect D))) (s : State D) : Prop :=
  Run (Step env) (State.new cfg) labels s

def Reachable : Prop := ∃ cfg labels, HostRun env cfg labels s

/-- Let the daemon take an event; the draw repeats the character. -/
def advance (input : Char × Event D) : Option (Reduced D) :=
  if s.avoids input.1 then (reduce env (Draw.tagged input.1) s input.2).toOption else none

theorem advance_step {env : Env D} {s s' : State D} {input : Char × Event D}
    {effs : List (Effect D)} (advanced : advance env s input = some (s', effs)) : Step env s (input.2, effs) s' := by
  unfold advance at advanced
  by_cases unused : s.avoids input.1
  · rw [if_pos unused] at advanced
    refine ⟨Draw.tagged input.1, Draw.tagged_fresh unused, ?_⟩
    cases reduced : reduce env (Draw.tagged input.1) s input.2 with
    | error =>
      rw [reduced] at advanced
      cases advanced
    | ok =>
      rw [reduced] at advanced
      cases advanced
      rfl
  · rw [if_neg unused] at advanced
    cases advanced

def replay : State D → List (Char × Event D) → Option (State D × List (Event D × List (Effect D))) :=
  drive fun s input => (advance env s input).map fun r => (r.1, input.2, r.2)

theorem replay_run {env : Env D} {s s' : State D} {inputs : List (Char × Event D)}
    {labels : List (Event D × List (Effect D))}
    (replayed : replay env s inputs = some (s', labels)) : Run (Step env) s labels s' := by
  refine drive_run ?_ replayed
  intro s input s' label advanced
  obtain ⟨⟨next, effs⟩, reduced, same⟩ := Option.map_eq_some_iff.mp advanced
  cases same
  exact advance_step reduced

theorem replay_hostRun (evs : List (Char × Event D)) (replayed : (replay env (State.new cfg) evs).isSome = true) :
    HostRun env cfg ((replay env (State.new cfg) evs).get replayed).2
      ((replay env (State.new cfg) evs).get replayed).1 :=
  replay_run (Option.some_get replayed).symm

theorem replay_reachable (evs : List (Char × Event D)) (replayed : (replay env (State.new cfg) evs).isSome = true) :
    Reachable env ((replay env (State.new cfg) evs).get replayed).1 :=
  ⟨cfg, _, replay_hostRun env cfg evs replayed⟩

/-- The state after a client asked for one session; its id is `a` and that of its frame `aa`. -/
def State.oneSession : State Unit :=
  ((replay Env.inert (State.new {})
    [('a', .event 1 "q" (.createSession (.ok { project := "p", command := "x" })))]).get rfl).1

theorem State.oneSession_reachable : Reachable Env.inert State.oneSession :=
  replay_reachable Env.inert {} _ rfl

/-- A client asks for a session. -/
def Event.creates : Event Unit := .event 1 "q" (.createSession (.ok { project := "p", command := "x" }))

def Event.asksApproval (frameID : FrameID) (id : ApprovalID) : Event Unit :=
  .subsystem ⟨0, "", frameID, .stream, .approvalRequested, 0, { approval := some { id := id }, rest := () }⟩

def Event.asksQuestion (frameID : FrameID) (id : QuestionID) : Event Unit :=
  .subsystem ⟨0, "", frameID, .stream, .questionRequested, 0, { question := some { id := id }, rest := () }⟩

end AgentGrid.Host
