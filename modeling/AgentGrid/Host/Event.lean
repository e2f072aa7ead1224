import AgentGrid.Host.Driver

/-!
# Events

The closed set of inputs of the reducer.  A registered command event carries a
JSON payload that its handler decodes first; here the event carries the outcome
of that decoding, the decoded parameters or the text of the decoding error.
-/

namespace AgentGrid.Host

structure CreateSessionParams where
  (project command : String)
  options : LaunchOptions := {}

structure PushDriverParams where
  sessionID : String
  project : String := ""
  command : String
  options : LaunchOptions := {}
  input : List UInt8 := []

structure SessionMessagesParams where
  sessionID : String
  lastReadMessageID : String := ""

structure RepositoryCreateParams where
  intentID : CreationIntentID
  preparationID : PreparationID
  serverID : ExecutionServerID
  repository : GitHubRepositoryIdentity
  fingerprint : String := ""
  command : String

/-- The parameters decoded from a command event's payload, or the decoding error. -/
abbrev Payload (α : Type) := Except String α

/-- A command event by name, with its decoded payload; `unregistered` is any other name. -/
inductive CommandEvent where
  | createSession (payload : Payload CreateSessionParams) | stopSession (payload : Payload SessionID)
  | listSessions (payload : Payload Unit) | shutdown (payload : Payload Unit)
  | pushDriver (payload : Payload PushDriverParams) | forkSession (payload : Payload SessionID)
  | setHeadFrame (payload : Payload (SessionID × FrameID))
  | listSessionMessages (payload : Payload SessionMessagesParams)
  | readSessionMessages (payload : Payload SessionMessagesParams)
  | createRepositorySession (payload : Payload RepositoryCreateParams)
  | getRepositoryPreparation (payload : Payload PreparationID) | listResumeCapsules (payload : Payload Unit)
  | flagResumeCapsule (payload : Payload (SessionID × Bool))
  | unregistered (name : String)

/-- `IsRegisteredEvent`. -/
def CommandEvent.registered : CommandEvent → Bool
  | .unregistered _ => false
  | _ => true

structure EvDriverEvent where
  connID : ConnID
  (reqID event : String)
  timestamp : Time
  senderID : FrameID
  payload : String

structure EvSubsystem (D : Type) where
  connID : ConnID
  reqID : String
  frameID : FrameID
  source : SubsystemKind
  kind : SubsystemEventKind
  timestamp : Time
  payload : SubsystemPayload D

structure EvFrameSpawned where
  sessionID : SessionID
  frameID : FrameID
  subsystemID : SubsystemID
  (worktreeStartDir worktreeName : String)
  replyConn : ConnID
  replyReqID : String

structure EvSpawnFailed where
  sessionID : SessionID
  frameID : FrameID
  err : String
  replyConn : ConnID
  replyReqID : String

structure EvFrameOsc where
  frameID : FrameID
  cmd : Int
  kind : TerminalSignalKind
  (title body : String)
  (progressState progressValue : Int)
  now : Time

structure EvFramePrompt where
  frameID : FrameID
  phase : PromptPhase
  exitCode : Option Int
  now : Time

structure EvApprovalRespond where
  connID : ConnID
  reqID : String
  sessionID : SessionID
  approvalID : ApprovalID
  decision : ApprovalDecision
  clientInstanceID : String

structure EvApprovalCancel where
  connID : ConnID
  reqID : String
  sessionID : SessionID
  approvalID : ApprovalID
  clientInstanceID : String

structure EvQuestionRespond where
  connID : ConnID
  reqID : String
  sessionID : SessionID
  questionID : QuestionID
  (answer clientInstanceID : String)

structure EvQuestionCancel where
  connID : ConnID
  reqID : String
  sessionID : SessionID
  questionID : QuestionID
  clientInstanceID : String

structure EvSurfaceSubscribe where
  connID : ConnID
  reqID : String
  sessionID : SessionID
  subscriberID : SubscriberID
  (cols rows : UInt16)

structure EvSurfaceUnsubscribe where
  connID : ConnID
  reqID : String
  sessionID : SessionID
  subscriberID : SubscriberID

inductive RepositoryEventKind where
  | create | cloneStarted | cloneReady | failed | cancelled | interrupted | quarantined | retry
  | commitAvailable | abandon | unknown (kind : String)
  deriving DecidableEq

structure EvRepository where
  connID : ConnID := 0
  reqID : String := ""
  kind : RepositoryEventKind
  intentID : CreationIntentID := ""
  preparationID : PreparationID := ""
  serverID : ExecutionServerID := ""
  repository : GitHubRepositoryIdentity := ⟨"", "", ""⟩
  fingerprint : String := ""
  observedRevision : Nat := 0
  clonePath : ClonePathID := ""
  code : PreparationFailureCode := .none
  sessionID : SessionID := ""
  command : String := ""
  (cloneDurable launchSucceeded : Bool := false)

inductive ShutdownCleanupOutcome where
  | completed | deadlineExceeded
  deriving DecidableEq

inductive Event (D : Type) where
  | event (connID : ConnID) (reqID : String) (call : CommandEvent) | driverEvent (e : EvDriverEvent)
  | subsystem (e : EvSubsystem D) | frameSpawned (e : EvFrameSpawned) | spawnFailed (e : EvSpawnFailed)
  | frameVanished (frameID : FrameID) | frameCommandExited (frameID : FrameID) (exitCode : Int)
  | tick (now : Time) (n : UInt64) | jobResult (jobID : JobID) (result : JobResult D) (err : Option String)
  | fileChanged (frameID : FrameID) (path : String) | frameOsc (e : EvFrameOsc)
  | framePrompt (e : EvFramePrompt) | shutdownSaveBarrierSucceeded (transactionID : Nat)
  | shutdownSaveBarrierFailed (transactionID : Nat) (err : String)
  | shutdownCleanupFinished (transactionID : Nat) (outcome : ShutdownCleanupOutcome)
  | connOpened (connID : ConnID) | connClosed (connID : ConnID)
  | subscribe (connID : ConnID) (reqID : String) (filters : List String)
  | unsubscribe (connID : ConnID) (reqID : String)
  | surfaceReadText (connID : ConnID) (reqID : String) (sessionID : SessionID) (lines : Int)
  | surfaceSendText (connID : ConnID) (reqID : String) (sessionID : SessionID) (text : String)
  | surfaceSendKey (connID : ConnID) (reqID : String) (sessionID : SessionID) (key : String)
  | driverList (connID : ConnID) (reqID : String) | surfaceSubscribe (e : EvSurfaceSubscribe)
  | surfaceUnsubscribe (e : EvSurfaceUnsubscribe)
  | surfaceResize (connID : ConnID) (reqID : String) (sessionID : SessionID) (cols rows : UInt16)
  | surfaceWriteRaw (connID : ConnID) (reqID : String) (sessionID : SessionID) (data : List UInt8)
  | approvalRespond (e : EvApprovalRespond) | approvalCancel (e : EvApprovalCancel)
  | questionRespond (e : EvQuestionRespond) | questionCancel (e : EvQuestionCancel) | repository (e : EvRepository)

/-- The event names its command event, if it is one, in the registry of handlers. -/
def Event.Registered {D : Type} : Event D → Prop
  | .event _ _ call => call.registered = true
  | _ => True

/-- The event is a step of a repository preparation. -/
def Event.isRepository {D : Type} : Event D → Bool
  | .repository _ => true
  | _ => false

end AgentGrid.Host
