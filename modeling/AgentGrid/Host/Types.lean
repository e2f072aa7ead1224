import AgentGrid.Lib.Buckets

/-!
# Records of the host state

The identifiers, enumerations and records the reducer of the host daemon works
on.  `D` is the type of the values that only drivers look into: their private
states, their job inputs and results, and the parts of a payload or a launch
plan the reducer hands on without reading.
-/

namespace AgentGrid.Host

abbrev SessionID := String
abbrev FrameID := String
abbrev SubsystemID := String
abbrev TargetID := String
abbrev SubscriberID := String
abbrev ApprovalID := String
abbrev QuestionID := String
abbrev ConnID := Nat
abbrev JobID := Nat

/-- Nanoseconds since the zero instant of Go's `time.Time`. -/
abbrev Time := Int

def Time.isZero (t : Time) : Bool := t == 0

/-- A driver's private state; a nil interface value is `none`. -/
abbrev DriverState (D : Type) := Option D

inductive LifecyclePhase where
  | running | quiescing
  deriving DecidableEq

structure ShutdownWaiter where
  connID : ConnID
  reqID : String
  deriving DecidableEq

structure ShutdownTransaction where
  id : Nat
  waiters : List ShutdownWaiter
  deriving DecidableEq

structure LaunchOptions where
  worktreeEnabled : Bool := false
  initialInput : List UInt8 := []
  (cols rows : UInt16 := 0)
  deriving DecidableEq

/-- A resolved launch; `rest` is what only the runtime reads. -/
structure LaunchPlan (D : Type) where
  project : String
  options : LaunchOptions
  rest : D

/-- The process launch of a new session before the driver resolved its plan. -/
structure CreateLaunch where
  (command startDir : String)
  options : LaunchOptions

/-! ## Frame messaging and resume capsules -/

structure FrameReply where
  id : String
  sourceFrameID : FrameID
  (body finalAnswer : String)
  createdAt : Time
  (resolution confidence finalAnswerPreview : String)
  deriving DecidableEq

structure FrameMessage where
  id : String
  (sourceFrameID targetFrameID : FrameID)
  (topic body priority : String)
  createdAt : Time
  read : Bool
  (replyStatus deliveryStatus : String)
  reply : Option FrameReply
  deriving DecidableEq

structure FrameMessagingSummary where
  unreadCount : Nat
  (latestMessagePreview latestReplyPreview : String)
  pendingDeliveryCount : Nat
  lastDeliveryStatus : String
  deriving DecidableEq

structure SessionFrameMessaging where
  summary : FrameMessagingSummary
  messages : List FrameMessage
  deriving DecidableEq

structure ResumeCapsule where
  (objective currentState nextAction : String := "")
  (unresolved changed verified remaining : List String := [])
  attention : String := ""
  generatedAt : Time := 0
  sourceDigest : String := ""
  sourceTurns : Nat := 0
  flaggedWrong : Bool := false
  flaggedAt : Time := 0
  lastError : String := ""
  lastErrorAt : Time := 0
  deriving DecidableEq

structure CapsuleTurn where
  (role text : String)
  deriving DecidableEq

structure CapsuleJobInput where
  sessionID : SessionID
  (prompt sourceDigest : String)
  sourceTurns : Nat
  deriving DecidableEq

structure CapsuleJobResult where
  (objective currentState nextAction : String := "")
  (unresolved changed verified remaining : List String := [])
  (attention sourceDigest : String := "")
  sourceTurns : Nat := 0
  deriving DecidableEq

/-- What a worker job is given: a capsule prompt or a driver's own input. -/
inductive JobInput (D : Type) where
  | capsule (input : CapsuleJobInput) | driver (input : D)

/-- What a worker job answers: a parsed capsule or a driver's own result. -/
inductive JobResult (D : Type) where
  | capsule (result : CapsuleJobResult) | driver (result : D)

/-! ## Sessions and frames -/

structure SessionFrame (D : Type) where
  id : FrameID
  subsystemID : SubsystemID := ""
  targetID : TargetID := ""
  (project command : String)
  launchOptions : LaunchOptions := {}
  createdAt : Time
  driver : DriverState D

structure Session (D : Type) where
  id : SessionID
  project : String
  createdAt : Time := 0
  frames : List (SessionFrame D) := []
  headFrameID : FrameID := ""
  mruFrameIDs : List FrameID := []
  command : String
  launchOptions : LaunchOptions := {}
  driver : DriverState D := none
  frameMessaging : Option SessionFrameMessaging := none
  frameGeneration : Nat := 0
  resumeCapsule : Option ResumeCapsule := none
  endedAt : Option Time := none

/-- The session is retained only for observation. -/
def Session.ended {D : Type} (sess : Session D) : Bool := sess.endedAt.isSome

structure Subscriber where
  connID : ConnID
  filters : List String
  deriving DecidableEq

structure JobMeta where
  sessionID : SessionID
  frameID : FrameID
  startedAt : Time
  deriving DecidableEq

structure SurfaceSubscription where
  sessionID : SessionID
  subscriberID : SubscriberID
  deriving DecidableEq

structure SurfaceGeometry where
  (cols rows : UInt16)
  deriving DecidableEq

/-! ## Human-input requests -/

inductive ApprovalStatus where
  | pending | resolved | expired | cancelled
  deriving DecidableEq

def ApprovalStatus.text : ApprovalStatus → String
  | .pending => "pending"
  | .resolved => "resolved"
  | .expired => "expired"
  | .cancelled => "cancelled"

/-- The status of a question mirrors the status of an approval. -/
abbrev QuestionStatus := ApprovalStatus

/-- A decision as a client sends it; `unset` is the empty text, `other` any unknown one. -/
inductive ApprovalDecision where
  | unset | accept | deny | other (text : String)
  deriving DecidableEq

def ApprovalDecision.text : ApprovalDecision → String
  | .accept => "accept"
  | .deny => "deny"
  | .unset => ""
  | .other text => text

inductive ResolutionReason where
  | unset | client | expired | cancelled | auto | server
  deriving DecidableEq

def ResolutionReason.text : ResolutionReason → String
  | .unset => ""
  | .client => "client"
  | .expired => "expired"
  | .cancelled => "cancelled"
  | .auto => "auto"
  | .server => "server"

/-- `DefaultApprovalTTL` and `DefaultQuestionTTL`, thirty seconds. -/
def defaultRequestTTL : Time := 30 * 1000000000

def autoResolvingClientInstanceID : String := "auto"

structure ApprovalRequest where
  id : ApprovalID
  sessionID : SessionID
  frameID : FrameID
  (kind command path reason : String)
  (createdAt expiresAt : Time)
  status : ApprovalStatus
  defaultDecision : ApprovalDecision
  decision : ApprovalDecision := .unset
  resolvingClientInstanceID : String := ""
  resolutionReason : ResolutionReason := .unset
  deriving DecidableEq

structure QuestionRequest where
  id : QuestionID
  sessionID : SessionID
  frameID : FrameID
  prompt : String
  (createdAt expiresAt : Time)
  status : QuestionStatus
  (answer resolvingClientInstanceID : String := "")
  resolutionReason : ResolutionReason := .unset
  deriving DecidableEq

/-! ## Repository preparations -/

abbrev ExecutionServerID := String
abbrev CreationIntentID := String
abbrev PreparationID := String
abbrev ClonePathID := String

structure GitHubRepositoryIdentity where
  (id owner name : String)
  deriving DecidableEq

def GitHubRepositoryIdentity.valid (r : GitHubRepositoryIdentity) : Bool :=
  r.id != "" && r.owner != "" && r.name != ""

inductive PreparationStage where
  | confirmed | cloneInProgress | cloneReady | failed | cancelled | interrupted | internalCorruption
  | available | abandoned
  deriving DecidableEq

namespace PreparationStage

def text : PreparationStage → String
  | .confirmed => "confirmed"
  | .cloneInProgress => "clone-in-progress"
  | .cloneReady => "clone-ready"
  | .failed => "failed"
  | .cancelled => "cancelled"
  | .interrupted => "interrupted"
  | .internalCorruption => "internal_corruption"
  | .available => "available"
  | .abandoned => "abandoned"

def isSessionAvailable (st : PreparationStage) : Bool := st == .available

def isTerminal (st : PreparationStage) : Bool :=
  st == .available || st == .abandoned || st == .internalCorruption

end PreparationStage

inductive PreparationFailureCode where
  | none | invalidIdentity | cloneFailed | launchFailed | cancelled | interrupted | internalCorrupt
  | incompleteCommit | illegalTransition
  deriving DecidableEq

def PreparationFailureCode.text : PreparationFailureCode → String
  | .none => ""
  | .invalidIdentity => "invalid_identity"
  | .cloneFailed => "clone_failed"
  | .launchFailed => "launch_failed"
  | .cancelled => "cancelled"
  | .interrupted => "interrupted"
  | .internalCorrupt => "internal_corruption"
  | .incompleteCommit => "incomplete_commit_evidence"
  | .illegalTransition => "illegal_transition"

inductive RetryOrigin where
  | none | clone | launch
  deriving DecidableEq

def RetryOrigin.text : RetryOrigin → String
  | .none => ""
  | .clone => "clone"
  | .launch => "launch"

structure CreationIntent where
  id : CreationIntentID
  serverID : ExecutionServerID
  repository : GitHubRepositoryIdentity
  (fingerprint command : String)
  deriving DecidableEq

structure RepositoryPreparation where
  id : PreparationID
  intentID : CreationIntentID
  serverID : ExecutionServerID
  repository : GitHubRepositoryIdentity
  stage : PreparationStage
  failureCode : PreparationFailureCode := .none
  retryOrigin : RetryOrigin := .none
  (revision lastOwnedWorkerGeneration : Nat)
  clonePath : ClonePathID := ""
  sessionID : SessionID := ""
  (cloneDurable launchSucceeded : Bool := false)
  deriving DecidableEq

@[simp] def RepositoryPreparation.isSessionAvailable (p : RepositoryPreparation) : Bool :=
  p.stage.isSessionAvailable && p.sessionID != ""

structure RepositoryPreparationReply where
  (preparationID intentID serverID : String)
  repository : GitHubRepositoryIdentity
  (stage failureCode retryOrigin : String)
  revision : Nat
  (sessionID clonePath : String)
  deriving DecidableEq

end AgentGrid.Host
