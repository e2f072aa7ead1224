import AgentGrid.Host.Types

/-!
# Effects

The closed set of side effects the reducer can ask the runtime for, and the
constants of its replies.  A driver's `Step` returns effects of the same type,
so nothing here restricts what a driver may ask for.
-/

namespace AgentGrid.Host

inductive ShutdownResult where
  | committed | commitFailed | deadlineExceeded
  deriving DecidableEq

/-- The typed bodies the reducer puts into a response. -/
inductive ReplyBody where
  | empty | createSession (sessionID : SessionID) | sessions | sessionMessages (sessionID : SessionID)
  | surfaceReadText (sessionID : SessionID) (lines : Int)
  | surfaceUnsubscribed (sessionID : SessionID) (subscriberID : SubscriberID) | driverList | resumeCapsules
  | repositoryPreparation (reply : RepositoryPreparationReply)
  deriving DecidableEq

/-- Names of the broadcasts a client can filter on. -/
inductive EvtName where
  | approvalRequested | approvalResolved | questionRequested | questionResolved | other (name : String)
  deriving DecidableEq

inductive BroadcastPayload (D : Type) where
  | approval (request : ApprovalRequest) | question (request : QuestionRequest) | other (payload : D)

inductive Effect (D : Type) where
  | spawnFrame (sessionID : SessionID) (frameID : FrameID) (plan : LaunchPlan D)
      (env : List (String × String)) (replyConn : ConnID) (replyReqID : String)
  | killFrame (frameID : FrameID) | registerFrame (frameID : FrameID) (tap : Bool)
  | unregisterFrame (frameID : FrameID) | setSessionEnv (key value : String) | unsetSessionEnv (key : String)
  | releaseFrames (transactionID : Nat) | commitShutdownSessions (transactionID : Nat)
  | completeShutdown (result : ShutdownResult) | terminateRuntime | releaseFrame (frameID : FrameID)
  | sendResponse (connID : ConnID) (reqID : String) (body : ReplyBody)
  | sendResponseSync (connID : ConnID) (reqID : String) (body : ReplyBody)
  | sendError (connID : ConnID) (reqID code message : String) (details : List (String × String))
  | broadcastSessionsChanged | broadcastEvent (name : EvtName) (payload : BroadcastPayload D) (filterTag : EvtName)
  | replyHeldApproval (frameID : FrameID) (approvalID : ApprovalID) (decision : ApprovalDecision)
      (error : String)
  | replyHeldQuestion (frameID : FrameID) (questionID : QuestionID) (answer error : String)
  | closeConn (connID : ConnID)
  | sendFrameKeys (connID : ConnID) (reqID : String) (sessionID : SessionID) (text key : String)
      (withEnter : Bool)
  | persistSnapshot | watchFile (frameID : FrameID) (path kind : String) | unwatchFile (frameID : FrameID)
  | eventLogAppend (frameID : FrameID) (line : String) | toolLogAppend (nameSpace project line : String)
  | frameMessagingPersistRead (sessionID : SessionID) (messageIDs : List String) | reconcileWindows
  | recordNotification (sessionID : SessionID) (frameID : FrameID) (cmd : Int)
      (title body : String)
  | pushDriver (sessionID : SessionID) (command : String) | startJob (jobID : JobID) (input : JobInput D)
  | surfaceSubscribeStart (connID : ConnID) (sessionID : SessionID) (subscriberID : SubscriberID)
      (cols rows : UInt16)
  | surfaceSubscribeStop (connID : ConnID) (sessionID : SessionID) (subscriberID : SubscriberID)
  | surfaceResize (sessionID : SessionID) (cols rows : UInt16)
  | surfaceWriteRaw (sessionID : SessionID) (data : List UInt8)
  | broadcastSurfaceOutput (sessionID : SessionID) (data : List UInt8)
  | broadcastPromptEvent (frameID : FrameID) (phase : String) (exitCode : Int)
  | repositoryPersist (preparationID : PreparationID) (revision : Nat)
  | repositoryStartClone (preparationID : PreparationID) (serverID : ExecutionServerID)
      (repository : GitHubRepositoryIdentity) (generation : Nat)
  | repositoryLaunchSession (preparationID : PreparationID) (serverID : ExecutionServerID)
      (repository : GitHubRepositoryIdentity) (generation : Nat)
  | repositoryStopOwnedWork (preparationID : PreparationID) (generation : Nat)

def errCodeNotFound : String := "not_found"
def errCodeInvalidArgument : String := "invalid_argument"
def errCodeInternal : String := "internal"
def errCodeUnsupported : String := "unsupported"
def errCodeResourceExhausted : String := "resource_exhausted"
def errCodeFrameNotReady : String := "frame_not_ready"
def errCodeUnavailable : String := "unavailable"
def errCodeStaleRevision : String := "stale_revision"
def errCodeResolvedByOther : String := "resolved_by_other"

variable {D : Type}

/-- `errResp`: a typed error reply. -/
def errResp (connID : ConnID) (reqID code message : String) : Effect D :=
  .sendError connID reqID code message []

/-- `okResp`: a typed success reply. -/
def okResp (connID : ConnID) (reqID : String) (body : ReplyBody) : Effect D :=
  .sendResponse connID reqID body

end AgentGrid.Host
