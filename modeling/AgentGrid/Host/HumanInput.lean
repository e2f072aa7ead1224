import AgentGrid.Host.Helpers

/-!
# Approval and question requests

The two kinds of human-input requests share their life cycle: a record is filed
pending, a client, an expiry, the server or the teardown of its frame settles it, and
it stays as a tombstone until its session is reaped.  Approvals and questions
instantiate `RequestKind` with their own records, replies and broadcasts.
-/

namespace AgentGrid.Host

open AgentGrid.Lib

variable {D R : Type}

/-- What approvals and questions differ in.  A reply or broadcast is built from the record as it
is after the transition. -/
structure RequestKind (D R : Type) where
  noun : String
  store : State D → Buckets SessionID String R
  withStore : State D → Buckets SessionID String R → State D
  id : R → String
  sessionID : R → SessionID
  frameID : R → FrameID
  status : R → ApprovalStatus
  reason : R → ResolutionReason
  expiresAt : R → Time
  (expire reap serverResolve : R → R)
  (expiryReply reapReply requestedBroadcast resolvedBroadcast : R → Effect D)
  winner : R → List (String × String)
  /-- The frame and the request a held reply is for. -/
  replyOf : Effect D → Option (FrameID × String)
  (requestedOf resolvedOf : Effect D → Option R)

namespace RequestKind

variable (k : RequestKind D R) (d : Draw) (s : State D) (r : R) (id : String)

def isPending : Bool := k.status r == .pending

def find : Option (R × SessionID) :=
  if id = "" then none else (k.store s).find d.toRangeOrder id

def put : State D :=
  k.withStore s ((k.store s).put (k.sessionID r) (k.id r) r)

def delete (sessionID : SessionID) (id : String) : State D :=
  k.withStore s ((k.store s).drop sessionID id)

def resolvedByOtherError (connID : ConnID) (reqID : String) (r : R) : Effect D :=
  .sendError connID reqID errCodeResolvedByOther (k.noun ++ " already resolved by another client") (k.winner r)

/-- The part of the respond and cancel commands after their argument checks. -/
def commit (connID : ConnID) (reqID id : String) (change : R → R) (reply : R → Effect D) : Reduced D :=
  match k.find d s id with
  | none => (s, [errResp connID reqID errCodeNotFound (k.noun ++ " not found")])
  | some (r, _) =>
    if k.isPending r then
      (k.put s (change r), [okResp connID reqID .empty, reply (change r), k.resolvedBroadcast (change r)])
    else (s, [k.resolvedByOtherError connID reqID r])

/-- The loop that answers and announces each transitioned record. -/
def drain (reply : R → Effect D) (settled : List R) : List (Effect D) :=
  settled.flatMap fun r => [reply r, k.resolvedBroadcast r]

def due (now : Time) (r : R) : Bool :=
  k.isPending r && !(k.expiresAt r).isZero && !decide (now < k.expiresAt r)

def expirePending (now : Time) : Reduced D :=
  if now.isZero then (s, [])
  else
    let hits := (k.store s).select d.toRangeOrder (k.due now)
    (hits.foldl (fun s h => k.put s (k.expire h.2)) s, k.drain k.expiryReply (hits.map fun h => k.expire h.2))

def ownedBy (frameID : FrameID) (r : R) : Bool :=
  k.isPending r && k.frameID r == frameID

def cancelForFrame (frameID : FrameID) : Reduced D :=
  if frameID = "" then (s, [])
  else
    let hits := (k.store s).select d.toRangeOrder (k.ownedBy frameID)
    (hits.foldl (fun s h => k.delete s h.1 (k.id h.2)) s, k.drain k.reapReply (hits.map fun h => k.reap h.2))

def cancelForSession (sessionID : SessionID) : Reduced D :=
  if sessionID = "" then (s, [])
  else
    let records := (((k.store s).get? sessionID).getD ∅).range d.toRangeOrder
    (records.foldl (fun s e => k.delete s sessionID e.1) s,
      k.drain k.reapReply ((records.filter fun e => k.isPending e.2).map fun e => k.reap e.2))

/-- The driver reports that the request was resolved on its side; `none` is "not handled". -/
def resolveFromSubsystem : Option (Reduced D) :=
  match k.find d s id with
  | none => none
  | some (r, _) =>
    if k.isPending r then some (k.put s (k.serverResolve r), [k.resolvedBroadcast (k.serverResolve r)])
    else some (s, [])

end RequestKind

/-! ## Approvals -/

variable (d : Draw) (r : ApprovalRequest) (q : QuestionRequest) (s : State D) (e : EvSubsystem D)

def approvalRequestedBroadcast : Effect D :=
  .broadcastEvent .approvalRequested (.approval r) .approvalRequested

def approvalResolvedBroadcast : Effect D :=
  .broadcastEvent .approvalResolved (.approval r) .approvalResolved

def Effect.approvalReply : Effect D → Option (FrameID × ApprovalID)
  | .replyHeldApproval frameID id _ _ => some (frameID, id)
  | _ => none

def Effect.requestedApproval : Effect D → Option ApprovalRequest
  | .broadcastEvent .approvalRequested (.approval r) _ => some r
  | _ => none

def Effect.resolvedApproval : Effect D → Option ApprovalRequest
  | .broadcastEvent .approvalResolved (.approval r) _ => some r
  | _ => none

def approvals : RequestKind D ApprovalRequest where
  noun := "approval"
  store := State.pendingApprovals
  withStore s m := { s with pendingApprovals := m }
  id := ApprovalRequest.id
  sessionID := ApprovalRequest.sessionID
  frameID := ApprovalRequest.frameID
  status := ApprovalRequest.status
  reason := ApprovalRequest.resolutionReason
  expiresAt := ApprovalRequest.expiresAt
  expire r :=
    { r with
      status := .expired, decision := if r.defaultDecision = .unset then .deny else r.defaultDecision
      resolutionReason := .expired }
  reap r := { r with status := .cancelled, decision := .deny, resolutionReason := .cancelled }
  serverResolve r := { r with status := .resolved, resolutionReason := .server }
  expiryReply r := .replyHeldApproval r.frameID r.id r.decision ""
  reapReply r := .replyHeldApproval r.frameID r.id .deny "connection-lost"
  requestedBroadcast := approvalRequestedBroadcast
  resolvedBroadcast := approvalResolvedBroadcast
  winner r := [("decision", r.decision.text), ("resolving_client_instance_id", r.resolvingClientInstanceID),
      ("resolution_reason", r.resolutionReason.text), ("status", r.status.text)]
  replyOf := Effect.approvalReply
  requestedOf := Effect.requestedApproval
  resolvedOf := Effect.resolvedApproval

def findApproval (id : ApprovalID) : Option (ApprovalRequest × SessionID) :=
  approvals.find d s id

def putApproval (r : ApprovalRequest) : State D := approvals.put s r

def expirePendingApprovals (now : Time) : Reduced D :=
  approvals.expirePending d s now

def cancelApprovalsForFrame (frameID : FrameID) : Reduced D :=
  approvals.cancelForFrame d s frameID

def cancelApprovalsForSession (sessionID : SessionID) : Reduced D :=
  approvals.cancelForSession d s sessionID

def reduceApprovalRespond (e : EvApprovalRespond) : Reduced D :=
  if e.approvalID = "" then (s, [errResp e.connID e.reqID errCodeInvalidArgument "approval_id required"])
  else if e.decision ≠ .accept ∧ e.decision ≠ .deny then
    (s, [errResp e.connID e.reqID errCodeInvalidArgument "decision must be accept or deny"])
  else
    approvals.commit d s e.connID e.reqID e.approvalID (fun r =>
        { r with
          status := .resolved, decision := e.decision, resolvingClientInstanceID := e.clientInstanceID
          resolutionReason := .client })
      (fun r => .replyHeldApproval r.frameID r.id r.decision "")

def reduceApprovalCancel (e : EvApprovalCancel) : Reduced D :=
  if e.approvalID = "" then (s, [errResp e.connID e.reqID errCodeInvalidArgument "approval_id required"])
  else
    approvals.commit d s e.connID e.reqID e.approvalID (fun r =>
        { r with
          status := .cancelled, decision := .deny, resolvingClientInstanceID := e.clientInstanceID
          resolutionReason := .cancelled })
      (fun r => .replyHeldApproval r.frameID r.id .deny "connection-lost")

/-- The time a subsystem event stands for: its own, or the state's when it has none. -/
def requestTime : Time :=
  if e.timestamp.isZero then s.now else e.timestamp

def newApproval (a : SubsystemApproval) (sessID : SessionID) :
    ApprovalRequest :=
  { id := a.id, sessionID := sessID, frameID := e.frameID, kind := a.kind, command := a.command
    path := a.path, reason := a.reason, createdAt := requestTime s e
    expiresAt := requestTime s e + defaultRequestTTL, status := .pending
    defaultDecision := if a.autoApprove then .accept else .deny }

def autoApproved : ApprovalRequest :=
  { r with
    status := .resolved, decision := .accept, resolvingClientInstanceID := autoResolvingClientInstanceID
    resolutionReason := .auto }

/-- `maybeCreateApprovalFromSubsystem`; `none` is its `false`. -/
@[simp] def maybeCreateApprovalFromSubsystem : Option (Reduced D) :=
  match e.kind, e.payload.approval with
  | .approvalRequested, some a =>
    if a.id = "" then none
    else if (findApproval d s a.id).isSome then some (s, [])
    else
      match findFrame d s e.frameID with
      | none => none
      | some (sessID, _, _) =>
        let r := newApproval s e a sessID
        if a.autoApprove then
          some (putApproval (putApproval s r) (autoApproved r),
            [approvalRequestedBroadcast r, .replyHeldApproval r.frameID r.id .accept "",
              approvalResolvedBroadcast (autoApproved r)])
        else some (putApproval s r, [approvalRequestedBroadcast r])
  | _, _ => none

/-! ## Questions -/

def questionRequestedBroadcast : Effect D :=
  .broadcastEvent .questionRequested (.question q) .questionRequested

def questionResolvedBroadcast : Effect D :=
  .broadcastEvent .questionResolved (.question q) .questionResolved

def Effect.questionReply : Effect D → Option (FrameID × QuestionID)
  | .replyHeldQuestion frameID id _ _ => some (frameID, id)
  | _ => none

def Effect.requestedQuestion : Effect D → Option QuestionRequest
  | .broadcastEvent .questionRequested (.question q) _ => some q
  | _ => none

def Effect.resolvedQuestion : Effect D → Option QuestionRequest
  | .broadcastEvent .questionResolved (.question q) _ => some q
  | _ => none

def questions : RequestKind D QuestionRequest where
  noun := "question"
  store := State.pendingQuestions
  withStore s m := { s with pendingQuestions := m }
  id := QuestionRequest.id
  sessionID := QuestionRequest.sessionID
  frameID := QuestionRequest.frameID
  status := QuestionRequest.status
  reason := QuestionRequest.resolutionReason
  expiresAt := QuestionRequest.expiresAt
  expire q := { q with status := .expired, resolutionReason := .expired }
  reap q := { q with status := .cancelled, resolutionReason := .cancelled }
  serverResolve q := { q with status := .resolved, resolutionReason := .server }
  expiryReply q := .replyHeldQuestion q.frameID q.id "" "connection-lost"
  reapReply q := .replyHeldQuestion q.frameID q.id "" "connection-lost"
  requestedBroadcast := questionRequestedBroadcast
  resolvedBroadcast := questionResolvedBroadcast
  winner q := [("answer", q.answer), ("resolving_client_instance_id", q.resolvingClientInstanceID),
      ("resolution_reason", q.resolutionReason.text), ("status", q.status.text)]
  replyOf := Effect.questionReply
  requestedOf := Effect.requestedQuestion
  resolvedOf := Effect.resolvedQuestion

def findQuestion (id : QuestionID) : Option (QuestionRequest × SessionID) :=
  questions.find d s id

def putQuestion (q : QuestionRequest) : State D := questions.put s q

def expirePendingQuestions (now : Time) : Reduced D :=
  questions.expirePending d s now

def cancelQuestionsForFrame (frameID : FrameID) : Reduced D :=
  questions.cancelForFrame d s frameID

def cancelQuestionsForSession (sessionID : SessionID) : Reduced D :=
  questions.cancelForSession d s sessionID

def reduceQuestionRespond (e : EvQuestionRespond) : Reduced D :=
  if e.questionID = "" then (s, [errResp e.connID e.reqID errCodeInvalidArgument "question_id required"])
  else
    questions.commit d s e.connID e.reqID e.questionID (fun q =>
        { q with
          status := .resolved, answer := e.answer, resolvingClientInstanceID := e.clientInstanceID
          resolutionReason := .client })
      (fun q => .replyHeldQuestion q.frameID q.id q.answer "")

def reduceQuestionCancel (e : EvQuestionCancel) : Reduced D :=
  if e.questionID = "" then (s, [errResp e.connID e.reqID errCodeInvalidArgument "question_id required"])
  else
    questions.commit d s e.connID e.reqID e.questionID (fun q =>
        { q with
          status := .cancelled, resolvingClientInstanceID := e.clientInstanceID, resolutionReason := .cancelled })
      (fun q => .replyHeldQuestion q.frameID q.id "" "connection-lost")

def newQuestion (qp : SubsystemQuestion) (sessID : SessionID) :
    QuestionRequest :=
  { id := qp.id, sessionID := sessID, frameID := e.frameID, prompt := qp.prompt
    createdAt := requestTime s e, expiresAt := requestTime s e + defaultRequestTTL, status := .pending }

/-- `maybeCreateQuestionFromSubsystem`; `none` is its `false`. -/
@[simp] def maybeCreateQuestionFromSubsystem : Option (Reduced D) :=
  match e.kind, e.payload.question with
  | .questionRequested, some qp =>
    if qp.id = "" then none
    else if (findQuestion d s qp.id).isSome then some (s, [])
    else
      match findFrame d s e.frameID with
      | none => none
      | some (sessID, _, _) =>
        let q := newQuestion s e qp sessID
        some (putQuestion s q, [questionRequestedBroadcast q])
  | _, _ => none

/-- `maybeResolveHumanInputFromSubsystem`; `none` is its `false`. -/
@[simp] def maybeResolveHumanInputFromSubsystem : Option (Reduced D) :=
  match e.kind with
  | .approvalResolved =>
    match e.payload.approval with
    | none => none
    | some a => approvals.resolveFromSubsystem d s a.id
  | .questionResolved =>
    match e.payload.question with
    | none => none
    | some q => questions.resolveFromSubsystem d s q.id
  | _ => none

end AgentGrid.Host
