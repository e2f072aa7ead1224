import AgentGrid.Host.Reduce
import AgentGrid.Host.Requests

/-!
# What a step can do

Every successful call of the reducer is one of a few actions: it leaves the session
graph and the requests alone, creates, pushes, selects, ends, evicts or publishes in
the graph, moves the requests, or moves the shutdown transaction.  This is proved once,
through the dispatch tables; runs are then followed action by action.
-/

namespace AgentGrid.Host

open AgentGrid.Lib RequestKind

variable {D : Type}

/-! ## Vocabulary -/

def CommandEvent.spawns : CommandEvent → Bool
  | .createSession _ | .pushDriver _ | .forkSession _ => true
  | _ => false

def Event.spawns : Event D → Bool
  | .event _ _ call => call.spawns
  | _ => false

/-- The event neither asks for a frame nor reports on one that was asked for. -/
def Event.routine : Event D → Bool
  | .event _ _ call => !call.spawns
  | .frameSpawned _ | .spawnFailed _ => false
  | _ => true

def Event.requester : Event D → Option (ConnID × String)
  | .event connID reqID _ => some (connID, reqID)
  | .driverEvent e => some (e.connID, e.reqID)
  | .subsystem e => some (e.connID, e.reqID)
  | .frameSpawned e => some (e.replyConn, e.replyReqID)
  | .spawnFailed e => some (e.replyConn, e.replyReqID)
  | .subscribe connID reqID _ => some (connID, reqID)
  | .unsubscribe connID reqID => some (connID, reqID)
  | .surfaceReadText connID reqID _ _ => some (connID, reqID)
  | .surfaceSendText connID reqID _ _ => some (connID, reqID)
  | .surfaceSendKey connID reqID _ _ => some (connID, reqID)
  | .driverList connID reqID => some (connID, reqID)
  | .surfaceSubscribe e => some (e.connID, e.reqID)
  | .surfaceUnsubscribe e => some (e.connID, e.reqID)
  | .surfaceResize connID reqID _ _ _ => some (connID, reqID)
  | .surfaceWriteRaw connID reqID _ _ => some (connID, reqID)
  | .approvalRespond e => some (e.connID, e.reqID)
  | .approvalCancel e => some (e.connID, e.reqID)
  | .questionRespond e => some (e.connID, e.reqID)
  | .questionCancel e => some (e.connID, e.reqID)
  | .repository e => some (e.connID, e.reqID)
  | _ => none

@[simp] def Effect.repliesTo : Effect D → Option (ConnID × String)
  | .sendResponse connID reqID _ => some (connID, reqID)
  | .sendResponseSync connID reqID _ => some (connID, reqID)
  | .sendError connID reqID _ _ _ => some (connID, reqID)
  | _ => none

/-- The effect neither touches a frame's process, nor the shutdown, nor a client, nor a request. -/
@[simp] def Effect.plain : Effect D → Bool
  | .spawnFrame .. | .killFrame _ | .registerFrame .. | .unregisterFrame _ | .releaseFrames _
  | .commitShutdownSessions _ | .completeShutdown _ | .terminateRuntime | .releaseFrame _
  | .sendResponse .. | .sendResponseSync .. | .sendError .. | .broadcastEvent ..
  | .replyHeldApproval .. | .replyHeldQuestion .. | .unwatchFile _ | .pushDriver .. => false
  | _ => true

/-- The effect is plain or a response to the client. -/
@[simp] def Effect.answers (client : ConnID × String) (e : Effect D) : Bool :=
  e.plain || e.repliesTo == some client

/-- A plain effect, an effect a driver asked for, or a response to the client that asked. -/
def Ordinary (env : Env D) (ev : Event D) (e : Effect D) : Prop :=
  e.plain = true ∨ env.FromDriver e ∨ ∃ client, e.repliesTo = some client ∧ ev.requester = some client

/-- The frame an event evicts, whether its window is to be killed, and what becomes of its session
when it is the root. -/
def Event.evicts : Event D → Option (FrameID × Bool × RootDisposition)
  | .frameVanished fid => some (fid, false, .retainEndedSession)
  | .frameCommandExited fid code => if isIntentionalExit code then some (fid, true, .retainEndedSession) else none
  | .spawnFailed e => some (e.frameID, false, .dropUnstartedSession)
  | _ => none

/-- The reply a failed spawn owes the client that asked for it. -/
def Event.failureReply : Event D → List (Effect D)
  | .spawnFailed e =>
    if e.replyConn = 0 then []
    else [errResp e.replyConn e.replyReqID errCodeInternal ("frame spawn failed: " ++ e.err)]
  | _ => []

/-- The requests and the shutdown transaction are as they were. -/
structure Kept (s s' : State D) : Prop where
  approvals : s'.pendingApprovals = s.pendingApprovals
  questions : s'.pendingQuestions = s.pendingQuestions
  lifecycle : s'.lifecycle = s.lifecycle
  shutdown : s'.shutdown = s.shutdown
  nextShutdownID : s'.nextShutdownID = s.nextShutdownID

theorem Kept.refl (s : State D) : Kept s s := ⟨rfl, rfl, rfl, rfl, rfl⟩

theorem Kept.trans {s t u : State D} (first : Kept s t) (second : Kept t u) : Kept s u :=
  ⟨second.approvals.trans first.approvals, second.questions.trans first.questions,
    second.lifecycle.trans first.lifecycle, second.shutdown.trans first.shutdown,
    second.nextShutdownID.trans first.nextShutdownID⟩

variable {s : State D}

theorem DriverOnly.kept {s' : State D} (only : DriverOnly s s') : Kept s s' := by
  rw [only.rest]
  exact ⟨rfl, rfl, rfl, rfl, rfl⟩

structure RequestsOnly (s s' : State D) : Prop where
  rest : s' = { s with pendingApprovals := s'.pendingApprovals, pendingQuestions := s'.pendingQuestions }

namespace RequestsOnly

variable {s t u : State D}

theorem trans (first : RequestsOnly s t) (second : RequestsOnly t u) : RequestsOnly s u := by
  refine ⟨?_⟩
  rw [second.rest, first.rest]

theorem graph (only : RequestsOnly s t) : t.graph = s.graph := by
  rw [only.rest]
  rfl

theorem ofApprovals (touches : approvals.Touches s t) : RequestsOnly s t := by
  refine ⟨?_⟩
  rw [touches]
  rfl

theorem ofQuestions (touches : questions.Touches s t) : RequestsOnly s t := by
  refine ⟨?_⟩
  rw [touches]
  rfl

end RequestsOnly

theorem evictRootFrame_requestsOnly (d : Draw) (s : State D) (sid : SessionID) (sess : Session D)
    (kill : Bool) (disposition : RootDisposition) :
    RequestsOnly (disposition.dispose s sid sess) (evictRootFrame d s sid sess kill disposition).1 :=
  (RequestsOnly.ofApprovals (approvals_lawful.cancelForSession_touches d _ sid)).trans
    (.ofQuestions (questions_lawful.cancelForSession_touches d _ sid))

theorem storeChild_requestsOnly (d : Draw) (s : State D) (sid : SessionID) (rest : Session D)
    (fid removedID : FrameID) (kill : Bool) :
    RequestsOnly { s with sessions := s.sessions.set sid rest } (storeChild d s sid rest fid removedID kill).1 :=
  (RequestsOnly.ofApprovals (approvals_lawful.cancelForFrame_touches d _ fid)).trans
    (.ofQuestions (questions_lawful.cancelForFrame_touches d _ fid))

theorem expiry_requestsOnly (d : Draw) (s : State D) (now : Time) :
    RequestsOnly s (expirePendingQuestions d (expirePendingApprovals d s now).1 now).1 :=
  (RequestsOnly.ofApprovals (approvals_lawful.expirePending_touches d _ now)).trans
    (.ofQuestions (questions_lawful.expirePending_touches d _ now))

/-- What the bookkeeping of human-input requests does for one subsystem event: at most one request
is filed or settled. -/
inductive Filed (d : Draw) (s : State D) (e : EvSubsystem D) :
    Reduced D → Prop where
  | nothing : Filed d s e (s, [])
  | approval {a : SubsystemApproval} {sid : SessionID} {sess : Session D} {i : Nat}
      (found : findFrame d s e.frameID = some (sid, sess, i)) (named : a.id ≠ "")
      (unused : findApproval d s a.id = none) :
      Filed d s e (putApproval s (newApproval s e a sid), [approvalRequestedBroadcast (newApproval s e a sid)])
  | autoApproval {a : SubsystemApproval} {sid : SessionID} {sess : Session D} {i : Nat}
      (found : findFrame d s e.frameID = some (sid, sess, i)) (named : a.id ≠ "")
      (unused : findApproval d s a.id = none) :
      Filed d s e (putApproval (putApproval s (newApproval s e a sid)) (autoApproved (newApproval s e a sid)),
          [approvalRequestedBroadcast (newApproval s e a sid), .replyHeldApproval e.frameID a.id .accept "",
            approvalResolvedBroadcast (autoApproved (newApproval s e a sid))])
  | question {qp : SubsystemQuestion} {sid : SessionID} {sess : Session D} {i : Nat}
      (found : findFrame d s e.frameID = some (sid, sess, i)) (named : qp.id ≠ "")
      (unused : findQuestion d s qp.id = none) :
      Filed d s e (putQuestion s (newQuestion s e qp sid), [questionRequestedBroadcast (newQuestion s e qp sid)])
  | approvalResolved (id : String) : Filed d s e ((approvals.resolveFromSubsystem d s id).getD (s, []))
  | questionResolved (id : String) : Filed d s e ((questions.resolveFromSubsystem d s id).getD (s, []))

theorem reduceHumanInput_eq (d : Draw) (s : State D) (e : EvSubsystem D) : reduceHumanInput d s e = (s, []) ∨
      reduceHumanInput d s e = (maybeCreateApprovalFromSubsystem d s e).getD (s, []) ∨
      reduceHumanInput d s e = (maybeCreateQuestionFromSubsystem d s e).getD (s, []) ∨
      reduceHumanInput d s e = (maybeResolveHumanInputFromSubsystem d s e).getD (s, []) := by
  cases kind : e.kind with
  | approvalRequested =>
    refine .inr (.inl ?_)
    simp [kind]
  | questionRequested =>
    refine .inr (.inr (.inl ?_))
    simp [kind]
  | approvalResolved | questionResolved =>
    refine .inr (.inr (.inr ?_))
    simp [kind]
  | _ =>
    refine .inl ?_
    simp [kind]

theorem reduceHumanInput_filed (d : Draw) (s : State D) (e : EvSubsystem D) :
    Filed d s e (reduceHumanInput d s e) := by
  rcases reduceHumanInput_eq d s e with same | same | same | same
  · rw [same]
    exact .nothing
  · rcases maybeCreateApproval_cases d s e with
      created | ⟨a, sid, sess, i, found, named, unused, created | created⟩
    · rw [same, created]
      exact .nothing
    · rw [same, created]
      exact .approval found named unused
    · rw [same, created]
      exact .autoApproval found named unused
  · rcases maybeCreateQuestion_cases d s e with
      created | ⟨qp, sid, sess, i, found, named, unused, created⟩
    · rw [same, created]
      exact .nothing
    · rw [same, created]
      exact .question found named unused
  rcases maybeResolve_cases d s e with resolved | ⟨id, resolved⟩ | ⟨id, resolved⟩
  · rw [same, resolved]
    exact .nothing
  · rw [same, resolved]
    exact .approvalResolved id
  · rw [same, resolved]
    exact .questionResolved id

variable {d : Draw} {e : EvSubsystem D} {r : Reduced D}

theorem Filed.requestsOnly (filed : Filed d s e r) : RequestsOnly s r.1 := by
  have put : ∀ (s : State D) a, RequestsOnly s (putApproval s a) :=
    fun s a => .ofApprovals (approvals_lawful.touches_withStore s _)
  cases filed with
  | nothing => exact ⟨rfl⟩
  | approval => exact put s _
  | autoApproval => exact (put s _).trans (put _ _)
  | question => exact .ofQuestions (questions_lawful.touches_withStore s _)
  | approvalResolved id => exact .ofApprovals (approvals_lawful.resolveFromSubsystem_touches d s id)
  | questionResolved id => exact .ofQuestions (questions_lawful.resolveFromSubsystem_touches d s id)

theorem cancelForSession_settles (d : Draw) (s : State D) (sid : SessionID) :
    (∀ e ∈ (cancelApprovalsForSession d s sid).2, e.settles = true) ∧
      ∀ e ∈ (cancelQuestionsForSession d s sid).2, e.settles = true :=
  ⟨cancelForSession_forall (fun _ => rfl) (fun _ => rfl) sid,
    cancelForSession_forall (fun _ => rfl) (fun _ => rfl) sid⟩

theorem cancelForFrame_settles (d : Draw) (s : State D) (fid : FrameID) :
    (∀ e ∈ (cancelApprovalsForFrame d s fid).2, e.settles = true) ∧
      ∀ e ∈ (cancelQuestionsForFrame d s fid).2, e.settles = true :=
  ⟨cancelForFrame_forall (fun _ => rfl) (fun _ => rfl) fid, cancelForFrame_forall (fun _ => rfl) (fun _ => rfl) fid⟩

theorem expirePending_settles (d : Draw) (s : State D) (now : Time) :
    (∀ e ∈ (expirePendingApprovals d s now).2, e.settles = true) ∧
      ∀ e ∈ (expirePendingQuestions d s now).2, e.settles = true :=
  ⟨expirePending_forall (fun _ => rfl) (fun _ => rfl) now, expirePending_forall (fun _ => rfl) (fun _ => rfl) now⟩

theorem reduceHumanInput_requestsOnly (d : Draw) (s : State D) (e : EvSubsystem D) :
    RequestsOnly s (reduceHumanInput d s e).1 :=
  (reduceHumanInput_filed d s e).requestsOnly

theorem Filed.settles (filed : Filed d s e r) : ∀ x ∈ r.2, x.settles = true := by
  cases filed with
  | nothing | approval _ _ _ | autoApproval _ _ _ | question _ _ _ => exact List.all_eq_true.mp rfl
  | approvalResolved id | questionResolved id => exact resolveFromSubsystem_forall (fun _ => rfl) id

/-- A driver ran on a frame of the session graph and the pushes it asked for were carried out. -/
structure Driven (env : Env D) (d : Draw) (s mid : State D) (raws pushed : List (Effect D)) :
    Prop where
  rest : mid = { s with sessions := mid.sessions, jobs := mid.jobs, nextJobID := mid.nextJobID }
  emitted : ∃ sid fid n, s.graph sid = some n ∧ fid ∈ n.frames ∧ ∀ raw ∈ raws, env.Patches sid fid raw
  pushed : Pushed d 0 s.graph raws mid.graph pushed

theorem Driven.kept {env : Env D} {mid : State D} {raws pushed : List (Effect D)}
    (driven : Driven env d s mid raws pushed) : Kept s mid := by
  rw [driven.rest]
  exact ⟨rfl, rfl, rfl, rfl, rfl⟩

/-! ## Actions of the running daemon -/

/-- The actions of the running daemon, with the state and the effects they lead to. -/
inductive Action (env : Env D) (d : Draw) (s : State D) (ev : Event D) :
    State D → List (Effect D) → Prop where
  | quiet {s' : State D} {effs : List (Effect D)} (routine : ev.routine = true) (kept : Kept s s')
      (graph : s'.graph = s.graph) (effects : ∀ e ∈ effs, Ordinary env ev e) : Action env d s ev s' effs
  | refuse {connID : ConnID} {reqID code message : String} {details : List (String × String)}
      (spawns : ev.spawns = true) (asked : ev.requester = some (connID, reqID)) :
      Action env d s ev s [.sendError connID reqID code message details]
  | create {s' : State D} {connID : ConnID} {reqID command : String} {hasDriver : Bool}
      {launch : LaunchPlan D} (spawns : ev.spawns = true)
      (asked : ev.requester = some (connID, reqID)) (kept : Kept s s')
      (graph : s'.graph = Function.update s.graph (d.alloc 0)
        (some (Node.single (d.alloc 0) (d.alloc 1) command hasDriver))) :
      Action env d s ev s' [spawnEffect (d.alloc 0) (d.alloc 1) launch connID reqID]
  | push {s' : State D} {connID : ConnID} {reqID : String} {p : PushDriverParams}
      {sess : Session D} {plan : PushPlan D}
      (asked : ev = .event connID reqID (.pushDriver (.ok p)))
      (found : s.sessions.get? p.sessionID = some sess)
      (planned : planPush env s p.sessionID sess p.project p.command p.options p.input = .ok plan)
      (kept : Kept s s')
      (graph : s'.graph = Function.update s.graph p.sessionID (some (sess.node.push (d.alloc 0)))) :
      Action env d s ev s' [spawnEffect p.sessionID (d.alloc 0) plan.launch connID reqID]
  | hook {mid : State D} {raws pushed tail : List (Effect D)} (routine : ev.routine = true)
      (driven : Driven env d s mid raws pushed) (effects : ∀ e ∈ tail, Ordinary env ev e) :
      Action env d s ev mid (pushed ++ tail)
  | subsystem {e : EvSubsystem D} {mid : State D} {raws pushed tail : List (Effect D)}
      {signals : GoMap SessionID Nat} (asked : ev = .subsystem e)
      (driven : Driven env d s mid raws pushed) (effects : ∀ e ∈ tail, Ordinary env ev e) :
      Action env d s ev { (reduceHumanInput d mid e).1 with statusSignals := signals }
        (pushed ++ (reduceHumanInput d mid e).2 ++ tail)
  | stop {connID : ConnID} {reqID : String} {sid : SessionID} {sess : Session D}
      (asked : ev = .event connID reqID (.stopSession (.ok sid)))
      (found : s.sessions.get? sid = some sess) :
      Action env d s ev { s with sessions := s.sessions.set sid (endSession sess s.now) }
        ([.broadcastSessionsChanged] ++ teardownAll sess.frames true ++
          [okResp connID reqID .empty, .persistSnapshot])
  | gone {fid : FrameID} {kill : Bool} {disposition : RootDisposition}
      (evicts : ev.evicts = some (fid, kill, disposition)) (absent : ¬ s.HasFrame fid) :
      Action env d s ev s ev.failureReply
  | evictRoot {fid : FrameID} {kill : Bool} {disposition : RootDisposition} {sid : SessionID}
      {sess : Session D} (evicts : ev.evicts = some (fid, kill, disposition))
      (found : findFrame d s fid = some (sid, sess, 0)) :
      Action env d s ev (evictRootFrame d s sid sess kill disposition).1
        ((evictRootFrame d s sid sess kill disposition).2 ++ ev.failureReply)
  | evictChild {fid : FrameID} {kill : Bool} {disposition : RootDisposition} {sid : SessionID}
      {sess rest : Session D} {i : Nat} (evicts : ev.evicts = some (fid, kill, disposition))
      (found : findFrame d s fid = some (sid, sess, i)) (child : i ≠ 0)
      (left : rest.node = sess.node.evict fid) : Action env d s ev (storeChild d s sid rest fid fid kill).1
        ((storeChild d s sid rest fid fid kill).2 ++ ev.failureReply)
  | select {s' : State D} {connID : ConnID} {reqID : String} {sid : SessionID} {n : Node}
      {fid : FrameID} {effs : List (Effect D)}
      (asked : ev = .event connID reqID (.setHeadFrame (.ok (sid, fid))))
      (found : s.graph sid = some n) (held : fid ∈ n.frames) (kept : Kept s s')
      (graph : s'.graph = Function.update s.graph sid (some (n.select fid)))
      (effects : ∀ e ∈ effs, Ordinary env ev e) : Action env d s ev s' effs
  | approval {connID : ConnID} {reqID id : String} {change : ApprovalRequest → ApprovalRequest}
      {reply : ApprovalRequest → Effect D} (routine : ev.routine = true)
      (asked : ev.requester = some (connID, reqID))
      (settles : (approvals : RequestKind D _).Settles change)
      (loud : ∀ r, (approvals : RequestKind D _).silent (change r) = false)
      (isReply : approvals.IsReply reply) : Action env d s ev (approvals.commit d s connID reqID id change reply).1
        (approvals.commit d s connID reqID id change reply).2
  | question {connID : ConnID} {reqID id : String} {change : QuestionRequest → QuestionRequest}
      {reply : QuestionRequest → Effect D} (routine : ev.routine = true)
      (asked : ev.requester = some (connID, reqID))
      (settles : (questions : RequestKind D _).Settles change)
      (loud : ∀ q, (questions : RequestKind D _).silent (change q) = false)
      (isReply : questions.IsReply reply) : Action env d s ev (questions.commit d s connID reqID id change reply).1
        (questions.commit d s connID reqID id change reply).2
  | tick {mid : State D} {now : Time} {n : UInt64} {before after : List (Effect D)}
      (asked : ev = .tick now n) (kept : Kept s mid) (graph : mid.graph = s.graph)
      (effectsBefore : ∀ e ∈ before, Ordinary env ev e)
      (effectsAfter : ∀ e ∈ after, Ordinary env ev e) :
      Action env d s ev (expirePendingQuestions d (expirePendingApprovals d mid now).1 now).1
        (before ++ (expirePendingApprovals d mid now).2 ++
          (expirePendingQuestions d (expirePendingApprovals d mid now).1 now).2 ++ after)
  | publish {s' : State D} {sid : SessionID} {command : String} {effs : List (Effect D)}
      (routine : ev.routine = true) (named : sid ≠ "") (free : s.graph sid = none)
      (kept : Kept s s')
      (graph : s'.graph = Function.update s.graph sid (some (Node.published sid command)))
      (effects : ∀ e ∈ effs, Ordinary env ev e) : Action env d s ev s' effs
  | register {e : EvFrameSpawned} {s' : State D} {boot : List (Effect D)} {tap : Bool}
      (asked : ev = .frameSpawned e)
      (held : ∃ n, s.graph e.sessionID = some n ∧ e.frameID ∈ n.frames) (kept : Kept s s')
      (graph : s'.graph = s.graph) (fromDriver : ∀ x ∈ boot, env.FromDriver x) :
      Action env d s ev s' (boot ++ spawnedEffects e tap)
  | late {e : EvFrameSpawned} (asked : ev = .frameSpawned e)
      (absent : ∀ n, s.graph e.sessionID = some n → e.frameID ∉ n.frames) : Action env d s ev s []
  | release {s' : State D} {fid : FrameID} {code : Int} {effs : List (Effect D)}
      (asked : ev = .frameCommandExited fid code) (crash : isIntentionalExit code = false)
      (kept : Kept s s') (graph : s'.graph = s.graph)
      (fromDriver : ∀ x ∈ effs, env.FromDriver x) : Action env d s ev s' (effs ++ [.releaseFrame fid])
  | shutdown {connID : ConnID} {reqID : String}
      (asked : ev = .event connID reqID (.shutdown (.ok ()))) :
      Action env d s ev (reduceShutdown s connID reqID).1 (reduceShutdown s connID reqID).2

/-! ## Classification -/

section Classification

variable {env : Env D} {d : Draw} {s s' : State D} {ev : Event D} {effs : List (Effect D)}

variable {e : Effect D}

theorem Ordinary.fromDriver (emitted : env.FromDriver e) : Ordinary env ev e :=
  .inr (.inl emitted)

variable {client : ConnID × String}

theorem Ordinary.reply (addressed : e.repliesTo = some client) (asked : ev.requester = some client) :
    Ordinary env ev e :=
  .inr (.inr ⟨client, addressed, asked⟩)

theorem ordinary_of_plain (each : effs.all Effect.plain = true) : ∀ e ∈ effs, Ordinary env ev e :=
  fun e mem => .inl (List.all_eq_true.mp each e mem)

theorem ordinary_of_answers (asked : ev.requester = some client)
    (each : effs.all (Effect.answers client) = true) : ∀ e ∈ effs, Ordinary env ev e := by
  intro e mem
  have here := List.all_eq_true.mp each e mem
  simp only [Effect.answers, Bool.or_eq_true, beq_iff_eq] at here
  rcases here with plain | addressed
  · exact .inl plain
  · exact .reply addressed asked

theorem ordinary_append {xs ys : List (Effect D)} (left : ∀ e ∈ xs, Ordinary env ev e)
    (right : ∀ e ∈ ys, Ordinary env ev e) : ∀ e ∈ xs ++ ys, Ordinary env ev e := by
  intro e mem
  rcases List.mem_append.mp mem with inLeft | inRight
  · exact left e inLeft
  · exact right e inRight

theorem Action.unchanged (routine : ev.routine = true) (asked : ev.requester = some client)
    (each : effs.all (Effect.answers client) = true) : Action env d s ev s effs :=
  .quiet routine (.refl s) rfl (ordinary_of_answers asked each)

theorem Action.ignored (routine : ev.routine = true) : Action env d s ev s [] :=
  .quiet routine (.refl s) rfl (List.forall_mem_nil _)

theorem decoded_cases {α : Type} {connID : ConnID} {reqID : String} {payload : Payload α} {handler : α → Reduced D}
    (reduced : decoded s connID reqID payload handler = .ok (s', effs)) :
    (∃ message, s' = s ∧ effs = [errResp connID reqID errCodeInvalidArgument message]) ∨
      ∃ p, payload = .ok p ∧ handler p = (s', effs) := by
  cases payload with
  | error =>
    cases reduced
    exact .inl ⟨_, rfl, rfl⟩
  | ok p => exact .inr ⟨p, rfl, Except.ok.inj reduced⟩

end Classification

end AgentGrid.Host
