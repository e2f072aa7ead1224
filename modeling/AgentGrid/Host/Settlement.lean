import AgentGrid.Host.Origin

/-!
# Requests settle once

Over every run, a human-input request is filed in one bucket under its own session,
leaves the pending state once, and is announced and answered by the step that takes
it out.  Whoever comes second changes nothing and learns who won.
-/

namespace AgentGrid.Host

open AgentGrid.Lib List RequestKind

variable {D : Type} {env : Env D} {d : Draw} {s s' : State D} {ev : Event D}
  {effs : List (Effect D)}

/-- The drivers neither answer nor announce requests themselves. -/
def Env.Discreet (env : Env D) : Prop := ∀ e, env.Emits e → e.settles = false

theorem Env.inert_discreet : Env.inert.Discreet :=
  fun _ emitted => absurd emitted Env.inert_emits

/-! ## Effects that say nothing about requests -/

variable {e : Effect D}

theorem Env.Discreet.fromDriver (discreet : env.Discreet) (emitted : env.FromDriver e) : e.settles = false := by
  cases patched : e.patched with
  | false => exact discreet e (emitted.emits patched)
  | true => cases e <;> first | rfl | cases patched

theorem Ordinary.silent (discreet : env.Discreet) (ordinary : Ordinary env ev e) : e.settles = false := by
  rcases ordinary with plain | emitted | ⟨client, addressed, _⟩
  · cases e <;> first | rfl | cases plain
  · exact discreet.fromDriver emitted
  · cases e <;> first | rfl | cases addressed

variable {mid : State D}

theorem Driven.silent (discreet : env.Discreet) {raws pushed : List (Effect D)}
    (driven : Driven env d s mid raws pushed) : ∀ e ∈ pushed, e.settles = false :=
  driven.forall_pushed (fun _ emitted => discreet.fromDriver emitted) fun _ _ _ => rfl

variable {kill : Bool}

theorem teardownOf_silent {frames : List FrameID} :
    ∀ e ∈ (teardownOf frames kill : List (Effect D)), e.settles = false := by
  intro e mem
  obtain ⟨fid, _, rfl | rfl | rfl | rfl⟩ := mem_teardownOf mem <;> rfl

theorem failureReply_silent : ∀ e ∈ ev.failureReply, e.settles = false := by
  intro e mem
  obtain ⟨client, addressed, _⟩ := mem_failureReply mem
  cases e <;> first | rfl | cases addressed

theorem spawnedEffects_silent {spawned : EvFrameSpawned} {tap : Bool} :
    ∀ e ∈ (spawnedEffects spawned tap : List (Effect D)), e.settles = false := by
  intro e mem
  rcases mem_append.mp mem with first | reply
  · simp only [mem_cons, not_mem_nil, or_false] at first
    rcases first with rfl | rfl | rfl <;> rfl
  split at reply
  · obtain rfl := mem_singleton.mp reply
    rfl
  · cases reply

theorem approvals_reply_mute {reply : ApprovalRequest → Effect D}
    (isReply : approvals.IsReply reply) (r : ApprovalRequest) : questions.Mute (reply r) := by
  have held := (isReply r).1
  generalize reply r = e at held
  cases e <;> first | exact ⟨rfl, rfl, rfl⟩ | cases held

theorem questions_reply_mute {reply : QuestionRequest → Effect D}
    (isReply : questions.IsReply reply) (q : QuestionRequest) : approvals.Mute (reply q) := by
  have held := (isReply q).1
  generalize reply q = e at held
  cases e <;> first | exact ⟨rfl, rfl, rfl⟩ | cases held

theorem refresh_silent : ∀ e ∈ ([.persistSnapshot, .broadcastSessionsChanged] : List (Effect D)), e.settles = false :=
  forall_mem_cons.mpr ⟨rfl, forall_mem_singleton.mpr rfl⟩

/-! ## One step -/

/-- The stores of both kinds of requests are coherent. -/
structure State.Coherent (s : State D) : Prop where
  approval : Buckets.Coherent ApprovalRequest.sessionID ApprovalRequest.id (approvals.store s)
  question : Buckets.Coherent QuestionRequest.sessionID QuestionRequest.id (questions.store s)

/-- Both kinds of requests make progress in a step. -/
structure Settlements (s : State D) (effs : List (Effect D)) (s' : State D) : Prop where
  approval : approvals.Progress (approvals.store s) (approvals.store s') effs
  question : questions.Progress (questions.store s) (questions.store s') effs

theorem approvals_keep_questions (touches : approvals.Touches s s') : questions.store s' = questions.store s := by
  rw [touches]
  rfl

theorem questions_keep_approvals (touches : questions.Touches s s') : approvals.store s' = approvals.store s := by
  rw [touches]
  rfl

namespace Settlements

theorem coherent (settlements : Settlements s effs s') : s'.Coherent :=
  ⟨settlements.approval.coherent, settlements.question.coherent⟩

theorem still (coherent : s.Coherent) (sameApprovals : approvals.store s' = approvals.store s)
    (sameQuestions : questions.store s' = questions.store s)
    (silent : ∀ e ∈ effs, e.settles = false) : Settlements s effs s' := by
  constructor
  · rw [sameApprovals]
    exact .still coherent.approval fun e mem => approvals_lawful.mute (silent e mem)
  · rw [sameQuestions]
    exact .still coherent.question fun e mem => questions_lawful.mute (silent e mem)

theorem ofApprovals (coherent : s.Coherent) (touches : approvals.Touches s s')
    (progress : approvals.Progress (approvals.store s) (approvals.store s') effs)
    (silent : ∀ e ∈ effs, questions.Mute e) : Settlements s effs s' := by
  refine ⟨progress, ?_⟩
  rw [approvals_keep_questions touches]
  exact .still coherent.question silent

theorem ofQuestions (coherent : s.Coherent) (touches : questions.Touches s s')
    (progress : questions.Progress (questions.store s) (questions.store s') effs)
    (silent : ∀ e ∈ effs, approvals.Mute e) : Settlements s effs s' := by
  refine ⟨?_, progress⟩
  rw [questions_keep_approvals touches]
  exact .still coherent.approval silent

theorem pad {before after : List (Effect D)} (settlements : Settlements s effs s')
    (silentBefore : ∀ e ∈ before, e.settles = false) (silentAfter : ∀ e ∈ after, e.settles = false) :
    Settlements s (before ++ effs ++ after) s' :=
  ⟨settlements.approval.pad (fun e mem => approvals_lawful.mute (silentBefore e mem))
      fun e mem => approvals_lawful.mute (silentAfter e mem),
    settlements.question.pad (fun e mem => questions_lawful.mute (silentBefore e mem))
      fun e mem => questions_lawful.mute (silentAfter e mem)⟩

theorem transport {t t' : State D} (settlements : Settlements t effs t')
    (sameApprovals : approvals.store t = approvals.store s) (sameQuestions : questions.store t = questions.store s)
    (sameApprovals' : approvals.store t' = approvals.store s')
    (sameQuestions' : questions.store t' = questions.store s') : Settlements s effs s' := by
  have approval := settlements.approval
  have question := settlements.question
  rw [sameApprovals, sameApprovals'] at approval
  rw [sameQuestions, sameQuestions'] at question
  exact ⟨approval, question⟩

theorem sequence {mid : State D} {first between second : List (Effect D)} (touchesApprovals : approvals.Touches s mid)
    (approval : approvals.Progress (approvals.store s) (approvals.store mid) first)
    (touchesQuestions : questions.Touches mid s')
    (question : questions.Progress (questions.store mid) (questions.store s') second)
    (firstMute : ∀ e ∈ first, questions.Mute e) (secondMute : ∀ e ∈ second, approvals.Mute e)
    (silent : ∀ e ∈ between, e.settles = false) : Settlements s (first ++ between ++ second) s' := by
  rw [← questions_keep_approvals touchesQuestions] at approval
  rw [approvals_keep_questions touchesApprovals] at question
  constructor
  · have later := forall_mem_append.mpr ⟨fun e mem => approvals_lawful.mute (silent e mem), secondMute⟩
    have padded := approval.pad (forall_mem_nil _) later
    simpa [append_assoc] using padded
  · have earlier := forall_mem_append.mpr ⟨firstMute, fun e mem => questions_lawful.mute (silent e mem)⟩
    have padded := question.pad earlier (forall_mem_nil _)
    simpa using padded

end Settlements

theorem RequestKind.record_of_find_none {R : Type} {k : RequestKind D R}
    (coherent : k.Coherent s) {id : String} (named : id ≠ "")
    (unused : k.find d s id = none) : (k.store s).record id = none := by
  rw [RequestKind.find_eq coherent d named] at unused
  exact Option.map_eq_none_iff.mp unused

theorem Filed.settlements {e : EvSubsystem D} {r : Reduced D}
    (filed : Filed d s e r) (coherent : s.Coherent) : Settlements s r.2 r.1 := by
  cases filed with
  | nothing => exact .still coherent rfl rfl (forall_mem_nil _)
  | @approval a sid _ _ _ named unused =>
    have free := record_of_find_none coherent.approval named unused
    have progress := insert_progress approvals_lawful coherent.approval (r := newApproval s e a sid) free rfl
    exact .ofApprovals coherent (approvals_lawful.touches_withStore s _) progress
      (forall_mem_singleton.mpr ⟨rfl, rfl, rfl⟩)
  | @autoApproval a sid _ _ _ named unused =>
    have free := record_of_find_none coherent.approval named unused
    have isReply : approvals.IsReply (fun r => (.replyHeldApproval r.frameID r.id .accept "" : Effect D)) :=
      fun _ => ⟨rfl, rfl, rfl⟩
    have same : approvals.SameRequest (D := D) (autoApproved (newApproval s e a sid))
        (newApproval s e a sid) := ⟨rfl, rfl, rfl⟩
    have progress := insertSettled_progress approvals_lawful coherent.approval
      (r := newApproval s e a sid) free same rfl rfl isReply
    refine .ofApprovals coherent (approvals_lawful.touches_trans
      (approvals_lawful.touches_withStore s _) (approvals_lawful.touches_withStore _ _))
      progress ?_
    exact forall_mem_cons.mpr ⟨⟨rfl, rfl, rfl⟩, forall_mem_cons.mpr
      ⟨⟨rfl, rfl, rfl⟩, forall_mem_singleton.mpr ⟨rfl, rfl, rfl⟩⟩⟩
  | @question qp sid _ _ _ named unused =>
    have free := record_of_find_none coherent.question named unused
    have progress := insert_progress questions_lawful coherent.question (r := newQuestion s e qp sid) free rfl
    exact .ofQuestions coherent (questions_lawful.touches_withStore s _) progress
      (forall_mem_singleton.mpr ⟨rfl, rfl, rfl⟩)
  | approvalResolved id =>
    exact .ofApprovals coherent (approvals_lawful.resolveFromSubsystem_touches d s id)
      (resolveFromSubsystem_progress approvals_lawful coherent.approval d id)
      (resolveFromSubsystem_forall (fun _ => ⟨rfl, rfl, rfl⟩) id)
  | questionResolved id =>
    exact .ofQuestions coherent (questions_lawful.resolveFromSubsystem_touches d s id)
      (resolveFromSubsystem_progress questions_lawful coherent.question d id)
      (resolveFromSubsystem_forall (fun _ => ⟨rfl, rfl, rfl⟩) id)

theorem State.Coherent.question_of_touches (coherent : s.Coherent) (touches : approvals.Touches s s') :
    Buckets.Coherent QuestionRequest.sessionID QuestionRequest.id (questions.store s') := by
  rw [approvals_keep_questions touches]
  exact coherent.question

variable {between : List (Effect D)}

theorem cancelForSession_settlements (coherent : s.Coherent) (sid : SessionID)
    (silent : ∀ e ∈ between, e.settles = false) : Settlements s ((cancelApprovalsForSession d s sid).2 ++ between ++
        (cancelQuestionsForSession d (cancelApprovalsForSession d s sid).1 sid).2)
      (cancelQuestionsForSession d (cancelApprovalsForSession d s sid).1 sid).1 := by
  have touches := approvals_lawful.cancelForSession_touches d s sid
  exact .sequence touches (cancelForSession_progress approvals_lawful coherent.approval d sid)
    (questions_lawful.cancelForSession_touches d _ sid)
    (cancelForSession_progress questions_lawful (coherent.question_of_touches touches) d sid)
    (cancelForSession_forall (fun _ => ⟨rfl, rfl, rfl⟩) (fun _ => ⟨rfl, rfl, rfl⟩) sid)
    (cancelForSession_forall (fun _ => ⟨rfl, rfl, rfl⟩) (fun _ => ⟨rfl, rfl, rfl⟩) sid)
    silent

theorem cancelForFrame_settlements (coherent : s.Coherent) (fid : FrameID)
    (silent : ∀ e ∈ between, e.settles = false) : Settlements s ((cancelApprovalsForFrame d s fid).2 ++ between ++
        (cancelQuestionsForFrame d (cancelApprovalsForFrame d s fid).1 fid).2)
      (cancelQuestionsForFrame d (cancelApprovalsForFrame d s fid).1 fid).1 := by
  have touches := approvals_lawful.cancelForFrame_touches d s fid
  exact .sequence touches (cancelForFrame_progress approvals_lawful coherent.approval d fid)
    (questions_lawful.cancelForFrame_touches d _ fid)
    (cancelForFrame_progress questions_lawful (coherent.question_of_touches touches) d fid)
    (cancelForFrame_forall (fun _ => ⟨rfl, rfl, rfl⟩) (fun _ => ⟨rfl, rfl, rfl⟩) fid)
    (cancelForFrame_forall (fun _ => ⟨rfl, rfl, rfl⟩) (fun _ => ⟨rfl, rfl, rfl⟩) fid)
    silent

theorem expirePending_settlements (coherent : s.Coherent) (now : Time) : Settlements s
      ((expirePendingApprovals d s now).2 ++ (expirePendingQuestions d (expirePendingApprovals d s now).1 now).2)
      (expirePendingQuestions d (expirePendingApprovals d s now).1 now).1 := by
  have touches := approvals_lawful.expirePending_touches d s now
  have settled := Settlements.sequence touches (expirePending_progress approvals_lawful coherent.approval d now)
    (questions_lawful.expirePending_touches d _ now)
    (expirePending_progress questions_lawful (coherent.question_of_touches touches) d now)
    (expirePending_forall (fun _ => ⟨rfl, rfl, rfl⟩) (fun _ => ⟨rfl, rfl, rfl⟩) now)
    (expirePending_forall (fun _ => ⟨rfl, rfl, rfl⟩) (fun _ => ⟨rfl, rfl, rfl⟩) now)
    (show ∀ e ∈ ([] : List (Effect D)), e.settles = false from forall_mem_nil _)
  rwa [append_nil] at settled

theorem Kept.coherent (kept : Kept s s') (coherent : s.Coherent) : s'.Coherent := by
  constructor
  · show Buckets.Coherent _ _ s'.pendingApprovals
    rw [kept.approvals]
    exact coherent.approval
  · show Buckets.Coherent _ _ s'.pendingQuestions
    rw [kept.questions]
    exact coherent.question

theorem Settlements.after (kept : Kept s mid) (settlements : Settlements mid effs s') : Settlements s effs s' :=
  settlements.transport kept.approvals kept.questions rfl rfl

variable {sid : SessionID}

theorem evictRootFrame_settlements (coherent : s.Coherent) {sess : Session D} {disposition : RootDisposition} :
    Settlements s (evictRootFrame d s sid sess kill disposition).2
      (evictRootFrame d s sid sess kill disposition).1 := by
  have kept : Kept s (disposition.dispose s sid sess) := by cases disposition <;> exact ⟨rfl, rfl, rfl, rfl, rfl⟩
  have reaped := (cancelForSession_settlements (d := d) (kept.coherent coherent) sid (forall_mem_nil _)).after kept
  have silent : ∀ e ∈ teardownAll (truncateFrames sess 0) kill ++
      [Effect.persistSnapshot, .broadcastSessionsChanged], e.settles = false := by
    rw [teardownAll_eq]
    exact forall_mem_append.mpr ⟨teardownOf_silent, refresh_silent⟩
  have padded := reaped.pad (forall_mem_nil _) silent
  simpa [append_assoc] using padded

theorem storeChild_settlements (coherent : s.Coherent) {rest : Session D} {fid : FrameID} :
    Settlements s (storeChild d s sid rest fid fid kill).2 (storeChild d s sid rest fid fid kill).1 := by
  have kept : Kept s { s with sessions := s.sessions.set sid rest } := ⟨rfl, rfl, rfl, rfl, rfl⟩
  have torn : ∀ e ∈ (teardownOf [fid] kill : List (Effect D)), e.settles = false := teardownOf_silent
  have silent : ∀ e ∈ (frameTeardownEffects fid kill : List (Effect D)), e.settles = false := by simpa using torn
  have reaped := (cancelForFrame_settlements (d := d) (kept.coherent coherent) fid silent).after kept
  have padded := reaped.pad (forall_mem_nil _) refresh_silent
  simpa using padded

/-- A step that leaves the requests alone and says nothing about them. -/
structure Still (s : State D) (effs : List (Effect D)) (s' : State D) : Prop where
  sameApprovals : approvals.store s' = approvals.store s
  sameQuestions : questions.store s' = questions.store s
  silent : ∀ e ∈ effs, e.settles = false

theorem Still.of_kept (kept : Kept s s') (silent : ∀ e ∈ effs, e.settles = false) : Still s effs s' :=
  ⟨kept.approvals, kept.questions, silent⟩

inductive Settling (env : Env D) (d : Draw) (s : State D) (ev : Event D) :
    State D → List (Effect D) → Prop where
  | subsystem {e : EvSubsystem D} {mid : State D} {raws pushed tail : List (Effect D)}
      {signals : GoMap SessionID Nat} (driven : Driven env d s mid raws pushed)
      (effects : ∀ e ∈ tail, Ordinary env ev e) :
      Settling env d s ev { (reduceHumanInput d mid e).1 with statusSignals := signals }
        (pushed ++ (reduceHumanInput d mid e).2 ++ tail)
  | evictRoot {fid : FrameID} {kill : Bool} {disposition : RootDisposition} {sid : SessionID}
      {sess : Session D} (evicts : ev.evicts = some (fid, kill, disposition))
      (found : findFrame d s fid = some (sid, sess, 0)) :
      Settling env d s ev (evictRootFrame d s sid sess kill disposition).1
        ((evictRootFrame d s sid sess kill disposition).2 ++ ev.failureReply)
  | evictChild {fid : FrameID} {kill : Bool} {disposition : RootDisposition} {sid : SessionID}
      {sess rest : Session D} {i : Nat} (evicts : ev.evicts = some (fid, kill, disposition))
      (found : findFrame d s fid = some (sid, sess, i)) (child : i ≠ 0)
      (left : rest.node = sess.node.evict fid) : Settling env d s ev (storeChild d s sid rest fid fid kill).1
        ((storeChild d s sid rest fid fid kill).2 ++ ev.failureReply)
  | approval {connID : ConnID} {reqID id : String} {change : ApprovalRequest → ApprovalRequest}
      {reply : ApprovalRequest → Effect D} (settles : (approvals : RequestKind D _).Settles change)
      (loud : ∀ r, (approvals : RequestKind D _).silent (change r) = false)
      (isReply : approvals.IsReply reply) : Settling env d s ev (approvals.commit d s connID reqID id change reply).1
        (approvals.commit d s connID reqID id change reply).2
  | question {connID : ConnID} {reqID id : String} {change : QuestionRequest → QuestionRequest}
      {reply : QuestionRequest → Effect D} (settles : (questions : RequestKind D _).Settles change)
      (loud : ∀ q, (questions : RequestKind D _).silent (change q) = false)
      (isReply : questions.IsReply reply) : Settling env d s ev (questions.commit d s connID reqID id change reply).1
        (questions.commit d s connID reqID id change reply).2
  | tick {mid : State D} {now : Time} {before after : List (Effect D)} (kept : Kept s mid)
      (effectsBefore : ∀ e ∈ before, Ordinary env ev e)
      (effectsAfter : ∀ e ∈ after, Ordinary env ev e) :
      Settling env d s ev (expirePendingQuestions d (expirePendingApprovals d mid now).1 now).1
        (before ++ (expirePendingApprovals d mid now).2 ++
          (expirePendingQuestions d (expirePendingApprovals d mid now).1 now).2 ++ after)

theorem Action.still_or_settling (discreet : env.Discreet) (action : Action env d s ev s' effs) :
    Still s effs s' ∨ Settling env d s ev s' effs := by
  cases action with
  | subsystem _ driven effects => exact .inr (.subsystem driven effects)
  | evictRoot evicts found => exact .inr (.evictRoot evicts found)
  | evictChild evicts found child left => exact .inr (.evictChild evicts found child left)
  | approval _ _ settles loud isReply => exact .inr (.approval settles loud isReply)
  | question _ _ settles loud isReply => exact .inr (.question settles loud isReply)
  | tick _ kept _ effectsBefore effectsAfter => exact .inr (.tick kept effectsBefore effectsAfter)
  | quiet _ kept _ effects | select _ _ _ kept _ effects | publish _ _ _ kept _ effects =>
    exact .inl (.of_kept kept fun e mem => (effects e mem).silent discreet)
  | refuse => exact .inl ⟨rfl, rfl, forall_mem_singleton.mpr rfl⟩
  | create _ _ kept => exact .inl (.of_kept kept (forall_mem_singleton.mpr rfl))
  | push _ _ _ kept => exact .inl (.of_kept kept (forall_mem_singleton.mpr rfl))
  | hook _ driven effects =>
    exact .inl (.of_kept driven.kept (forall_mem_append.mpr
      ⟨driven.silent discreet, fun e mem => (effects e mem).silent discreet⟩))
  | stop =>
    refine .inl ⟨rfl, rfl, ?_⟩
    rw [teardownAll_eq]
    refine forall_mem_append.mpr ⟨forall_mem_append.mpr ⟨forall_mem_singleton.mpr rfl, teardownOf_silent⟩, ?_⟩
    exact forall_mem_cons.mpr ⟨rfl, forall_mem_singleton.mpr rfl⟩
  | gone => exact .inl ⟨rfl, rfl, failureReply_silent⟩
  | register _ _ kept _ fromDriver =>
    exact .inl (.of_kept kept (forall_mem_append.mpr
      ⟨fun e mem => discreet.fromDriver (fromDriver e mem), spawnedEffects_silent⟩))
  | late => exact .inl ⟨rfl, rfl, forall_mem_nil _⟩
  | release _ _ kept _ fromDriver =>
    exact .inl (.of_kept kept (forall_mem_append.mpr
      ⟨fun e mem => discreet.fromDriver (fromDriver e mem), forall_mem_singleton.mpr rfl⟩))
  | shutdown =>
    obtain ⟨sameApprovals, sameQuestions⟩ := (reduceShutdown_frozen _ _).requests
    refine .inl ⟨sameApprovals, sameQuestions, ?_⟩
    intro e mem
    rw [mem_reduceShutdown mem]
    rfl

theorem Settling.settlements (discreet : env.Discreet) (coherent : s.Coherent)
    (settling : Settling env d s ev s' effs) : Settlements s effs s' := by
  cases settling with
  | @subsystem e _ _ _ _ _ driven effects =>
    have filed := (reduceHumanInput_filed d _ e).settlements (driven.kept.coherent coherent)
    have padded := (filed.after driven.kept).pad (driven.silent discreet)
      fun e mem => (effects e mem).silent discreet
    exact padded.transport rfl rfl rfl rfl
  | evictRoot => exact (evictRootFrame_settlements coherent).pad (forall_mem_nil _) failureReply_silent
  | evictChild => exact (storeChild_settlements coherent).pad (forall_mem_nil _) failureReply_silent
  | approval settles loud isReply =>
    exact .ofApprovals coherent (approvals_lawful.commit_touches d s _ _ _ _ _)
      (commit_progress approvals_lawful coherent.approval d _ _ _ settles loud isReply)
      (commit_forall (fun _ _ _ => ⟨rfl, rfl, rfl⟩) ⟨rfl, rfl, rfl⟩
        (approvals_reply_mute isReply) (fun _ => ⟨rfl, rfl, rfl⟩) _ _)
  | question settles loud isReply =>
    exact .ofQuestions coherent (questions_lawful.commit_touches d s _ _ _ _ _)
      (commit_progress questions_lawful coherent.question d _ _ _ settles loud isReply)
      (commit_forall (fun _ _ _ => ⟨rfl, rfl, rfl⟩) ⟨rfl, rfl, rfl⟩
        (questions_reply_mute isReply) (fun _ => ⟨rfl, rfl, rfl⟩) _ _)
  | @tick _ now _ _ kept effectsBefore effectsAfter =>
    have expired := (expirePending_settlements (d := d) (kept.coherent coherent) now).after kept
    have padded := expired.pad (fun e mem => (effectsBefore e mem).silent discreet)
      fun e mem => (effectsAfter e mem).silent discreet
    simpa [append_assoc] using padded

theorem Admitted.silent (admitted : Admitted s ev s' effs) : ∀ e ∈ effs, e.settles = false := by
  intro e mem
  rcases admitted.origin mem with traffic | addressed | closes
  · cases e <;> first | rfl | cases traffic
  · cases e <;> first | rfl | cases addressed
  · cases e <;> first | rfl | cases closes

theorem Step.settlements (discreet : env.Discreet) (coherent : s.Coherent)
    (step : Step env s (ev, effs) s') : Settlements s effs s' := by
  rcases step.cases with ⟨_, d, _, action⟩ | ⟨_, admitted⟩
  · rcases action.still_or_settling discreet with still | settling
    · exact .still coherent still.sameApprovals still.sameQuestions still.silent
    · exact settling.settlements discreet coherent
  · obtain ⟨sameApprovals, sameQuestions⟩ := admitted.frozen.requests
    exact .still coherent sameApprovals sameQuestions admitted.silent

/-! ## Runs -/

namespace RequestKind

variable {R : Type}

/-- The requests of a kind after a run: each is filed under its own id in the bucket of its own
session, in no other bucket, and was announced as resolved as often as it was filed unless it is
pending. -/
structure Ledger (k : RequestKind D R) (labels : List (Event D × List (Effect D)))
    (s : State D) : Prop where
  coherent : k.Coherent s
  balance : ∀ id, (labels.map fun label => k.announcements id label.2).sum +
      (Turn.isOpen k.isPending ((k.store s).record id)).toNat =
    (labels.map fun label => k.openings id label.2).sum

/-- The first writer wins: a settled request never changes, a request that is still pending has
not changed, and the step that settles a request announces it once and answers it once, unless it
was settled on the driver's side. -/
structure FirstWins (k : RequestKind D R) (s : State D) (effs : List (Effect D))
    (s' : State D) : Prop where
  settled : ∀ id r r', (k.store s).record id = some r → (k.store s').record id = some r' →
    k.isPending r = false → r' = r
  pending : ∀ id r r', (k.store s).record id = some r → (k.store s').record id = some r' →
    k.isPending r' = true → r' = r
  announced : ∀ id, k.announcements id effs =
    if Turn.leaves k.isPending ((k.store s).record id) ((k.store s').record id) then 1 else 0
  answered : ∀ id, k.replies id effs = if Turn.leaves k.isPending ((k.store s).record id) ((k.store s').record id) &&
      !((k.store s').record id).any k.silent then 1 else 0

variable {k : RequestKind D R} {labels : List (Event D × List (Effect D))}

theorem Progress.firstWins (progress : k.Progress (k.store s) (k.store s') effs) : k.FirstWins s effs s' := by
  constructor
  · intro id r r' before after settled
    have turn := progress.turn id
    rw [before, after] at turn
    exact turn.settled_fixed settled
  · intro id r r' before after still
    have turn := progress.turn id
    rw [before, after] at turn
    exact turn.pending_fixed still
  · intro id
    exact (progress.turn id).announced_eq
  · intro id
    exact (progress.turn id).answered_eq

theorem Ledger.snoc (ledger : k.Ledger labels s)
    (progress : k.Progress (k.store s) (k.store s') effs) : k.Ledger (labels ++ [(ev, effs)]) s' := by
  refine ⟨progress.coherent, ?_⟩
  intro id
  have balance := ledger.balance id
  have turn := (progress.turn id).balance
  simp only [map_append, map_cons, map_nil, sum_append, sum_cons, sum_nil]
  omega

variable {id : String} {r : R} {sid : SessionID}

theorem commit_settled {connID : ConnID} {reqID : String} {change : R → R} {reply : R → Effect D}
    (found : k.find d s id = some (r, sid)) (settled : k.isPending r = false) :
    k.commit d s connID reqID id change reply = (s, [k.resolvedByOtherError connID reqID r]) := by
  simp [commit, found, settled]

theorem ne_of_find (found : k.find d s id = some (r, sid)) : id ≠ "" := by
  rintro rfl
  simp [find] at found

end RequestKind

theorem HostRun.ledgers (discreet : env.Discreet) {cfg : Config}
    {labels : List (Event D × List (Effect D))} (run : HostRun env cfg labels s) :
    approvals.Ledger labels s ∧ questions.Ledger labels s := by
  refine Run.history (fun labels s => approvals.Ledger labels s ∧ questions.Ledger labels s) ?_ ?_ run
  · exact ⟨⟨.empty, fun _ => rfl⟩, ⟨.empty, fun _ => rfl⟩⟩
  · rintro labels s ⟨ev, effs⟩ s' _ ⟨approval, question⟩ step
    have settlements := step.settlements discreet ⟨approval.coherent, question.coherent⟩
    exact ⟨approval.snoc settlements.approval, question.snoc settlements.question⟩

/-! ## The second writer -/

/-- What a client hears about a request: the answer of the running daemon, or that the daemon is
shutting down. -/
def State.answerTo (s : State D) (connID : ConnID) (reqID : String) (answer : Effect D) : Effect D :=
  if s.lifecycle = .quiescing then unavailable connID reqID else answer

/-- The answer to a decision about a settled approval: a decision that is neither accept nor deny
is refused before the approval is looked up. -/
def lateDecision (e : EvApprovalRespond) (r : ApprovalRequest) : Effect D :=
  if e.decision ≠ .accept ∧ e.decision ≠ .deny then
    errResp e.connID e.reqID errCodeInvalidArgument "decision must be accept or deny"
  else approvals.resolvedByOtherError e.connID e.reqID r

theorem reduce_answerTo {connID : ConnID} {reqID : String} {answer : Effect D}
    (running : reduceRunning env d s ev = .ok (s, [answer]))
    (quiescing : reduceQuiescing env d s ev = .ok (s, [unavailable connID reqID])) :
    reduce env d s ev = .ok (s, [s.answerTo connID reqID answer]) := by
  unfold reduce State.answerTo
  cases s.lifecycle with
  | running => exact running
  | quiescing => exact quiescing

variable {r : ApprovalRequest}

theorem reduceApprovalRespond_late {e : EvApprovalRespond} (found : approvals.find d s e.approvalID = some (r, sid))
    (settled : (approvals (D := D)).isPending r = false) : reduceApprovalRespond d s e = (s, [lateDecision e r]) := by
  rw [reduceApprovalRespond, lateDecision, if_neg (ne_of_find found), commit_settled found settled]
  split <;> rfl

theorem reduceApprovalCancel_late {e : EvApprovalCancel} (found : approvals.find d s e.approvalID = some (r, sid))
    (settled : (approvals (D := D)).isPending r = false) :
    reduceApprovalCancel d s e = (s, [approvals.resolvedByOtherError e.connID e.reqID r]) := by
  rw [reduceApprovalCancel, if_neg (ne_of_find found), commit_settled found settled]

variable {q : QuestionRequest}

theorem reduceQuestionRespond_late {e : EvQuestionRespond} (found : questions.find d s e.questionID = some (q, sid))
    (settled : (questions (D := D)).isPending q = false) :
    reduceQuestionRespond d s e = (s, [questions.resolvedByOtherError e.connID e.reqID q]) := by
  rw [reduceQuestionRespond, if_neg (ne_of_find found), commit_settled found settled]

theorem reduceQuestionCancel_late {e : EvQuestionCancel} (found : questions.find d s e.questionID = some (q, sid))
    (settled : (questions (D := D)).isPending q = false) :
    reduceQuestionCancel d s e = (s, [questions.resolvedByOtherError e.connID e.reqID q]) := by
  rw [reduceQuestionCancel, if_neg (ne_of_find found), commit_settled found settled]

/-- Over every run, requests of both kinds are kept in a ledger, the first writer wins in every
step, and a client that comes second changes nothing and is told who won, unless its decision is
invalid or the daemon is shutting down. -/
theorem requests_settle_once (discreet : env.Discreet) {cfg : Config}
    {labels : List (Event D × List (Effect D))} (run : HostRun env cfg labels s) :
    (approvals.Ledger labels s ∧ questions.Ledger labels s) ∧
    (∀ ev effs s', Step env s (ev, effs) s' → approvals.FirstWins s effs s' ∧ questions.FirstWins s effs s') ∧
    (∀ (d : Draw) (id : String) (r : ApprovalRequest) (sid : SessionID),
      approvals.find d s id = some (r, sid) → (approvals (D := D)).isPending r = false →
      (∀ e : EvApprovalRespond, e.approvalID = id → reduce env d s (.approvalRespond e) =
        .ok (s, [s.answerTo e.connID e.reqID (lateDecision e r)])) ∧
      ∀ e : EvApprovalCancel, e.approvalID = id → reduce env d s (.approvalCancel e) =
        .ok (s, [s.answerTo e.connID e.reqID (approvals.resolvedByOtherError e.connID e.reqID r)])) ∧
    ∀ (d : Draw) (id : String) (q : QuestionRequest) (sid : SessionID),
      questions.find d s id = some (q, sid) → (questions (D := D)).isPending q = false →
      (∀ e : EvQuestionRespond, e.questionID = id → reduce env d s (.questionRespond e) =
        .ok (s, [s.answerTo e.connID e.reqID (questions.resolvedByOtherError e.connID e.reqID q)])) ∧
      ∀ e : EvQuestionCancel, e.questionID = id → reduce env d s (.questionCancel e) =
        .ok (s, [s.answerTo e.connID e.reqID (questions.resolvedByOtherError e.connID e.reqID q)]) := by
  have ledgers := run.ledgers discreet
  refine ⟨ledgers, ?_, ?_, ?_⟩
  · intro ev effs s' step
    have settlements := step.settlements discreet ⟨ledgers.1.coherent, ledgers.2.coherent⟩
    exact ⟨settlements.approval.firstWins, settlements.question.firstWins⟩
  · rintro d id r sid found settled
    constructor
    · rintro e rfl
      exact reduce_answerTo (congrArg Except.ok (reduceApprovalRespond_late found settled)) rfl
    · rintro e rfl
      exact reduce_answerTo (congrArg Except.ok (reduceApprovalCancel_late found settled)) rfl
  · rintro d id q sid found settled
    constructor
    · rintro e rfl
      exact reduce_answerTo (congrArg Except.ok (reduceQuestionRespond_late found settled)) rfl
    · rintro e rfl
      exact reduce_answerTo (congrArg Except.ok (reduceQuestionCancel_late found settled)) rfl

/-- The approval `p` was accepted by the client `me`; a cancel that comes later changes nothing and
hears so. -/
theorem accepted_approval_stays_accepted : ∃ (labels : List (Event Unit × List (Effect Unit))) (s : State Unit),
      HostRun Env.inert {} labels s ∧ s.lifecycle = .running ∧ approvals.Ledger labels s ∧ questions.Ledger labels s ∧
      ∀ d : Draw, reduce Env.inert d s (.approvalCancel ⟨2, "r", "a", "p", "you"⟩) =
        .ok (s, [.sendError 2 "r" errCodeResolvedByOther "approval already resolved by another client"
          [("decision", "accept"), ("resolving_client_instance_id", "me"),
            ("resolution_reason", "client"), ("status", "resolved")]]) := by
  have run := replay_hostRun Env.inert {} [('a', .creates), ('b', .asksApproval "aa" "p"),
      ('c', .approvalRespond ⟨1, "r", "a", "p", .accept, "me"⟩)] rfl
  obtain ⟨⟨approval, question⟩, _, late, _⟩ := requests_settle_once Env.inert_discreet run
  refine ⟨_, _, run, rfl, approval, question, ?_⟩
  intro d
  have named : "p" ≠ "" := by decide
  have found := RequestKind.find_eq approval.coherent d named
  exact (late d "p" _ _ found rfl).2 _ rfl

/-- A decision that is neither accept nor deny is refused as such, also when the approval is
settled; and the quiescing daemon does not say who won. -/
theorem late_decision_not_told_winner : (∃ (s : State Unit) (r : ApprovalRequest), Reachable Env.inert s ∧
      approvals.find (Draw.tagged 'd') s "p" = some (r, "a") ∧ (approvals (D := Unit)).isPending r = false ∧
      reduce Env.inert (Draw.tagged 'd') s (.approvalRespond ⟨2, "r", "a", "p", .unset, "you"⟩) =
        .ok (s, [errResp 2 "r" errCodeInvalidArgument "decision must be accept or deny"])) ∧
    ∃ (s : State Unit) (r : ApprovalRequest), Reachable Env.inert s ∧
      approvals.find (Draw.tagged 'd') s "p" = some (r, "a") ∧ (approvals (D := Unit)).isPending r = false ∧
      reduce Env.inert (Draw.tagged 'd') s (.approvalRespond ⟨2, "r", "a", "p", .accept, "you"⟩) =
        .ok (s, [unavailable 2 "r"]) :=
  ⟨⟨_, _, replay_reachable Env.inert {} [('a', .creates), ('b', .asksApproval "aa" "p"),
          ('c', .approvalRespond ⟨1, "r", "a", "p", .accept, "me"⟩)] rfl, rfl, rfl, rfl⟩,
    _, _, replay_reachable Env.inert {} [('a', .creates), ('b', .asksApproval "aa" "p"),
          ('c', .approvalRespond ⟨1, "r", "a", "p", .accept, "me"⟩),
          ('d', .event 1 "s" (.shutdown (.ok ())))] rfl, rfl, rfl, rfl⟩

end AgentGrid.Host
