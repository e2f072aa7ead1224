import AgentGrid.Host.Settlement

/-!
# Requests and the frames that wait for them

A pending request belongs to a frame that waits for its answer.  The evictions drop
the requests of the frames they remove and answer them; stopping a session does not.
As long as no session is stopped with a request pending, every pending request has
its frame.
-/

namespace AgentGrid.Host

open AgentGrid.Lib List Option Function RequestKind State

variable {D : Type} {env : Env D} {d : Draw} {s s' : State D} {ev : Event D}
  {effs : List (Effect D)}

def State.FrameAt (s : State D) (sid : SessionID) (fid : FrameID) : Prop :=
  ∃ sess, s.sessions.get? sid = some sess ∧ fid ∈ sess.frames.map SessionFrame.id

variable {sid : SessionID} {fid : FrameID}

theorem State.frameAt_iff : s.FrameAt sid fid ↔ s.graph.At sid fid := by
  constructor
  · rintro ⟨sess, found, mem⟩
    exact ⟨sess.node, graph_of_get? found, mem⟩
  · rintro ⟨n, found, mem⟩
    obtain ⟨sess, stored, rfl⟩ := graph_eq_some.mp found
    exact ⟨sess, stored, mem⟩

namespace RequestKind

variable {R : Type} {k : RequestKind D R}

def Attended (k : RequestKind D R) (s : State D) : Prop :=
  ∀ sid id r, (k.store s).cell sid id = some r → k.isPending r = true → s.FrameAt (k.sessionID r) (k.frameID r)

def Idle (k : RequestKind D R) (s : State D) (sid : SessionID) : Prop :=
  ∀ id r, (k.store s).cell sid id = some r → k.isPending r = false

/-- A pending request whose frame is gone after the step is dropped, answered once and announced
once. -/
def Reaped (k : RequestKind D R) (s : State D) (effs : List (Effect D)) (s' : State D) : Prop :=
  ∀ sid id r, (k.store s).cell sid id = some r → k.isPending r = true → ¬ s'.FrameAt (k.sessionID r) (k.frameID r) →
      (∀ sid', (k.store s').cell sid' id = none) ∧ k.replies id effs = 1 ∧ k.announcements id effs = 1

/-- Every pending request has its frame, in terms of ids and the session graph. -/
def Homed (k : RequestKind D R) (s : State D) : Prop :=
  ∀ id r, (k.store s).record id = some r → k.isPending r = true → s.graph.At (k.sessionID r) (k.frameID r)

theorem attended_iff (coherent : k.Coherent s) : k.Attended s ↔ k.Homed s := by
  constructor
  · intro attended id r here pending
    obtain ⟨sid, filed⟩ := coherent.record_eq_some.mp here
    exact frameAt_iff.mp (attended sid id r filed pending)
  · intro homed sid id r filed pending
    exact frameAt_iff.mpr (homed id r (coherent.record_of_cell filed) pending)

/-- Every request that is pending after the step was pending before. -/
def Narrows (k : RequestKind D R) (s s' : State D) : Prop :=
  ∀ id r, (k.store s').record id = some r → k.isPending r = true → (k.store s).record id = some r

def Follows (k : RequestKind D R) (s s' : State D) : Prop :=
  ∀ id r, (k.store s).record id = some r → k.isPending r = true → s.graph.At (k.sessionID r) (k.frameID r) →
      s'.graph.At (k.sessionID r) (k.frameID r) ∨ (k.store s').record id = none

theorem Homed.next (homed : k.Homed s) (narrows : k.Narrows s s') (follows : k.Follows s s') : k.Homed s' := by
  intro id r after pending
  have before := narrows id r after pending
  rcases follows id r before pending (homed id r before pending) with stays | dropped
  · exact stays
  · cases dropped.symm.trans after

theorem Narrows.of_same (same : k.store s' = k.store s) : k.Narrows s s' := by
  intro id r after _
  rwa [same] at after

theorem Narrows.of_filter {p : R → Bool}
    (dropped : ∀ id, (k.store s').record id = ((k.store s).record id).filter p) : k.Narrows s s' := by
  intro id r after _
  rw [dropped] at after
  exact (filter_eq_some_iff.mp after).1

variable {sid : SessionID} {x : Option Node}

theorem Follows.of_idle (coherent : k.Coherent s)
    (idle : k.Idle s sid) (graph : s'.graph = Function.update s.graph sid x) : k.Follows s s' := by
  intro id r before pending held
  have filed := coherent.cell_of_record before
  by_cases here : k.sessionID r = sid
  · rw [here] at filed
    rw [idle id r filed] at pending
    cases pending
  obtain ⟨n, found, mem⟩ := held
  refine .inl ⟨n, ?_, mem⟩
  rw [graph, update_of_ne here, found]

theorem Follows.of_session (graph : s'.graph = Function.update s.graph sid x)
    (dropped : ∀ id, (k.store s').record id =
      ((k.store s).record id).filter fun r => k.sessionID r != sid) : k.Follows s s' := by
  intro id r before _ held
  by_cases here : k.sessionID r = sid
  · refine .inr ?_
    rw [dropped, before]
    simp [filter_some, here]
  obtain ⟨n, found, mem⟩ := held
  refine .inl ⟨n, ?_, mem⟩
  rw [graph, update_of_ne here, found]

theorem Follows.of_frame {n : Node} (found : s.graph sid = some n)
    (graph : s'.graph = Function.update s.graph sid (some (n.evict fid))) (dropped : ∀ id, (k.store s').record id =
      ((k.store s).record id).filter fun r => !k.ownedBy fid r) : k.Follows s s' := by
  intro id r before pending held
  by_cases own : k.frameID r = fid
  · refine .inr ?_
    rw [dropped, before]
    simp [filter_some, ownedBy, pending, own]
  refine .inl ?_
  rw [graph]
  refine held.update ?_
  intro old stored mem
  cases found.symm.trans stored
  rw [Node.evict_frames]
  exact (mem_erase_of_ne own).mpr mem

end RequestKind

/-! ## Evictions -/

variable {kill : Bool}

/-- The requests that remain are those of before that pass. -/
abbrev Filtered (s s' : State D) (keep : {R : Type} → RequestKind D R → R → Bool) : Prop :=
  (∀ id, (approvals.store s').record id = ((approvals.store s).record id).filter (keep approvals)) ∧
    ∀ id, (questions.store s').record id = ((questions.store s).record id).filter (keep questions)

theorem filtered_of_kept {base mid : State D} {keep : {R : Type} → RequestKind D R → R → Bool} (kept : Kept s base)
    (first : approvals.Touches base mid) (later : questions.Touches mid s')
    (approval : ∀ id, (approvals.store mid).record id = ((approvals.store base).record id).filter (keep approvals))
    (question : ∀ id, (questions.store s').record id = ((questions.store mid).record id).filter (keep questions)) :
    Filtered s s' keep := by
  constructor <;> intro id
  · rw [questions_keep_approvals later, approval, show approvals.store base = approvals.store s from kept.approvals]
  · rw [question, approvals_keep_questions first, show questions.store base = questions.store s from kept.questions]

theorem evictRootFrame_record (coherent : s.Coherent) (named : sid ≠ "") {sess : Session D}
    {disposition : RootDisposition} :
    Filtered s (evictRootFrame d s sid sess kill disposition).1 fun k r => k.sessionID r != sid := by
  have kept : Kept s (disposition.dispose s sid sess) := by cases disposition <;> exact ⟨rfl, rfl, rfl, rfl, rfl⟩
  have base := kept.coherent coherent
  have touches := approvals_lawful.cancelForSession_touches d (disposition.dispose s sid sess) sid
  exact filtered_of_kept kept touches (questions_lawful.cancelForSession_touches d _ sid)
    (cancelForSession_record approvals_lawful base.approval d named).2
    (cancelForSession_record questions_lawful (base.question_of_touches touches) d named).2

theorem storeChild_record (coherent : s.Coherent) {rest : Session D} (named : fid ≠ "") :
    Filtered s (storeChild d s sid rest fid fid kill).1 fun k r => !k.ownedBy fid r := by
  have kept : Kept s { s with sessions := s.sessions.set sid rest } := ⟨rfl, rfl, rfl, rfl, rfl⟩
  have base := kept.coherent coherent
  have touches := approvals_lawful.cancelForFrame_touches d { s with sessions := s.sessions.set sid rest } fid
  exact filtered_of_kept kept touches (questions_lawful.cancelForFrame_touches d _ fid)
    (cancelForFrame_record approvals_lawful base.approval d named).2
    (cancelForFrame_record questions_lawful (base.question_of_touches touches) d named).2

/-! ## One step -/

/-- The event does not stop a session that has a request pending. -/
def Event.SparesPending (s : State D) : Event D → Prop
  | .event _ _ (.stopSession (.ok sid)) => s.lifecycle = .running → approvals.Idle s sid ∧ questions.Idle s sid
  | _ => True

structure State.Homed (s : State D) : Prop where
  approval : approvals.Homed s
  question : questions.Homed s

section Sparing

variable (coherent : s.Coherent)

include coherent

theorem Removes.follows (wf : s.graph.WF) (running : s.lifecycle = .running)
    (spares : ev.SparesPending s) (removes : Removes d s ev s' effs) :
    approvals.Follows s s' ∧ questions.Follows s s' := by
  cases removes with
  | @stop _ _ sid sess asked found =>
    subst asked
    obtain ⟨approval, question⟩ := spares running
    have graph := graph_set s { s with sessions := s.sessions.set sid (endSession sess s.now) } sid _ rfl
    exact ⟨.of_idle coherent.approval approval graph, .of_idle coherent.question question graph⟩
  | root _ found =>
    obtain ⟨stored, _⟩ := findFrame_holds found
    obtain ⟨approval, question⟩ := evictRootFrame_record coherent (wf.named stored)
    exact ⟨.of_session (evictRootFrame_graph ..) approval, .of_session (evictRootFrame_graph ..) question⟩
  | @child fid kill _ sid sess rest _ _ found _ left =>
    obtain ⟨stored, held⟩ := findFrame_holds found
    obtain ⟨approval, question⟩ := storeChild_record coherent ((wf.node stored).frames_named _ held)
    have graph : (storeChild d s sid rest fid fid kill).1.graph =
        Function.update s.graph sid (some (sess.node.evict fid)) := by
      rw [storeChild_graph, left]
    exact ⟨.of_frame stored graph approval, .of_frame stored graph question⟩

theorem Action.follows (fresh : d.Fresh s) (wf : s.graph.WF) (running : s.lifecycle = .running)
    (spares : ev.SparesPending s) (action : Action env d s ev s' effs) :
    approvals.Follows s s' ∧ questions.Follows s s' := by
  by_cases removes : Removes d s ev s' effs
  · exact removes.follows coherent wf running spares
  constructor
  all_goals
    intro id r _ _ held
    exact .inl ((action.keeps fresh held).resolve_right removes)

end Sparing

theorem narrows_of_kept (kept : Kept s s') : approvals.Narrows s s' ∧ questions.Narrows s s' :=
  ⟨.of_same kept.approvals, .of_same kept.questions⟩

variable {R : Type}

variable {k : RequestKind D R}

theorem RequestKind.commit_narrows (lawful : k.Lawful) (coherent : k.Coherent s) {connID : ConnID} {reqID id : String}
    {change : R → R} {reply : R → Effect D} (settles : k.Settles change)
    (loud : ∀ r, k.silent (change r) = false) (isReply : k.IsReply reply) :
    k.Narrows s (k.commit d s connID reqID id change reply).1 := by
  intro i r
  refine (commit_progress lawful coherent d connID reqID id settles loud isReply).narrows ?_
  exact commit_forall (fun _ _ _ => (lawful.mute rfl).2.1) (lawful.mute rfl).2.1 (fun r => (isReply r).2.1)
    (fun r => (lawful.resolved r).2.1) id change

theorem expirePending_narrows (coherent : s.Coherent) (now : Time) :
    approvals.Narrows s (expirePendingQuestions d (expirePendingApprovals d s now).1 now).1 ∧
      questions.Narrows s (expirePendingQuestions d (expirePendingApprovals d s now).1 now).1 := by
  have settlements := expirePending_settlements (d := d) coherent now
  constructor
  · intro id r
    refine settlements.approval.narrows (forall_mem_append.mpr ⟨?_, ?_⟩)
    all_goals exact expirePending_forall (fun _ => rfl) (fun _ => rfl) now
  · intro id q
    refine settlements.question.narrows (forall_mem_append.mpr ⟨?_, ?_⟩)
    all_goals exact expirePending_forall (fun _ => rfl) (fun _ => rfl) now

theorem Settling.narrows (coherent : s.Coherent) (wf : s.graph.WF) (settling : Settling env d s ev s' effs) :
    (approvals.Narrows s s' ∧ questions.Narrows s s') ∨ ∃ e mid raws pushed signals, Driven env d s mid raws pushed ∧
        s' = { (reduceHumanInput d mid e).1 with statusSignals := signals } := by
  cases settling with
  | subsystem driven => exact .inr ⟨_, _, _, _, _, driven, rfl⟩
  | evictRoot _ found =>
    obtain ⟨approval, question⟩ := evictRootFrame_record coherent (wf.named (findFrame_holds found).1)
    exact .inl ⟨.of_filter approval, .of_filter question⟩
  | evictChild _ found =>
    obtain ⟨stored, held⟩ := findFrame_holds found
    obtain ⟨approval, question⟩ := storeChild_record coherent ((wf.node stored).frames_named _ held)
    exact .inl ⟨.of_filter approval, .of_filter question⟩
  | approval settles loud isReply =>
    exact .inl ⟨commit_narrows approvals_lawful coherent.approval settles loud isReply,
      .of_same (approvals_keep_questions (approvals_lawful.commit_touches d s _ _ _ _ _))⟩
  | question settles loud isReply =>
    exact .inl ⟨.of_same (questions_keep_approvals (questions_lawful.commit_touches d s _ _ _ _ _)),
        commit_narrows questions_lawful coherent.question settles loud isReply⟩
  | @tick _ now _ _ kept _ _ =>
    obtain ⟨approval, question⟩ := expirePending_narrows (kept.coherent coherent) now
    obtain ⟨sameApprovals, sameQuestions⟩ := narrows_of_kept kept
    refine .inl ⟨fun id r after pending => ?_, fun id q after pending => ?_⟩
    · exact sameApprovals id r (approval id r after pending) pending
    · exact sameQuestions id q (question id q after pending) pending

variable {r : R}

theorem RequestKind.Homed.insert (lawful : k.Lawful) (homed : k.Homed s) (coherent : k.Coherent s)
    (unused : (k.store s).record (k.id r) = none) (held : s.graph.At (k.sessionID r) (k.frameID r))
    (graph : (k.put s r).graph = s.graph) : k.Homed (k.put s r) := by
  intro id x after pending
  rw [graph]
  rw [(insert_record lawful coherent unused).2] at after
  split at after
  · cases after
    exact held
  · exact homed id x after pending

theorem RequestKind.put_narrows {r' : R} (lawful : k.Lawful) (coherent : k.Coherent s)
    (here : (k.store s).record (k.id r) = some r) (same : k.SameRequest r' r)
    (settled : k.isPending r' = false) : k.Narrows s (k.put s r') := by
  intro id x after pending
  rw [(put_record lawful coherent here same).2] at after
  split at after
  · cases after
    cases settled.symm.trans pending
  · exact after

theorem RequestKind.Homed.stay (homed : k.Homed s) (graph : s'.graph = s.graph)
    (narrows : k.Narrows s s') : k.Homed s' := by
  refine homed.next narrows ?_
  intro id x _ _ held
  rw [graph]
  exact .inl held

theorem Filed.homed {e : EvSubsystem D} {r : Reduced D} (filed : Filed d s e r)
    (coherent : s.Coherent) (homed : s.Homed) : r.1.Homed := by
  have graph := filed.requestsOnly.graph
  cases filed with
  | nothing => exact homed
  | @approval a sid sess i found named unused =>
    have free := record_of_find_none coherent.approval named unused
    have held : s.graph.At sid e.frameID := ⟨_, findFrame_holds found⟩
    exact ⟨homed.approval.insert approvals_lawful coherent.approval
      free held graph, homed.question.stay graph (.of_same rfl)⟩
  | @autoApproval a sid sess i found named unused =>
    have free := record_of_find_none coherent.approval named unused
    have held : s.graph.At sid e.frameID := ⟨_, findFrame_holds found⟩
    have filedGraph : (putApproval s (newApproval s e a sid)).graph = s.graph :=
      (RequestsOnly.ofApprovals (approvals_lawful.touches_withStore s _)).graph
    have first := homed.approval.insert (r := newApproval s e a sid) approvals_lawful
      coherent.approval free held filedGraph
    obtain ⟨kept, records⟩ := insert_record (r := newApproval s e a sid) approvals_lawful coherent.approval free
    have here := (records a.id).trans (if_pos rfl)
    have settles : approvals.Narrows (putApproval s (newApproval s e a sid)) (putApproval
        (putApproval s (newApproval s e a sid)) (autoApproved (newApproval s e a sid))) :=
      put_narrows (r := newApproval s e a sid) approvals_lawful kept here ⟨rfl, rfl, rfl⟩ rfl
    exact ⟨first.stay (graph.trans filedGraph.symm) settles, homed.question.stay graph (.of_same rfl)⟩
  | @question qp sid sess i found named unused =>
    have free := record_of_find_none coherent.question named unused
    have held : s.graph.At sid e.frameID := ⟨_, findFrame_holds found⟩
    exact ⟨homed.approval.stay graph (.of_same rfl), homed.question.insert
      questions_lawful coherent.question free held graph⟩
  | approvalResolved id =>
    have progress := resolveFromSubsystem_progress approvals_lawful coherent.approval d id
    refine ⟨homed.approval.stay graph fun i x => progress.narrows ?_,
      homed.question.stay graph (.of_same (approvals_keep_questions
        (approvals_lawful.resolveFromSubsystem_touches d s id)))⟩
    exact resolveFromSubsystem_forall (fun _ => rfl) id
  | questionResolved id =>
    have progress := resolveFromSubsystem_progress questions_lawful coherent.question d id
    refine ⟨homed.approval.stay graph (.of_same (questions_keep_approvals
        (questions_lawful.resolveFromSubsystem_touches d s id))),
      homed.question.stay graph fun i x => progress.narrows ?_⟩
    exact resolveFromSubsystem_forall (fun _ => rfl) id

theorem Action.homed (discreet : env.Discreet) (coherent : s.Coherent) (fresh : d.Fresh s)
    (wf : s.graph.WF) (running : s.lifecycle = .running) (spares : ev.SparesPending s)
    (homed : s.Homed) (action : Action env d s ev s' effs) : s'.Homed := by
  obtain ⟨followApprovals, followQuestions⟩ := action.follows coherent fresh wf running spares
  rcases action.still_or_settling discreet with still | settling
  · exact ⟨homed.approval.next (.of_same still.sameApprovals) followApprovals,
      homed.question.next (.of_same still.sameQuestions) followQuestions⟩
  rcases settling.narrows coherent wf with
    ⟨approval, question⟩ | ⟨e, mid, raws, pushed, signals, driven, rfl⟩
  · exact ⟨homed.approval.next approval followApprovals, homed.question.next question followQuestions⟩
  obtain ⟨approval, question⟩ := narrows_of_kept driven.kept
  have moved : mid.Homed := ⟨homed.approval.next approval fun id r _ _ held =>
      .inl (driven.pushed.keeps held), homed.question.next question fun id q _ _ held =>
      .inl (driven.pushed.keeps held)⟩
  obtain ⟨filedApprovals, filedQuestions⟩ :=
    (reduceHumanInput_filed d mid e).homed (driven.kept.coherent coherent) moved
  exact ⟨filedApprovals, filedQuestions⟩

/-! ## Runs -/

def SparingStep (env : Env D) (s : State D) (label : Event D × List (Effect D)) (s' : State D) :
    Prop :=
  Step env s label s' ∧ label.1.SparesPending s

structure State.InCare (s : State D) : Prop where
  wf : s.graph.WF
  coherent : s.Coherent
  homed : s.Homed

theorem SparingStep.homed (discreet : env.Discreet) (step : SparingStep env s (ev, effs) s')
    (order : s.InCare) : s'.Homed := by
  rcases Step.cases step.1 with ⟨running, d, fresh, action⟩ | ⟨_, admitted⟩
  · exact action.homed discreet order.coherent fresh order.wf running step.2 order.homed
  obtain ⟨sameApprovals, sameQuestions⟩ := admitted.frozen.requests
  exact ⟨order.homed.approval.stay admitted.graph (.of_same sameApprovals),
    order.homed.question.stay admitted.graph (.of_same sameQuestions)⟩

theorem SparingRun.inCare (discreet : env.Discreet) {cfg : Config} {labels : List (Event D × List (Effect D))}
    (run : Run (SparingStep env) (State.new cfg) labels s) : s.InCare := by
  refine Run.invariant State.InCare ?_ ?_ run
  · refine ⟨Graph.WF.empty, ⟨.empty, .empty⟩, ?_, ?_⟩
    · rintro id r ⟨⟩
    · rintro id q ⟨⟩
  · rintro s ⟨ev, effs⟩ s' order step
    exact ⟨step.1.graph_wf order.wf, (step.1.settlements discreet order.coherent).coherent, step.homed discreet order⟩

theorem SparingStep.follows (step : SparingStep env s (ev, effs) s') (order : s.InCare) :
    approvals.Follows s s' ∧ questions.Follows s s' := by
  rcases Step.cases step.1 with ⟨running, d, fresh, action⟩ | ⟨_, admitted⟩
  · exact action.follows order.coherent fresh order.wf running step.2
  have graph := admitted.graph
  constructor
  · intro id r _ _ held
    rw [graph]
    exact .inl held
  · intro id q _ _ held
    rw [graph]
    exact .inl held

namespace RequestKind

variable {R : Type} {k : RequestKind D R}

theorem Homed.reaped (homed : k.Homed s) (coherent : k.Coherent s) (follows : k.Follows s s')
    (progress : k.Progress (k.store s) (k.store s') effs) : k.Reaped s effs s' := by
  intro sid id r filed pending gone
  have here := coherent.record_of_cell filed
  have dropped := (follows id r here pending (homed id r here pending)).resolve_left
    fun still => gone (frameAt_iff.mpr still)
  have wins := progress.firstWins
  refine ⟨progress.coherent.record_eq_none.mp dropped, ?_, ?_⟩
  · rw [wins.answered, here, dropped]
    simp [Turn.leaves, Turn.isOpen, pending]
  · rw [wins.announced, here, dropped]
    simp [Turn.leaves, Turn.isOpen, pending]

theorem Homed.idle (homed : k.Homed s) (coherent : k.Coherent s)
    (left : k.Homed s') (removed : ∀ f, s.graph.At sid f →
      k.store s' = k.store s ∧ ¬ s'.graph.At sid f) : k.Idle s sid := by
  intro id r filed
  cases pending : k.isPending r with
  | false => rfl
  | true =>
    have own := (coherent.own_keys filed).1
    have here := coherent.record_of_cell filed
    have held := homed id r here pending
    rw [own] at held
    obtain ⟨same, gone⟩ := removed _ held
    rw [← same] at here
    have still := left id r here pending
    rw [own] at still
    exact absurd still gone

end RequestKind

/-- A step that leaves each request with its frame has spared the pending ones: stopping a session
keeps its requests and removes their frames. -/
theorem Step.spares (step : Step env s (ev, effs) s') (order : s.InCare) (left : s'.Homed) : ev.SparesPending s := by
  obtain ⟨d, _, reduced⟩ := step
  unfold Event.SparesPending
  split
  · rename_i connID reqID sid
    intro running
    have removed : ∀ f, s.graph.At sid f → s'.pendingApprovals = s.pendingApprovals ∧
        s'.pendingQuestions = s.pendingQuestions ∧ ¬ s'.graph.At sid f := by
      rintro f ⟨n, found, _⟩
      obtain ⟨sess, stored, rfl⟩ := graph_eq_some.mp found
      simp only [reduce, running, reduceRunning, reduceEvent, decoded, reduceStopSession, stored] at reduced
      cases reduced
      refine ⟨rfl, rfl, ?_⟩
      rintro ⟨m, there, mem⟩
      rw [graph_set s _ sid (endSession sess s.now) rfl, update_self] at there
      cases there
      cases mem
    constructor
    · refine order.homed.approval.idle order.coherent.approval left.approval ?_
      intro f held
      exact ⟨(removed f held).1, (removed f held).2.2⟩
    · refine order.homed.question.idle order.coherent.question left.question ?_
      intro f held
      exact (removed f held).2
  · trivial

/-- As long as no session is stopped with a request pending, every pending request has its frame.
The next step keeps that up exactly when it does not stop a session with a request pending, and
then drops, answers and announces the requests of the frames it removes. -/
theorem pending_requests_have_frames (discreet : env.Discreet) {cfg : Config}
    {labels : List (Event D × List (Effect D))} (run : Run (SparingStep env) (State.new cfg) labels s) :
    (approvals.Attended s ∧ questions.Attended s) ∧ ∀ ev effs s', Step env s (ev, effs) s' →
        ((approvals.Attended s' ∧ questions.Attended s') ↔ ev.SparesPending s) ∧
        (ev.SparesPending s → approvals.Reaped s effs s' ∧ questions.Reaped s effs s') := by
  have order := SparingRun.inCare discreet run
  have attended : ∀ {t : State D}, t.Coherent → ((approvals.Attended t ∧ questions.Attended t) ↔ t.Homed) := by
    intro t coherent
    rw [attended_iff coherent.approval, attended_iff coherent.question]
    exact ⟨fun both => ⟨both.1, both.2⟩, fun homed => ⟨homed.approval, homed.question⟩⟩
  refine ⟨(attended order.coherent).mpr order.homed, ?_⟩
  intro ev effs s' step
  have settlements := step.settlements discreet order.coherent
  rw [attended settlements.coherent]
  refine ⟨⟨step.spares order, ?_⟩, ?_⟩
  · intro spares
    exact SparingStep.homed discreet ⟨step, spares⟩ order
  · intro spares
    obtain ⟨approval, question⟩ := SparingStep.follows ⟨step, spares⟩ order
    exact ⟨order.homed.approval.reaped order.coherent.approval approval settlements.approval,
      order.homed.question.reaped order.coherent.question question settlements.question⟩

/-- A request is dropped and answered with the frame that vanishes. -/
theorem vanished_frame_leaves_no_pending_request : ∃ (s s' : State Unit) (effs : List (Effect Unit)),
      ((approvals.store s).cell "a" "p").map (approvals (D := Unit)).isPending = some true ∧
      Step Env.inert s (.frameVanished "aa", effs) s' ∧ (approvals.Attended s' ∧ questions.Attended s') ∧
      approvals.Reaped s effs s' ∧ questions.Reaped s effs s' := by
  have run := replay_hostRun Env.inert {} [('a', .creates), ('b', .asksApproval "aa" "p")] rfl
  have sparing := run.restrict (fun s label => label.1.SparesPending s)
    (forall_mem_cons.mpr ⟨fun _ => trivial, forall_mem_cons.mpr ⟨fun _ => trivial, forall_mem_nil _⟩⟩)
  obtain ⟨_, next⟩ := pending_requests_have_frames Env.inert_discreet sparing
  obtain ⟨attended, reaped⟩ := next (.frameVanished "aa") _ _ ⟨Draw.tagged 'c', Draw.tagged_fresh rfl, rfl⟩
  exact ⟨_, _, _, rfl, ⟨Draw.tagged 'c', Draw.tagged_fresh rfl, rfl⟩, attended.mpr trivial, reaped trivial⟩

/-- Stopping a session leaves its approval pending, without a frame and without an answer. -/
theorem stopped_session_leaves_pending_approval :
    ∃ (s s' : State Unit) (effs : List (Effect Unit)), Reachable Env.inert s ∧
      Step Env.inert s (.event 1 "r" (.stopSession (.ok "a")), effs) s' ∧
      ((approvals.store s').cell "a" "p").map (fun r => (r.status, r.sessionID, r.frameID)) =
        some (.pending, "a", "aa") ∧
      (s'.sessions.get? "a").map (fun sess => sess.frames.map SessionFrame.id) = some [] ∧
      approvals.replies "p" effs = 0 :=
  ⟨_, _, _, replay_reachable Env.inert {} [('a', .creates), ('b', .asksApproval "aa" "p")] rfl,
    ⟨Draw.tagged 'c', Draw.tagged_fresh rfl, rfl⟩, rfl, rfl, rfl⟩

end AgentGrid.Host
