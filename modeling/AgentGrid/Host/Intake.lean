import AgentGrid.Host.Owners

/-!
# Taking requests up

An agent that asks for an approval or an answer has the host hold its call until the
reducer sends a reply.  A request under a new id is filed or approved at once, and one
whose id is pending joins the request on file.  An id that was settled before stays
settled, and the new call is neither filed nor answered.
-/

namespace AgentGrid.Host

open AgentGrid.Lib List Option Go State

variable {D : Type} {env : Env D} {d : Draw} {s s' : State D} {effs : List (Effect D)}

/-! ## One kind of requests -/

namespace RequestKind

variable {R : Type} {k : RequestKind D R} {id : String}

def IsOpen (k : RequestKind D R) (s : State D) (id : String) : Prop :=
  ∃ sid r, (k.store s).cell sid id = some r ∧ k.isPending r = true

/-- A request with the id was settled and is still on file. -/
def IsClosed (k : RequestKind D R) (s : State D) (id : String) : Prop :=
  ∃ sid r, (k.store s).cell sid id = some r ∧ k.isPending r = false

/-- The effects answer the call that is held under the id. -/
def Answers (k : RequestKind D R) (id : String) (effs : List (Effect D)) : Prop :=
  ∃ e ∈ effs, ∃ fid, k.replyOf e = some (fid, id)

inductive Intake (k : RequestKind D R) (d : Draw) (s : State D) (id : String) :
    Reduced D → Prop where
  | known (found : (k.find d s id).isSome = true) : Intake k d s id (s, [])
  | filed {r : R} {effs : List (Effect D)} (unused : k.find d s id = none) (ident : k.id r = id)
      (pending : k.isPending r = true) : Intake k d s id (k.put s r, effs)
  | answered {result : Reduced D} (unused : k.find d s id = none)
      (answers : k.Answers id result.2) : Intake k d s id result

theorem not_isClosed_of_unused (coherent : k.Coherent s)
    (named : id ≠ "") (unused : k.find d s id = none) : ¬ k.IsClosed s id := by
  rintro ⟨sid, r, filed, _⟩
  have record := record_of_find_none coherent named unused
  rw [coherent.record_of_cell filed] at record
  cases record

theorem Intake.taken_up_iff (lawful : k.Lawful) (coherent : k.Coherent s) (named : id ≠ "")
    {result : Reduced D} (intake : k.Intake d s id result) :
    k.IsOpen result.1 id ∨ k.Answers id result.2 ↔ ¬ k.IsClosed s id := by
  cases intake with
  | known found =>
    obtain ⟨⟨r, sid⟩, hit⟩ := isSome_iff_exists.mp found
    obtain ⟨record, _⟩ := record_of_find coherent hit
    constructor
    · rintro (⟨sid, x, filed, pending⟩ | ⟨e, mem, _⟩) ⟨sid', y, filed', settled⟩
      · have same := coherent.record_of_cell filed
        rw [coherent.record_of_cell filed'] at same
        cases same
        cases pending.symm.trans settled
      · cases mem
    · intro unsettled
      obtain ⟨sid, filed⟩ := coherent.record_eq_some.mp record
      cases pending : k.isPending r with
      | true => exact .inl ⟨sid, r, filed, pending⟩
      | false => exact absurd ⟨sid, r, filed, pending⟩ unsettled
  | @filed r _ unused ident pending =>
    refine iff_of_true (.inl ⟨k.sessionID r, r, ?_, pending⟩) (not_isClosed_of_unused coherent named unused)
    rw [lawful.store_put, Buckets.cell_put, if_pos ⟨rfl, ident.symm⟩]
  | answered unused answers => exact iff_of_true (.inr answers) (not_isClosed_of_unused coherent named unused)

theorem answers_append_iff {before middle after : List (Effect D)} (quietBefore : ∀ e ∈ before, k.replyOf e = none)
    (quietAfter : ∀ e ∈ after, k.replyOf e = none) :
    k.Answers id (before ++ middle ++ after) ↔ k.Answers id middle := by
  constructor
  · rintro ⟨e, mem, fid, reply⟩
    simp only [mem_append] at mem
    rcases mem with (early | here) | late
    · rw [quietBefore e early] at reply
      cases reply
    · exact ⟨e, here, fid, reply⟩
    · rw [quietAfter e late] at reply
      cases reply
  · rintro ⟨e, mem, reply⟩
    exact ⟨e, mem_append_left _ (mem_append_right _ mem), reply⟩

end RequestKind

/-! ## The two kinds -/

variable {e : EvSubsystem D}

theorem reduceHumanInput_approval {a : SubsystemApproval} (kind : e.kind = .approvalRequested)
    (payload : e.payload.approval = some a) (named : a.id ≠ "") (live : s.HasFrame e.frameID) :
    approvals.Intake d s a.id (reduceHumanInput d s e) := by
  have same : reduceHumanInput d s e = (maybeCreateApprovalFromSubsystem d s e).getD (s, []) := by simp [kind]
  rw [same]
  simp only [maybeCreateApprovalFromSubsystem, kind, payload, named, if_false]
  cases known : findApproval d s a.id with
  | some => exact .known (show (findApproval d s a.id).isSome = true by rw [known]; rfl)
  | none =>
    cases search : findFrame d s e.frameID with
    | none => exact absurd live (findFrame_eq_none.mp search)
    | some hit =>
      obtain ⟨sid, sess, i⟩ := hit
      simp only [isSome_none, Bool.false_eq_true, if_false]
      by_cases automatic : a.autoApprove
      · rw [if_pos automatic]
        exact .answered known ⟨_, mem_cons_of_mem _ mem_cons_self, _, rfl⟩
      · rw [if_neg automatic]
        exact .filed known rfl rfl

theorem reduceHumanInput_question {qp : SubsystemQuestion} (kind : e.kind = .questionRequested)
    (payload : e.payload.question = some qp) (named : qp.id ≠ "") (live : s.HasFrame e.frameID) :
    questions.Intake d s qp.id (reduceHumanInput d s e) := by
  have same : reduceHumanInput d s e = (maybeCreateQuestionFromSubsystem d s e).getD (s, []) := by simp [kind]
  rw [same]
  simp only [maybeCreateQuestionFromSubsystem, kind, payload, named, if_false]
  cases known : findQuestion d s qp.id with
  | some => exact .known (show (findQuestion d s qp.id).isSome = true by rw [known]; rfl)
  | none =>
    cases search : findFrame d s e.frameID with
    | none => exact absurd live (findFrame_eq_none.mp search)
    | some hit =>
      obtain ⟨sid, sess, i⟩ := hit
      exact .filed known rfl rfl

/-! ## The driver of a live frame -/

/-- The frame is live and its driver is registered. -/
def State.Runs (env : Env D) (s : State D) (fid : FrameID) : Prop :=
  ∃ sid sess frame, s.sessions.get? sid = some sess ∧ frame ∈ sess.frames ∧ frame.id = fid ∧
    (env.getDriver frame.command).isSome = true

variable {sid sid' : SessionID} {sess sess' : Session D} {frame' : SessionFrame D}

theorem frame_unique (wf : s.graph.WF) {frame : SessionFrame D}
    (found : s.sessions.get? sid = some sess) (held : frame ∈ sess.frames)
    (found' : s.sessions.get? sid' = some sess') (held' : frame' ∈ sess'.frames)
    (same : frame.id = frame'.id) : frame = frame' := by
  have here : frame.id ∈ sess.node.frames := List.mem_map_of_mem held
  have there : frame.id ∈ sess'.node.frames := by
    rw [same]
    exact List.mem_map_of_mem held'
  obtain rfl := wf.disjoint (graph_of_get? found) (graph_of_get? found') here there
  cases found.symm.trans found'
  exact inj_on_of_nodup_map (wf.node (graph_of_get? found)).frames_nodup held held' same

theorem retarget_command {i : Nat} {targetID : TargetID} (found : s.sessions.get? sid = some sess)
    (moved : retarget s sid sess i targetID = .ok s') (found' : s'.sessions.get? sid' = some sess')
    (held' : frame' ∈ sess'.frames) :
    ∃ old frame, s.sessions.get? sid' = some old ∧ frame ∈ old.frames ∧ frame.id = frame'.id ∧
      frame.command = frame'.command := by
  obtain ⟨target, indexed, rest⟩ := bind_eq_ok.mp moved
  split at rest
  · obtain ⟨frames, assigned, returned⟩ := bind_eq_ok.mp rest
    obtain ⟨_, rfl⟩ := assign_eq_ok.mp assigned
    cases returned
    rw [GoMap.get?_set] at found'
    split at found'
    · rename_i at_session
      subst at_session
      cases found'
      rcases mem_or_eq_of_mem_set held' with kept | changed
      · exact ⟨sess, frame', found, kept, rfl, rfl⟩
      · subst changed
        exact ⟨sess, target, found, mem_of_getElem? (index_eq_ok.mp indexed), rfl, rfl⟩
    · exact ⟨sess', frame', found', held', rfl, rfl⟩
  · cases rest
    exact ⟨sess', frame', found', held', rfl, rfl⟩

theorem stepDriver_isSome {fid : FrameID} {ev : DriverEvent D} {r : Option (Reduced D)} (live : s.HasFrame fid)
    (registered : ∀ sid sess frame, s.sessions.get? sid = some sess → frame ∈ sess.frames →
      frame.id = fid → (env.getDriver frame.command).isSome = true)
    (stepped : stepDriver env d s fid ev = .ok r) : r.isSome = true := by
  unfold stepDriver at stepped
  cases search : findFrame d s fid with
  | none => exact absurd live (findFrame_eq_none.mp search)
  | some hit =>
    obtain ⟨sid, sess, i⟩ := hit
    simp only [search] at stepped
    obtain ⟨frame, indexed, rest⟩ := bind_eq_ok.mp stepped
    obtain ⟨found, index⟩ := findFrame_spec search
    obtain ⟨frame', here, named⟩ := findFrameIndex_spec index
    rw [index_eq_ok.mp indexed] at here
    cases here
    have known := registered sid sess frame found (mem_of_getElem? (index_eq_ok.mp indexed)) named
    obtain ⟨drv, driver⟩ := isSome_iff_exists.mp known
    simp only [driver] at rest
    obtain ⟨pair, _, returned⟩ := bind_eq_ok.mp rest
    cases returned
    rfl

theorem State.Runs.taken (runs : s.Runs env e.frameID) (wf : s.graph.WF)
    (reduced : reduceSubsystem env d s e = .ok (s', effs)) :
    ∃ mid pushed tail, Taken env d s e s' effs mid pushed tail := by
  obtain ⟨sid, sess, frame, found, held, named, known⟩ := runs
  have live : s.HasFrame e.frameID := ⟨sid, sess, found, named ▸ List.mem_map_of_mem held⟩
  have nonempty : e.frameID ≠ "" := (wf.node (graph_of_get? found)).frames_named _ (named ▸ List.mem_map_of_mem held)
  cases search : findFrame d s e.frameID with
  | none => exact absurd live (findFrame_eq_none.mp search)
  | some hit =>
    obtain ⟨sid', sess', i⟩ := hit
    have there := (findFrame_spec search).1
    have whole := reduced
    simp only [reduceSubsystem, nonempty, if_false, search] at reduced
    obtain ⟨targeted, moved, reduced⟩ := bind_eq_ok.mp reduced
    obtain ⟨r, stepped, reduced⟩ := bind_eq_ok.mp reduced
    have graph := (retarget_spec there moved).graph
    have stepsOn : r.isSome = true := by
      refine stepDriver_isSome ?_ ?_ stepped
      · rwa [hasFrame_iff, graph, ← hasFrame_iff]
      · intro sidT sessT frameT foundT heldT namedT
        obtain ⟨old, frame', foundOld, heldOld, sameID, sameCommand⟩ := retarget_command there moved foundT heldT
        have same := frame_unique wf found held foundOld heldOld (named.trans (sameID.trans namedT).symm)
        rwa [← sameCommand, ← same]
    obtain ⟨⟨next, raws⟩, rfl⟩ := isSome_iff_exists.mp stepsOn
    exact reduceSubsystem_taken nonempty search moved stepped whole

/-! ## Every history of an id -/

theorem Taken.taken_up_iff {R : Type} {k : RequestKind D R} (lawful : k.Lawful)
    (discreet : env.Discreet) {mid : State D} {pushed tail : List (Effect D)}
    (taken : Taken env d s e s' effs mid pushed tail) {id : String} (named : id ≠ "")
    (coherent : k.Coherent s) (before : k.store mid = k.store s)
    (after : k.store s' = k.store (reduceHumanInput d mid e).1)
    (intake : k.Intake d mid id (reduceHumanInput d mid e)) :
    k.IsOpen s' id ∨ k.Answers id effs ↔ ¬ k.IsClosed s id := by
  obtain ⟨raws, driven⟩ := taken.driven
  have indexed : k.Coherent mid := by rwa [RequestKind.Coherent, before]
  have decided := intake.taken_up_iff lawful indexed named
  have answers : k.Answers id (pushed ++ (reduceHumanInput d mid e).2 ++ tail) ↔
      k.Answers id (reduceHumanInput d mid e).2 :=
    RequestKind.answers_append_iff (fun x mem => (lawful.mute (driven.silent discreet x mem)).1)
      (fun x mem => (lawful.mute ((taken.ordinary x mem).silent discreet)).1)
  rw [← taken.effects] at answers
  have opened : k.IsOpen s' id ↔ k.IsOpen (reduceHumanInput d mid e).1 id := by
    unfold RequestKind.IsOpen
    rw [after]
  have closed : k.IsClosed mid id ↔ k.IsClosed s id := by
    unfold RequestKind.IsClosed
    rw [before]
  rw [opened, answers, decided, closed]

/-- When a live frame with a registered driver asks for an approval or an answer, the request is
pending or answered after the step just if no settled request with its id was on file. -/
theorem asked_requests_taken_up (discreet : env.Discreet) (reachable : Reachable env s)
    (running : s.lifecycle = .running) {e : EvSubsystem D} (runs : s.Runs env e.frameID)
    (step : Step env s (.subsystem e, effs) s') :
    (∀ a, e.kind = .approvalRequested → e.payload.approval = some a → a.id ≠ "" →
      (approvals.IsOpen s' a.id ∨ approvals.Answers a.id effs ↔ ¬ approvals.IsClosed s a.id)) ∧
    ∀ q, e.kind = .questionRequested → e.payload.question = some q → q.id ≠ "" →
      (questions.IsOpen s' q.id ∨ questions.Answers q.id effs ↔ ¬ questions.IsClosed s q.id) := by
  obtain ⟨cfg, labels, run⟩ := reachable
  obtain ⟨approval, question⟩ := HostRun.ledgers discreet run
  obtain ⟨d, _, reduced⟩ := step
  unfold reduce at reduced
  rw [running] at reduced
  have live : s.graph.Holds e.frameID := by
    obtain ⟨sid, sess, frame, found, held, named, _⟩ := runs
    exact ⟨sid, sess.node, graph_of_get? found, named ▸ List.mem_map_of_mem held⟩
  obtain ⟨mid, pushed, tail, taken⟩ := runs.taken (HostRun.graph_wf run) reduced
  obtain ⟨raws, driven⟩ := taken.driven
  have still : mid.HasFrame e.frameID := by
    obtain ⟨sid, here⟩ := live
    exact hasFrame_iff.mpr ⟨sid, driven.pushed.keeps here⟩
  obtain ⟨signals, after⟩ := taken.state
  constructor
  · intro a kind payload named
    refine taken.taken_up_iff approvals_lawful discreet named approval.coherent
      driven.kept.approvals ?_ (reduceHumanInput_approval kind payload named still)
    rw [after]
    rfl
  · intro q kind payload named
    refine taken.taken_up_iff questions_lawful discreet named question.coherent
      driven.kept.questions ?_ (reduceHumanInput_question kind payload named still)
    rw [after]
    rfl

/-- An approval the agent asks for under a new id is taken up. -/
theorem first_approval_taken_up : ∃ (s s' : State Unit) (effs : List (Effect Unit)), Reachable Env.inert s ∧
      Step Env.inert s (.asksApproval "aa" "p", effs) s' ∧
      (approvals.IsOpen s' "p" ∨ approvals.Answers "p" effs) := by
  have step : Step Env.inert State.oneSession (.asksApproval "aa" "p", _) _ :=
    ⟨Draw.tagged 'b', Draw.tagged_fresh rfl, rfl⟩
  have taken := asked_requests_taken_up Env.inert_discreet oneSession_reachable rfl
    ⟨"a", _, _, rfl, mem_cons_self, rfl, rfl⟩ step
  refine ⟨_, _, _, oneSession_reachable, step, (taken.1 _ rfl rfl (by decide)).mpr ?_⟩
  rintro ⟨sid, r, filed, _⟩
  cases filed

/-- A second call under an id whose approval a client already decided is neither filed nor
answered. -/
theorem repeated_approval_swallowed : ∃ (s s' : State Unit) (effs : List (Effect Unit)), Reachable Env.inert s ∧
      s.lifecycle = .running ∧ s.Runs Env.inert "aa" ∧ Step Env.inert s (.asksApproval "aa" "p", effs) s' ∧
      ¬ approvals.IsOpen s' "p" ∧ ¬ approvals.Answers "p" effs := by
  have run := replay_hostRun Env.inert {} [('a', .creates), ('b', .asksApproval "aa" "p"),
      ('c', .approvalRespond ⟨1, "r", "a", "p", .accept, "me"⟩)] rfl
  have longer := run.snoc (show Step Env.inert _ (.asksApproval "aa" "p",
    [.persistSnapshot, .broadcastSessionsChanged]) _ from
      ⟨Draw.tagged 'd', Draw.tagged_fresh rfl, rfl⟩)
  have coherent := (HostRun.ledgers Env.inert_discreet longer).1.coherent
  refine ⟨_, _, _, ⟨_, _, run⟩, rfl, ⟨"a", _, _, rfl, mem_cons_self, rfl, rfl⟩,
    ⟨Draw.tagged 'd', Draw.tagged_fresh rfl, rfl⟩, ?_, ?_⟩
  · rintro ⟨sid, r, filed, pending⟩
    cases coherent.record_of_cell filed
    cases pending
  · rintro ⟨e, mem, fid, reply⟩
    rcases mem_pair.mp mem with rfl | rfl <;> cases reply

end AgentGrid.Host
