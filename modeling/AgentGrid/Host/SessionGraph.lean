import AgentGrid.Host.Steps

/-!
# The session graph along runs

Every action rewrites the session graph by one of its own operations, with
identifiers that are not in use.  The graph is therefore well formed in every state
the daemon reaches, whatever the drivers return.
-/

namespace AgentGrid.Host

open AgentGrid.Lib List Function GoMap State

variable {D : Type} {env : Env D} {d : Draw} {s s' : State D} {ev : Event D}
  {effs : List (Effect D)}

/-! ## One action -/

theorem Draw.Fresh.graph (fresh : d.Fresh s) (i : Nat) : s.graph (d.alloc i) = none :=
  graph_eq_none.mpr (fresh.session i)

theorem Draw.Fresh.holds (fresh : d.Fresh s) (i : Nat) : ¬ s.graph.Holds (d.alloc i) :=
  fun held => fresh.frame i (hasFrame_iff.mpr held)

variable {k : Nat} {g g' : Graph} {raws out : List (Effect D)}

theorem Pushed.wf (pushed : Pushed d k g raws g' out) (named : ∀ i, d.alloc i ≠ "")
    (injective : Function.Injective d.alloc) (unused : ∀ i, k ≤ i → ¬ g.Holds (d.alloc i)) (wf : g.WF) : g'.WF := by
  induction pushed with
  | nil => exact wf
  | pass _ ih => exact ih (fun i later => unused i (by omega)) wf
  | skip _ ih => exact ih (fun i later => unused i (by omega)) wf
  | @push k g g' sid command n launch raws effs found _ ih =>
    refine ih ?_ (wf.push found (named k) (unused k (Nat.le_refl k)))
    rintro i later ⟨sid', n', found', held⟩
    rw [update_apply] at found'
    split at found'
    · cases found'
      rcases mem_append.mp held with old | last
      · exact unused i (by omega) ⟨sid, n, found, old⟩
      · have same := injective (mem_singleton.mp last)
        omega
    · exact unused i (by omega) ⟨sid', n', found', held⟩

theorem evictRootFrame_graph (sid : SessionID) (sess : Session D) (kill : Bool) (disposition : RootDisposition) :
    (evictRootFrame d s sid sess kill disposition).1.graph = Function.update s.graph sid (match disposition with
        | .retainEndedSession => some (sess.node.finish s.now) | .dropUnstartedSession => none) := by
  rw [(evictRootFrame_requestsOnly d s sid sess kill disposition).graph]
  cases disposition with
  | retainEndedSession => exact graph_set s _ sid (endSession sess s.now) rfl
  | dropUnstartedSession => exact graph_delete s _ sid rfl

theorem storeChild_graph (sid : SessionID) (rest : Session D) (fid removedID : FrameID) (kill : Bool) :
    (storeChild d s sid rest fid removedID kill).1.graph = Function.update s.graph sid (some rest.node) := by
  rw [(storeChild_requestsOnly d s sid rest fid removedID kill).graph]
  exact graph_set s _ sid rest rfl

variable {sess : Session D} {fid : FrameID} {i : Nat}

theorem findFrameIndex_root (found : findFrameIndex sess fid = some i) (child : i ≠ 0) :
    sess.node.frames.head? ≠ some fid := by
  obtain ⟨bound, _, before⟩ := findIdx?_eq_some_iff_getElem.mp found
  have first := before 0 (Nat.pos_of_ne_zero child)
  cases shape : sess.frames with
  | nil => simp [shape]
  | cons => simpa [shape] using first

/-! ## Rewrites of the graph -/

/-- The frames a step removes from a session, whether their windows are killed, and the graph that
is left: a stopped session, a root frame that takes its siblings along, or a child frame. -/
inductive Removal (s : State D) (ev : Event D) : List FrameID → Bool → Graph → Prop where
  | stop {connID : ConnID} {reqID : String} {sid : SessionID} {n : Node}
      (asked : ev = .event connID reqID (.stopSession (.ok sid))) (found : s.graph sid = some n) :
      Removal s ev n.frames true (Function.update s.graph sid (some (n.finish s.now)))
  | endRoot {fid : FrameID} {kill : Bool} {sid : SessionID} {n : Node}
      (evicts : ev.evicts = some (fid, kill, .retainEndedSession)) (found : s.graph sid = some n)
      (held : fid ∈ n.frames) : Removal s ev n.frames kill (Function.update s.graph sid (some (n.finish s.now)))
  | dropRoot {fid : FrameID} {kill : Bool} {sid : SessionID} {n : Node}
      (evicts : ev.evicts = some (fid, kill, .dropUnstartedSession)) (found : s.graph sid = some n)
      (held : fid ∈ n.frames) : Removal s ev n.frames kill (Function.update s.graph sid none)
  | child {fid : FrameID} {kill : Bool} {disposition : RootDisposition} {sid : SessionID}
      {n : Node} (evicts : ev.evicts = some (fid, kill, disposition))
      (found : s.graph sid = some n) (held : fid ∈ n.frames)
      (notRoot : n.frames.head? ≠ some fid) :
      Removal s ev [fid] kill (Function.update s.graph sid (some (n.evict fid)))

variable {kill : Bool} {disposition : RootDisposition} {sid : SessionID}

theorem evictRoot_removal (evicts : ev.evicts = some (fid, kill, disposition))
    (found : findFrame d s fid = some (sid, sess, 0)) :
    Removal s ev sess.node.frames kill (evictRootFrame d s sid sess kill disposition).1.graph := by
  obtain ⟨stored, held⟩ := findFrame_holds found
  rw [evictRootFrame_graph]
  cases disposition with
  | retainEndedSession => exact .endRoot evicts stored held
  | dropUnstartedSession => exact .dropRoot evicts stored held

theorem evictChild_removal {rest : Session D} (evicts : ev.evicts = some (fid, kill, disposition))
    (found : findFrame d s fid = some (sid, sess, i)) (child : i ≠ 0) (left : rest.node = sess.node.evict fid) :
    Removal s ev [fid] kill (storeChild d s sid rest fid fid kill).1.graph := by
  obtain ⟨stored, held⟩ := findFrame_holds found
  rw [storeChild_graph, left]
  exact .child evicts stored held (findFrameIndex_root (findFrame_spec found).2 child)

theorem stop_removal {connID : ConnID} {reqID : String} (asked : ev = .event connID reqID (.stopSession (.ok sid)))
    (found : s.sessions.get? sid = some sess) : Removal s ev sess.node.frames true
      ({ s with sessions := s.sessions.set sid (endSession sess s.now) } : State D).graph := by
  rw [graph_set s _ sid (endSession sess s.now) rfl, endSession_node]
  exact .stop asked (graph_of_get? found)

inductive Rewrite (env : Env D) (d : Draw) (s : State D) (ev : Event D) : Graph → Prop where
  | same : Rewrite env d s ev s.graph
  | create {command : String} {hasDriver : Bool} : Rewrite env d s ev (Function.update s.graph (d.alloc 0)
        (some (Node.single (d.alloc 0) (d.alloc 1) command hasDriver)))
  | push {connID : ConnID} {reqID : String} {p : PushDriverParams} {sess : Session D}
      {plan : PushPlan D} (asked : ev = .event connID reqID (.pushDriver (.ok p)))
      (found : s.sessions.get? p.sessionID = some sess)
      (planned : planPush env s p.sessionID sess p.project p.command p.options p.input = .ok plan) :
      Rewrite env d s ev (Function.update s.graph p.sessionID (some (sess.node.push (d.alloc 0))))
  | driven {mid : State D} {raws pushed : List (Effect D)}
      (driven : Driven env d s mid raws pushed) : Rewrite env d s ev mid.graph
  | select {sid : SessionID} {n : Node} {fid : FrameID} (found : s.graph sid = some n)
      (held : fid ∈ n.frames) : Rewrite env d s ev (Function.update s.graph sid (some (n.select fid)))
  | publish {sid : SessionID} {command : String} (named : sid ≠ "") (free : s.graph sid = none) :
      Rewrite env d s ev (Function.update s.graph sid (some (Node.published sid command)))
  | remove {frames : List FrameID} {kill : Bool} {g : Graph}
      (removal : Removal s ev frames kill g) : Rewrite env d s ev g

theorem Action.rewrite (action : Action env d s ev s' effs) : Rewrite env d s ev s'.graph := by
  cases action with
  | refuse | gone | late => exact .same
  | quiet _ _ graph _ | register _ _ _ graph _ | release _ _ _ graph _ =>
    rw [graph]
    exact .same
  | create _ _ _ graph =>
    rw [graph]
    exact .create
  | push asked found planned _ graph =>
    rw [graph]
    exact .push asked found planned
  | hook _ driven => exact .driven driven
  | subsystem _ driven =>
    have pushed : Rewrite env d s ev _ := .driven driven
    rwa [← (reduceHumanInput_requestsOnly d _ _).graph] at pushed
  | stop asked found => exact .remove (stop_removal asked found)
  | evictRoot evicts found => exact .remove (evictRoot_removal evicts found)
  | evictChild evicts found child left => exact .remove (evictChild_removal evicts found child left)
  | select _ found held _ graph =>
    rw [graph]
    exact .select found held
  | approval =>
    rw [(RequestsOnly.ofApprovals (approvals_lawful.commit_touches d s _ _ _ _ _)).graph]
    exact .same
  | question =>
    rw [(RequestsOnly.ofQuestions (questions_lawful.commit_touches d s _ _ _ _ _)).graph]
    exact .same
  | tick _ _ graph =>
    rw [(expiry_requestsOnly d _ _).graph, graph]
    exact .same
  | publish _ named free _ graph =>
    rw [graph]
    exact .publish named free
  | shutdown =>
    rw [(reduceShutdown_frozen _ _).graph]
    exact .same

theorem Removal.wf {frames : List FrameID} (removal : Removal s ev frames kill g) (wf : s.graph.WF) : g.WF := by
  cases removal with
  | stop _ found | endRoot _ found _ => exact wf.shrink found rfl (.finish _ _) (by intro f held; cases held)
  | dropRoot => exact wf.remove _
  | child _ found held notRoot =>
    refine wf.shrink found (Node.evict_id _ _) ((wf.node found).evict held notRoot) ?_
    intro f kept
    rw [Node.evict_frames] at kept
    exact mem_of_mem_erase kept

theorem Rewrite.wf (fresh : d.Fresh s) (rewrite : Rewrite env d s ev g) (wf : s.graph.WF) : g.WF := by
  cases rewrite with
  | same => exact wf
  | create =>
    refine wf.add (fresh.nonempty 0) rfl (.single _ _ _ _ (fresh.nonempty 1)) ?_
    intro f held
    rw [mem_singleton.mp held]
    exact fresh.holds 1
  | push _ found => exact wf.push (graph_of_get? found) (fresh.nonempty 0) (fresh.holds 0)
  | driven driven => exact driven.pushed.wf fresh.nonempty fresh.injective (fun i _ => fresh.holds i) wf
  | select found held => exact wf.shrink found rfl ((wf.node found).select held) fun f mem => mem
  | publish named => exact wf.add named rfl (.published _ _) (by intro f held; cases held)
  | remove removal => exact removal.wf wf

theorem Admitted.graph (admitted : Admitted s ev s' effs) : s'.graph = s.graph :=
  admitted.frozen.graph

/-! ## Frames that stay -/

def Graph.At (g : Graph) (sid : SessionID) (f : FrameID) : Prop :=
  ∃ n, g sid = some n ∧ f ∈ n.frames

variable {f : FrameID}

theorem Graph.At.update {k : SessionID} {n : Node} (held : g.At k f)
    (kept : ∀ old, g sid = some old → f ∈ old.frames → f ∈ n.frames) :
    Graph.At (Function.update g sid (some n)) k f := by
  obtain ⟨old, found, mem⟩ := held
  by_cases same : k = sid
  · subst same
    exact ⟨n, update_self _ _ _, kept old found mem⟩
  · exact ⟨old, by rw [update_of_ne same, found], mem⟩

theorem Pushed.keeps (pushed : Pushed d k g raws g' out) (held : g.At sid f) : g'.At sid f := by
  induction pushed with
  | nil => exact held
  | pass _ ih | skip _ ih => exact ih held
  | push found _ ih =>
    refine ih (held.update ?_)
    intro old stored mem
    cases found.symm.trans stored
    exact mem_append_left _ mem

/-- The actions that take frames out of the graph, with their effects. -/
inductive Removes (d : Draw) (s : State D) (ev : Event D) : State D → List (Effect D) → Prop where
  | stop {connID : ConnID} {reqID : String} {sid : SessionID} {sess : Session D}
      (asked : ev = .event connID reqID (.stopSession (.ok sid)))
      (found : s.sessions.get? sid = some sess) :
      Removes d s ev { s with sessions := s.sessions.set sid (endSession sess s.now) }
        ([.broadcastSessionsChanged] ++ teardownAll sess.frames true ++
          [okResp connID reqID .empty, .persistSnapshot])
  | root {fid : FrameID} {kill : Bool} {disposition : RootDisposition} {sid : SessionID}
      {sess : Session D} (evicts : ev.evicts = some (fid, kill, disposition))
      (found : findFrame d s fid = some (sid, sess, 0)) :
      Removes d s ev (evictRootFrame d s sid sess kill disposition).1
        ((evictRootFrame d s sid sess kill disposition).2 ++ ev.failureReply)
  | child {fid : FrameID} {kill : Bool} {disposition : RootDisposition} {sid : SessionID}
      {sess rest : Session D} {i : Nat} (evicts : ev.evicts = some (fid, kill, disposition))
      (found : findFrame d s fid = some (sid, sess, i)) (child : i ≠ 0)
      (left : rest.node = sess.node.evict fid) : Removes d s ev (storeChild d s sid rest fid fid kill).1
        ((storeChild d s sid rest fid fid kill).2 ++ ev.failureReply)

theorem Action.keeps (fresh : d.Fresh s) (action : Action env d s ev s' effs)
    (held : s.graph.At sid f) : s'.graph.At sid f ∨ Removes d s ev s' effs := by
  cases action with
  | stop asked found => exact .inr (.stop asked found)
  | evictRoot evicts found => exact .inr (.root evicts found)
  | evictChild evicts found child left => exact .inr (.child evicts found child left)
  | refuse | gone | late => exact .inl held
  | quiet _ _ graph _ | register _ _ _ graph _ | release _ _ _ graph _ =>
    rw [graph]
    exact .inl held
  | create _ _ _ graph =>
    rw [graph]
    refine .inl (held.update ?_)
    intro old stored mem
    rw [fresh.graph 0] at stored
    cases stored
  | push _ found _ _ graph =>
    rw [graph]
    refine .inl (held.update ?_)
    intro old stored mem
    rw [graph_of_get? found] at stored
    cases stored
    exact mem_append_left _ mem
  | hook _ driven => exact .inl (driven.pushed.keeps held)
  | subsystem _ driven =>
    have pushed := driven.pushed.keeps held
    rw [← (reduceHumanInput_requestsOnly d _ _).graph] at pushed
    exact .inl pushed
  | select _ found _ _ graph =>
    rw [graph]
    refine .inl (held.update ?_)
    intro old stored mem
    cases found.symm.trans stored
    exact mem
  | approval =>
    rw [(RequestsOnly.ofApprovals (approvals_lawful.commit_touches d s _ _ _ _ _)).graph]
    exact .inl held
  | question =>
    rw [(RequestsOnly.ofQuestions (questions_lawful.commit_touches d s _ _ _ _ _)).graph]
    exact .inl held
  | tick _ _ graph =>
    rw [(expiry_requestsOnly d _ _).graph, graph]
    exact .inl held
  | publish _ _ free _ graph =>
    rw [graph]
    refine .inl (held.update ?_)
    intro old stored mem
    cases free.symm.trans stored
  | shutdown =>
    rw [(reduceShutdown_frozen _ _).graph]
    exact .inl held

/-! ## Runs -/

theorem Step.graph_wf {label : Event D × List (Effect D)} (step : Step env s label s')
    (wf : s.graph.WF) : s'.graph.WF := by
  rcases Step.cases step with ⟨_, d, fresh, action⟩ | ⟨_, admitted⟩
  · exact action.rewrite.wf fresh wf
  · rwa [admitted.graph]

theorem HostRun.graph_wf {cfg : Config} {labels : List (Event D × List (Effect D))}
    (run : HostRun env cfg labels s) : s.graph.WF := by
  refine Run.invariant (fun s => s.graph.WF) ?_ (fun s a s' wf step => Step.graph_wf step wf) run
  exact Graph.WF.empty

/-- The frame ids of all sessions, session by session. -/
def State.frameIDs (s : State D) : List FrameID :=
  s.sessions.entries.flatMap fun entry => entry.2.frames.map SessionFrame.id

theorem State.frameIDs_nodup (wf : s.graph.WF) : s.frameIDs.Nodup := by
  refine nodup_flatMap.mpr ⟨?_, ?_⟩
  · rintro ⟨sid, sess⟩ mem
    exact (wf.node (graph_of_get? (mem_entries.mp mem))).frames_nodup
  · have distinct := pairwise_map.mp s.sessions.keys_nodup
    refine distinct.imp_of_mem ?_
    rintro ⟨sid, sess⟩ ⟨sid', sess'⟩ mem mem' differs f held held'
    exact differs (wf.disjoint (graph_of_get? (mem_entries.mp mem))
      (graph_of_get? (mem_entries.mp mem')) held held')

/-- A session record as it has to be under its key. -/
structure Session.InOrder (sess : Session D) (k : SessionID) : Prop where
  key : sess.id = k
  head : sess.frames ≠ [] → sess.headFrameID ∈ sess.frames.map SessionFrame.id
  frameless : sess.frames = [] → sess.headFrameID = "" ∧ sess.mruFrameIDs = []
  mru_nodup : sess.mruFrameIDs.Nodup
  mru_length : sess.mruFrameIDs.length ≤ 16
  mru_subset : ∀ f ∈ sess.mruFrameIDs, f ∈ sess.frames.map SessionFrame.id

/-- In every state the daemon reaches, no two frames share an id and every session is in order. -/
theorem sessions_in_order {cfg : Config} {labels : List (Event D × List (Effect D))}
    (run : HostRun env cfg labels s) :
    s.frameIDs.Nodup ∧ ∀ k sess, s.sessions.get? k = some sess → sess.InOrder k := by
  have wf := HostRun.graph_wf run
  refine ⟨frameIDs_nodup wf, ?_⟩
  intro k sess found
  have stored := graph_of_get? found
  have node := wf.node stored
  refine ⟨wf.key stored, ?_, ?_, node.mru_nodup, node.mru_length, node.mru_subset⟩
  · intro nonempty
    exact node.head_mem (by simpa using nonempty)
  · intro empty
    have none_left : sess.node.frames = [] := by simp [empty]
    exact ⟨node.head_empty none_left, node.mru_empty none_left⟩

theorem sessions_in_order_after_push : ∃ s : State Unit, s.frameIDs = ["aa", "b"] ∧ s.frameIDs.Nodup ∧
      ∀ k sess, s.sessions.get? k = some sess → sess.InOrder k :=
  ⟨((replay Env.inert (State.new {}) [('a', .creates),
        ('b', .event 1 "r" (.pushDriver (.ok { sessionID := "a", command := "y" })))]).get rfl).1,
    rfl, sessions_in_order (replay_hostRun _ _ _ rfl)⟩

end AgentGrid.Host
