import AgentGrid.Host.Transitions

/-!
# Classifying the reducers

Each reducer of the running daemon carries out one of the actions.
-/

namespace AgentGrid.Host

open AgentGrid.Lib List Go

attribute [local simp] errResp okResp

variable {D : Type} {env : Env D} {d : Draw} {s s' : State D} {ev : Event D}
  {effs : List (Effect D)}

abbrev ActionOf (env : Env D) (d : Draw) (s : State D) (ev : Event D) (r : Reduced D) : Prop :=
  Action env d s ev r.1 r.2

/-! ## Session commands -/

variable {connID : ConnID} {reqID : String} {sess : Session D}

section Spawning

variable (spawns : ev.spawns = true) (asked : ev.requester = some (connID, reqID))

include spawns asked

theorem create_action {launch : LaunchPlan D}
    (node : sess.node = Node.single (d.alloc 0) (d.alloc 1) sess.command sess.driver.isSome) :
    Action env d s ev { s with sessions := s.sessions.set (d.alloc 0) sess }
      [spawnEffect (d.alloc 0) (d.alloc 1) launch connID reqID] := by
  have graph := graph_set s { s with sessions := s.sessions.set (d.alloc 0) sess } _ sess rfl
  rw [node] at graph
  exact .create spawns asked ⟨rfl, rfl, rfl, rfl, rfl⟩ graph

theorem reduceCreateSession_action {p : CreateSessionParams}
    (reduced : reduceCreateSession env d s connID reqID p = (s', effs)) : Action env d s ev s' effs := by
  revert reduced
  fun_cases reduceCreateSession env d s connID reqID p <;> rintro ⟨⟩
  all_goals first | exact .refuse spawns asked | exact create_action spawns asked rfl

theorem spawnForkSession_action {durable launch : String} {forkDrv : Driver D}
    {childState : DriverState D} {opts : LaunchOptions}
    (reduced : spawnForkSession d s connID reqID sess forkDrv childState durable launch opts =
      (s', effs)) : Action env d s ev s' effs := by
  revert reduced
  fun_cases spawnForkSession d s connID reqID sess forkDrv childState durable launch opts <;> rintro ⟨⟩
  · exact .refuse spawns asked
  · exact create_action spawns asked rfl

theorem reduceForkSession_action {sid : SessionID}
    (reduced : reduceForkSession env d s connID reqID sid = (s', effs)) : Action env d s ev s' effs := by
  revert reduced
  fun_cases reduceForkSession env d s connID reqID sid <;> intro reduced
  case case5 => exact spawnForkSession_action spawns asked reduced
  all_goals
    cases reduced
    exact .refuse spawns asked

end Spawning

theorem reducePushDriver_action {p : PushDriverParams} (asked : ev = .event connID reqID (.pushDriver (.ok p)))
    (reduced : reducePushDriver env d s connID reqID p = (s', effs)) : Action env d s ev s' effs := by
  have refuses : ev.spawns = true ∧ ev.requester = some (connID, reqID) := by
    rw [asked]
    exact ⟨rfl, rfl⟩
  revert reduced
  fun_cases reducePushDriver env d s connID reqID p <;> rintro ⟨⟩
  all_goals try exact .refuse refuses.1 refuses.2
  rename_i attempt
  obtain ⟨sess, plan, found, planned, kept, graph, rfl⟩ := pushDriverInternal_spec attempt
  refine .push asked found planned ?_ graph
  rw [kept]
  exact ⟨rfl, rfl, rfl, rfl, rfl⟩

variable {sid : SessionID}

theorem reduceStopSession_action (asked : ev = .event connID reqID (.stopSession (.ok sid)))
    (reduced : reduceStopSession s connID reqID sid = (s', effs)) : Action env d s ev s' effs := by
  subst asked
  unfold reduceStopSession at reduced
  cases found : s.sessions.get? sid with
  | none =>
    simp only [found] at reduced
    cases reduced
    exact .unchanged rfl rfl (by simp)
  | some =>
    simp only [found] at reduced
    cases reduced
    exact .stop rfl found

variable {fid : FrameID}

theorem reduceSetHeadFrame_action (asked : ev = .event connID reqID (.setHeadFrame (.ok (sid, fid))))
    (reduced : reduceSetHeadFrame s connID reqID sid fid = (s', effs)) : Action env d s ev s' effs := by
  subst asked
  revert reduced
  fun_cases reduceSetHeadFrame s connID reqID sid fid <;> rintro ⟨⟩
  case case4 sess found known _ =>
    obtain ⟨i, index⟩ : ∃ i, findFrameIndex sess fid = some i := Option.ne_none_iff_exists'.mp (by simpa using known)
    refine .select rfl (State.graph_of_get? found) (findFrameIndex_mem index)
      ⟨rfl, rfl, rfl, rfl, rfl⟩ ?_ (ordinary_of_answers rfl (by simp))
    have node : ({ pushMRU sess sess.headFrameID with headFrameID := fid } :
        Session D).node = sess.node.select fid := by
      unfold pushMRU Node.select Node.remember
      by_cases unset : sess.headFrameID = "" <;> simp [unset]
    rw [← node]
    exact graph_set s _ sid _ rfl
  all_goals exact .unchanged rfl rfl (by simp)

/-! ## Repository preparations -/

variable {e : EvRepository} {r : Reduced D}

theorem Prepared.action (prepared : Prepared d s e r) (routine : ev.routine = true)
    (asked : ev.requester = some (e.connID, e.reqID)) : ActionOf env d s ev r := by
  have ordinary : ∀ x ∈ r.2, Ordinary env ev x := by
    intro x mem
    rcases prepared.effects x mem with preparing | addressed
    · refine .inl ?_
      cases x <;> first | rfl | cases preparing
    · exact .reply addressed asked
  cases prepared with
  | answered | created | moved => exact .quiet routine ⟨rfl, rfl, rfl, rfl, rfl⟩ rfl ordinary
  | published _ _ transition available free =>
    have named : e.sessionID ≠ "" := by cases transition <;> simp_all
    exact .publish routine named (State.graph_eq_none.mpr free) ⟨rfl, rfl, rfl, rfl, rfl⟩
      (graph_set s _ _ (publishedSession _ e) rfl) ordinary

/-! ## Connections, surfaces and read-only commands -/

/-- The effect is traffic with the surfaces and the views of the clients. -/
@[simp] def Effect.traffic : Effect D → Bool
  | .broadcastSessionsChanged | .sendFrameKeys .. | .surfaceSubscribeStart ..
  | .surfaceSubscribeStop .. | .surfaceResize .. | .surfaceWriteRaw .. => true
  | _ => false

theorem Effect.plain_of_traffic {e : Effect D} (traffic : e.traffic = true) : e.plain = true := by
  cases e <;> first | rfl | cases traffic

/-- What serving a connection comes to: only the records of connected clients change, and the
effects are traffic or answer the client. -/
structure Served (s : State D) (ev : Event D) (s' : State D) (effs : List (Effect D)) : Prop where
  rest : s' = { s with nextConnID := s'.nextConnID, subscribers := s'.subscribers, surfaceSubs := s'.surfaceSubs }
  effects : ∀ e ∈ effs, e.traffic = true ∨ ∃ client, e.repliesTo = some client ∧ ev.requester = some client

theorem Served.graph (served : Served s ev s' effs) : s'.graph = s.graph := by
  rw [served.rest]
  rfl

theorem Served.action (served : Served s ev s' effs) (routine : ev.routine = true) : Action env d s ev s' effs := by
  refine .quiet routine ?_ served.graph ?_
  · rw [served.rest]
    exact ⟨rfl, rfl, rfl, rfl, rfl⟩
  · intro e mem
    rcases served.effects e mem with traffic | answer
    · exact .inl (Effect.plain_of_traffic traffic)
    · exact .inr (.inr answer)

theorem Served.answer {client : ConnID × String} (asked : ev.requester = some client) (rest : s' = { s with
      nextConnID := s'.nextConnID, subscribers := s'.subscribers, surfaceSubs := s'.surfaceSubs })
    (each : effs.all (fun e => e.traffic || e.repliesTo == some client) = true) : Served s ev s' effs := by
  refine ⟨rest, ?_⟩
  intro e mem
  have here := all_eq_true.mp each e mem
  rw [Bool.or_eq_true, beq_iff_eq] at here
  exact here.imp id fun addressed => ⟨client, addressed, asked⟩

abbrev ServedBy (s : State D) (ev : Event D) (r : Reduced D) : Prop := Served s ev r.1 r.2

theorem reduceConnOpened_served (connID : ConnID) : ServedBy s (.connOpened connID) (reduceConnOpened s connID) := by
  unfold reduceConnOpened
  split <;> exact ⟨rfl, forall_mem_nil _⟩

theorem reduceConnClosed_served (connID : ConnID) :
    ServedBy s (.connClosed connID) (reduceConnClosed d s connID) := by
  refine ⟨rfl, ?_⟩
  intro e mem
  obtain ⟨sub, _, rfl⟩ := mem_map.mp mem
  exact .inl rfl

section Commands

variable {connID : ConnID} {reqID : String} (asked : ev.requester = some (connID, reqID))

include asked

theorem onSession_served {sid : SessionID}
    (each : effs.all (fun e => e.traffic || e.repliesTo == some (connID, reqID)) = true) :
    ServedBy s ev (onSession s connID reqID sid effs) := by
  unfold onSession
  split
  · exact .answer asked rfl (by simp [surfaceNotFound])
  · exact .answer asked rfl each

theorem reduceSubscribe_served (filters : List String) : ServedBy s ev (reduceSubscribe s connID reqID filters) :=
  .answer asked rfl (by simp [reduceSubscribe])

theorem reduceUnsubscribe_served : ServedBy s ev (reduceUnsubscribe s connID reqID) :=
  .answer asked rfl (by simp [reduceUnsubscribe])

theorem reduceSurfaceReadText_served (sid : SessionID) (lines : Int) :
    ServedBy s ev (reduceSurfaceReadText s connID reqID sid lines) :=
  onSession_served asked (by simp)

theorem reduceDriverList_served : ServedBy s ev (reduceDriverList s connID reqID) :=
  .answer asked rfl (by simp [reduceDriverList])

theorem reduceListSessions_served : ServedBy s ev (reduceListSessions s connID reqID) :=
  .answer asked rfl (by simp [reduceListSessions])

theorem reduceListSessionMessages_served (p : SessionMessagesParams) :
    ServedBy s ev (reduceListSessionMessages s connID reqID p) := by
  fun_cases reduceListSessionMessages s connID reqID p
  all_goals exact .answer asked rfl (by simp)

end Commands

theorem reduceSurfaceUnsubscribe_served {e : EvSurfaceUnsubscribe}
    (asked : ev.requester = some (e.connID, e.reqID)) : ServedBy s ev (reduceSurfaceUnsubscribe s e) := by
  unfold reduceSurfaceUnsubscribe
  dsimp only
  split
  · exact .answer asked rfl (by simp)
  refine .answer asked rfl ?_
  by_cases unnamed : e.reqID = "" <;> simp [unnamed]

theorem reduceSurfaceSubscribe_served {e : EvSurfaceSubscribe} (asked : ev.requester = some (e.connID, e.reqID)) :
    ServedBy s ev (reduceSurfaceSubscribe s e) := by
  fun_cases reduceSurfaceSubscribe s e
  all_goals exact .answer asked rfl (by simp [surfaceNotFound])

/-! ## Messages and capsules -/

theorem store_action {old : Session D} (routine : ev.routine = true) (kept : Kept s s')
    (found : s.sessions.get? sid = some old) (stored : s'.sessions = s.sessions.set sid sess)
    (same : sess.node = old.node) (effects : ∀ e ∈ effs, Ordinary env ev e) : Action env d s ev s' effs :=
  .quiet routine kept (graph_set_same found stored same) effects

theorem reduceReadSessionMessages_action {p : SessionMessagesParams} (routine : ev.routine = true)
    (asked : ev.requester = some (connID, reqID)) :
    ActionOf env d s ev (reduceReadSessionMessages s connID reqID p) := by
  fun_cases reduceReadSessionMessages s connID reqID p
  all_goals try exact .unchanged routine asked (by simp)
  rename_i found _ _ _ _ _
  refine store_action routine ⟨rfl, rfl, rfl, rfl, rfl⟩ found rfl rfl (ordinary_of_answers asked ?_)
  split <;> simp

theorem reduceFlagResumeCapsule_action {flagged : Bool} (routine : ev.routine = true)
    (asked : ev.requester = some (connID, reqID)) :
    ActionOf env d s ev (reduceFlagResumeCapsule s connID reqID sid flagged) := by
  fun_cases reduceFlagResumeCapsule s connID reqID sid flagged
  all_goals try exact .unchanged routine asked (by simp)
  rename_i sess found _ _ _
  refine store_action routine ⟨rfl, rfl, rfl, rfl, rfl⟩ found rfl rfl (ordinary_of_answers asked ?_)
  cases rootFrame sess with
  | none | some => simp

variable {err : Option String}

theorem reduceCapsuleJobResult_action {jobs : GoMap JobID JobMeta} {jobMeta : JobMeta}
    {result : CapsuleJobResult} (routine : ev.routine = true)
    (reduced : reduceCapsuleJobResult { s with jobs := jobs } jobMeta result err = (s', effs)) :
    Action env d s ev s' effs := by
  revert reduced
  fun_cases reduceCapsuleJobResult { s with jobs := jobs } jobMeta result err <;> intro reduced <;>
    obtain ⟨rfl, rfl⟩ := Prod.mk.inj reduced
  case case3 found _ _ _ _ | case5 found _ _ =>
    exact store_action routine ⟨rfl, rfl, rfl, rfl, rfl⟩ found rfl rfl (ordinary_of_plain rfl)
  all_goals exact .quiet routine ⟨rfl, rfl, rfl, rfl, rfl⟩ rfl (ordinary_of_plain rfl)

/-! ## Running a driver -/

theorem DriverOnly.action (only : DriverOnly base s') (routine : ev.routine = true)
    (kept : Kept s base) (graph : base.graph = s.graph) (effects : ∀ e ∈ effs, Ordinary env ev e) :
    Action env d s ev s' effs := by exact .quiet routine (kept.trans only.kept) (only.graph.trans graph) effects

variable {next : State D} {dev : DriverEvent D} {raws : List (Effect D)}

theorem driven_step (before : DriverOnly s base) (stepped : stepDriver env d base fid dev = .ok (some (next, raws))) :
    Driven env d s (resolvePushDriverEffects env d 0 next raws).1 raws
      (resolvePushDriverEffects env d 0 next raws).2 := by
  obtain ⟨only, sid, n, found, held, patched⟩ := stepDriver_spec stepped
  have ran := before.trans only
  cases resolved : resolvePushDriverEffects env d 0 next raws with
  | mk =>
    obtain ⟨rest, pushed⟩ := resolvePushDriverEffects_spec resolved
    rw [ran.graph] at pushed
    rw [before.graph] at found
    refine ⟨?_, ⟨sid, fid, n, found, held, patched⟩, pushed⟩
    rw [rest, ran.rest]

theorem okRespTo_ordinary (asked : ev.requester = some (connID, reqID)) :
    ∀ e ∈ ([.persistSnapshot, .broadcastSessionsChanged] ++ okRespTo connID reqID :
      List (Effect D)), Ordinary env ev e := by
  refine ordinary_of_answers asked ?_
  unfold okRespTo
  split <;> simp

theorem reduceDriverHook_action {e : EvDriverEvent} (reduced : reduceDriverHook env d s e = .ok (s', effs)) :
    Action env d s (.driverEvent e) s' effs := by
  have refused : ∀ {code message}, (Except.ok (s, [errResp e.connID e.reqID code message]) :
      Go (Reduced D)) = .ok (s', effs) → Action env d s (.driverEvent e) s' effs := by
    rintro code message ⟨⟩
    exact .unchanged rfl rfl (by simp)
  revert reduced
  fun_cases reduceDriverHook env d s e <;> intro reduced <;> try exact refused reduced
  obtain ⟨r, stepped, rest⟩ := bind_eq_ok.mp reduced
  cases r with
  | none => exact refused rest
  | some =>
    cases rest
    rw [append_assoc]
    exact .hook rfl (driven_step (.refl s) stepped) (okRespTo_ordinary rfl)

variable {i : Nat}

theorem retarget_spec {targetID : TargetID} (found : s.sessions.get? sid = some sess)
    (targeted : retarget s sid sess i targetID = .ok s') : DriverOnly s s' := by
  obtain ⟨frame, indexed, rest⟩ := bind_eq_ok.mp targeted
  split at rest
  · obtain ⟨frames, assigned, returned⟩ := bind_eq_ok.mp rest
    obtain ⟨_, rfl⟩ := assign_eq_ok.mp assigned
    cases returned
    refine .store found ?_
    have ids := map_id_set (index_eq_ok.mp indexed)
      (show ({ frame with targetID := targetID } : SessionFrame D).id = frame.id from rfl)
    simp only [Session.node, ids]
  · cases rest
    exact .refl s

/-- What a subsystem event comes to once the driver of its frame has run. -/
structure Taken (env : Env D) (d : Draw) (s : State D) (e : EvSubsystem D) (s' : State D)
    (effs : List (Effect D)) (mid : State D) (pushed tail : List (Effect D)) : Prop where
  driven : ∃ raws, Driven env d s mid raws pushed
  state : ∃ signals, s' = { (reduceHumanInput d mid e).1 with statusSignals := signals }
  effects : effs = pushed ++ (reduceHumanInput d mid e).2 ++ tail
  ordinary : ∀ x ∈ tail, Ordinary env (.subsystem e) x

theorem reduceSubsystem_taken {e : EvSubsystem D} {targeted : State D} (named : e.frameID ≠ "")
    (search : findFrame d s e.frameID = some (sid, sess, i))
    (moved : retarget s sid sess i e.payload.targetID = .ok targeted) (stepped : stepDriver env d targeted e.frameID
      (.subsystem e.source e.kind e.timestamp e.payload) = .ok (some (next, raws)))
    (reduced : reduceSubsystem env d s e = .ok (s', effs)) :
    ∃ mid pushed tail, Taken env d s e s' effs mid pushed tail := by
  unfold reduceSubsystem at reduced
  rw [if_neg named, search] at reduced
  dsimp only at reduced
  rw [moved, ok_bind, stepped, ok_bind] at reduced
  cases reduced
  have only := retarget_spec (findFrame_spec search).1 moved
  refine ⟨_, _, _, ⟨_, driven_step only stepped⟩, ?_, append_assoc _ [_, _] _, okRespTo_ordinary rfl⟩
  split <;> exact ⟨_, rfl⟩

theorem reduceSubsystem_action {e : EvSubsystem D} (reduced : reduceSubsystem env d s e = .ok (s', effs)) :
    Action env d s (.subsystem e) s' effs := by
  by_cases named : e.frameID = ""
  · unfold reduceSubsystem at reduced
    rw [if_pos named] at reduced
    cases reduced
    exact .unchanged rfl rfl (by simp)
  cases search : findFrame d s e.frameID with
  | none =>
    simp only [reduceSubsystem, named, if_false, search] at reduced
    cases reduced
    exact .unchanged rfl rfl (by simp)
  | some hit =>
    obtain ⟨sid, sess, i⟩ := hit
    have whole := reduced
    simp only [reduceSubsystem, named, if_false, search] at reduced
    obtain ⟨targeted, moved, reduced⟩ := bind_eq_ok.mp reduced
    obtain ⟨r, stepped, reduced⟩ := bind_eq_ok.mp reduced
    cases r with
    | none =>
      cases reduced
      exact (retarget_spec (findFrame_spec search).1 moved).action rfl (.refl s) rfl
        (ordinary_of_answers rfl (by simp))
    | some pair =>
      obtain ⟨next, raws⟩ := pair
      obtain ⟨mid, pushed, tail, ⟨_, driven⟩, ⟨_, rfl⟩, rfl, ordinary⟩ :=
        reduceSubsystem_taken named search moved stepped whole
      exact .subsystem rfl driven ordinary

theorem reduceJobResult_action {jobID : JobID} {result : JobResult D}
    (reduced : reduceJobResult env d s jobID result err = .ok (s', effs)) :
    Action env d s (.jobResult jobID result err) s' effs := by
  unfold reduceJobResult at reduced
  split at reduced
  · cases reduced
    exact .ignored rfl
  cases result with
  | capsule => exact reduceCapsuleJobResult_action rfl (Except.ok.inj reduced)
  | driver =>
    obtain ⟨r, stepped, rest⟩ := bind_eq_ok.mp reduced
    cases r with
    | none =>
      cases rest
      exact .quiet rfl ⟨rfl, rfl, rfl, rfl, rfl⟩ rfl (ordinary_of_plain rfl)
    | some =>
      cases rest
      obtain ⟨only, fromDriver⟩ := stepDriver_getD stepped
      refine only.action rfl ⟨rfl, rfl, rfl, rfl, rfl⟩ rfl ?_
      exact ordinary_append (fun e mem => .fromDriver (fromDriver e mem)) (ordinary_of_plain rfl)

variable {frameID : FrameID}

theorem reduceFileChanged_action {path : String} (reduced : reduceFileChanged env d s frameID path = .ok (s', effs)) :
    Action env d s (.fileChanged frameID path) s' effs := by
  unfold reduceFileChanged at reduced
  split at reduced
  · cases reduced
    exact .ignored rfl
  obtain ⟨r, stepped, rest⟩ := bind_eq_ok.mp reduced
  obtain ⟨only, fromDriver⟩ := stepDriver_getD stepped
  cases r with
  | none =>
    cases rest
    exact .ignored rfl
  | some pair =>
    obtain ⟨next, raws⟩ := pair
    have ordinary : ∀ e ∈ raws, Ordinary env (.fileChanged frameID path) e :=
      fun e mem => .fromDriver (fromDriver e mem)
    dsimp only at rest
    split at rest
    · cases rest
      exact only.action rfl (.refl s) rfl ordinary
    · cases rest
      exact only.action rfl (.refl s) rfl (ordinary_append ordinary (ordinary_of_plain rfl))

theorem appendMissing_ordinary (ordinary : ∀ e ∈ effs, Ordinary env ev e) :
    ∀ e ∈ appendMissingSessionRefreshEffects effs, Ordinary env ev e := by
  refine ordinary_append (ordinary_append ordinary (ordinary_of_plain ?_)) (ordinary_of_plain ?_)
  all_goals split <;> rfl

theorem logAndStep_action {line : String} (reduced : logAndStep env d base frameID line dev = .ok (s', effs))
    (routine : ev.routine = true) (kept : Kept s base) (graph : base.graph = s.graph) :
    Action env d s ev s' effs := by
  obtain ⟨r, stepped, rest⟩ := bind_eq_ok.mp reduced
  obtain ⟨only, fromDriver⟩ := stepDriver_getD stepped
  cases rest
  refine only.action routine kept graph (appendMissing_ordinary ?_)
  intro e mem
  rcases mem_cons.mp mem with rfl | emitted
  · exact .inl rfl
  · exact .fromDriver (fromDriver e emitted)

theorem reduceFrameOsc_action {e : EvFrameOsc} (reduced : reduceFrameOsc env d s e = .ok (s', effs)) :
    Action env d s (.frameOsc e) s' effs := by
  revert reduced
  fun_cases reduceFrameOsc env d s e <;> intro reduced
  case case2 | case4 => exact logAndStep_action reduced rfl (.refl s) rfl
  all_goals cases reduced
  case case6 | case9 => exact .quiet rfl ⟨rfl, rfl, rfl, rfl, rfl⟩ rfl (ordinary_of_plain rfl)
  all_goals exact .ignored rfl

theorem reduceFramePrompt_action {e : EvFramePrompt} (reduced : reduceFramePrompt env d s e = .ok (s', effs)) :
    Action env d s (.framePrompt e) s' effs := by
  unfold reduceFramePrompt at reduced
  dsimp only at reduced
  split at reduced
  · cases reduced
    exact .quiet rfl ⟨rfl, rfl, rfl, rfl, rfl⟩ rfl (ordinary_of_plain rfl)
  · exact logAndStep_action reduced rfl ⟨rfl, rfl, rfl, rfl, rfl⟩ rfl

/-! ## Ticks, evictions and requests -/

theorem maybeEnqueueOneCapsule_spec {eff : Effect D}
    (enqueued : maybeEnqueueOneCapsule env s sid sess = some (next, eff)) :
    Kept s next ∧ next.graph = s.graph ∧ eff.plain = true := by
  revert enqueued
  fun_cases maybeEnqueueOneCapsule env s sid sess <;> rintro ⟨⟩
  exact ⟨⟨rfl, rfl, rfl, rfl, rfl⟩, rfl, rfl⟩

theorem enqueueCapsules_spec (tickN : UInt64) (l : List (SessionID × Session D)) (s : State D) :
    Kept s (enqueueCapsules env tickN s l).1 ∧ (enqueueCapsules env tickN s l).1.graph = s.graph ∧
      (enqueueCapsules env tickN s l).2.all Effect.plain = true := by
  induction l generalizing s with
  | nil => exact ⟨.refl s, rfl, rfl⟩
  | cons entry rest ih =>
    obtain ⟨sid, sess⟩ := entry
    unfold enqueueCapsules
    split
    · cases enqueued : maybeEnqueueOneCapsule env s sid sess with
      | none => exact ih s
      | some pair =>
        obtain ⟨next, eff⟩ := pair
        obtain ⟨kept, graph, plain⟩ := ih next
        obtain ⟨first, same, job⟩ := maybeEnqueueOneCapsule_spec enqueued
        refine ⟨first.trans kept, graph.trans same, ?_⟩
        rw [all_cons, job, plain]
        rfl
    · exact ih s

theorem reduceTick_action {now : Time} {n : UInt64} (reduced : reduceTick env d s now n = .ok (s', effs)) :
    Action env d s (.tick now n) s' effs := by
  obtain ⟨scan, scanned, rest⟩ := bind_eq_ok.mp reduced
  obtain ⟨only, fromDriver⟩ := stepActiveSessions_spec scanned
  cases rest
  obtain ⟨kept, graph, plain⟩ : Kept scan.state (maybeEnqueueResumeCapsules env d scan.state n).1 ∧
      (maybeEnqueueResumeCapsules env d scan.state n).1.graph = scan.state.graph ∧
      (maybeEnqueueResumeCapsules env d scan.state n).2.all Effect.plain = true := by
    unfold maybeEnqueueResumeCapsules
    split
    · exact enqueueCapsules_spec n _ scan.state
    · exact ⟨.refl _, rfl, rfl⟩
  have ran : Kept s scan.state := .trans (t := { s with now := now }) ⟨rfl, rfl, rfl, rfl, rfl⟩ only.kept
  refine .tick rfl (ran.trans kept) (graph.trans only.graph) ?_ ?_
  · refine ordinary_append (ordinary_append ?_ (ordinary_of_plain ?_)) (ordinary_of_plain plain)
    · exact fun e mem => .fromDriver (fromDriver e mem)
    · split <;> rfl
  · refine ordinary_of_plain ?_
    split <;> rfl

theorem evictFrame_action {kill : Bool} {disposition : RootDisposition}
    {r : Option (Reduced D)} (evicts : ev.evicts = some (fid, kill, disposition))
    (evicted : evictFrame d s fid kill disposition = .ok r) :
    Action env d s ev (r.getD (s, [])).1 ((r.getD (s, [])).2 ++ ev.failureReply) := by
  rcases evictFrame_cases evicted with ⟨absent, rfl⟩ | ⟨sid, sess, found, rfl⟩ |
    ⟨sid, sess, i, rest, found, child, left, rfl⟩
  · exact .gone evicts absent
  · exact .evictRoot evicts found
  · exact .evictChild evicts found child left

theorem reduceFrameVanished_evicts (reduced : reduceFrameVanished d s frameID = .ok (s', effs)) :
    ∃ r, evictFrame d s frameID false .retainEndedSession = .ok r ∧ s' = (r.getD (s, [])).1 ∧
      effs = (r.getD (s, [])).2 ++ (Event.frameVanished frameID : Event D).failureReply := by
  obtain ⟨r, evicted, rest⟩ := bind_eq_ok.mp reduced
  have returned := Except.ok.inj rest
  refine ⟨r, evicted, by rw [returned], ?_⟩
  rw [returned]
  exact (append_nil _).symm

theorem reduceSpawnFailed_evicts {e : EvSpawnFailed} (reduced : reduceSpawnFailed d s e = .ok (s', effs)) :
    ∃ r, evictFrame d s e.frameID false .dropUnstartedSession = .ok r ∧ s' = (r.getD (s, [])).1 ∧
      effs = (r.getD (s, [])).2 ++ (Event.spawnFailed e : Event D).failureReply := by
  obtain ⟨r, evicted, rest⟩ := bind_eq_ok.mp reduced
  refine ⟨r, evicted, ?_⟩
  dsimp only [Event.failureReply] at rest ⊢
  split at rest
  · rename_i silent
    cases rest
    exact ⟨rfl, by simp [silent]⟩
  rename_i waiting
  cases rest
  exact ⟨rfl, by simp [waiting]⟩

variable {exitCode : Int}

theorem reduceFrameCommandExited_evicts (intentional : isIntentionalExit exitCode = true)
    (reduced : reduceFrameCommandExited env d s frameID exitCode = .ok (s', effs)) :
    ∃ r, evictFrame d s frameID true .retainEndedSession = .ok r ∧ s' = (r.getD (s, [])).1 ∧
      effs = (r.getD (s, [])).2 ++ (Event.frameCommandExited frameID exitCode : Event D).failureReply := by
  unfold reduceFrameCommandExited at reduced
  cases search : findFrame d s frameID with
  | none =>
    simp only [search] at reduced
    cases reduced
    exact ⟨none, by rw [evictFrame, search], rfl, rfl⟩
  | some =>
    simp only [search, intentional, if_true] at reduced
    obtain ⟨r, evicted, rest⟩ := bind_eq_ok.mp reduced
    have returned := Except.ok.inj rest
    refine ⟨r, evicted, by rw [returned], ?_⟩
    rw [returned]
    exact (append_nil _).symm

theorem reduceFrameVanished_action (reduced : reduceFrameVanished d s frameID = .ok (s', effs)) :
    Action env d s (.frameVanished frameID) s' effs := by
  obtain ⟨r, evicted, rfl, rfl⟩ := reduceFrameVanished_evicts reduced
  exact evictFrame_action rfl evicted

theorem reduceSpawnFailed_action {e : EvSpawnFailed} (reduced : reduceSpawnFailed d s e = .ok (s', effs)) :
    Action env d s (.spawnFailed e) s' effs := by
  obtain ⟨r, evicted, rfl, rfl⟩ := reduceSpawnFailed_evicts reduced
  exact evictFrame_action rfl evicted

theorem reduceFrameCommandExited_action
    (reduced : reduceFrameCommandExited env d s frameID exitCode = .ok (s', effs)) :
    Action env d s (.frameCommandExited frameID exitCode) s' effs := by
  cases intentional : isIntentionalExit exitCode with
  | true =>
    obtain ⟨r, evicted, rfl, rfl⟩ := reduceFrameCommandExited_evicts intentional reduced
    exact evictFrame_action (by simp [Event.evicts, intentional]) evicted
  | false =>
    unfold reduceFrameCommandExited at reduced
    simp only [intentional, Bool.false_eq_true, if_false] at reduced
    split at reduced
    · cases reduced
      exact .ignored rfl
    obtain ⟨frame, _, reduced⟩ := bind_eq_ok.mp reduced
    split at reduced
    · cases reduced
      rw [← nil_append [Effect.releaseFrame frameID]]
      exact .release rfl intentional (.refl s) rfl (forall_mem_nil _)
    obtain ⟨r, stepped, rest⟩ := bind_eq_ok.mp reduced
    obtain ⟨only, fromDriver⟩ := stepDriver_getD stepped
    cases rest
    exact .release rfl intentional only.kept only.graph fromDriver

theorem reduceFrameSpawned_action {e : EvFrameSpawned} (reduced : reduceFrameSpawned env d s e = .ok (s', effs)) :
    Action env d s (.frameSpawned e) s' effs := by
  rcases reduceFrameSpawned_spec reduced with ⟨absent, rfl, rfl⟩ | ⟨held, only, tap, boot, rfl, fromDriver⟩
  · exact .late rfl absent
  · exact .register rfl held only.kept only.graph fromDriver

theorem reduceApprovalRespond_action {e : EvApprovalRespond} :
    ActionOf env d s (.approvalRespond e) (reduceApprovalRespond d s e) := by
  fun_cases reduceApprovalRespond d s e
  case case3 => exact .approval rfl rfl ⟨fun _ => ⟨rfl, rfl, rfl⟩, fun _ => rfl⟩ (fun _ => rfl) fun _ => ⟨rfl, rfl, rfl⟩
  all_goals exact .unchanged rfl rfl (by simp)

theorem reduceApprovalCancel_action {e : EvApprovalCancel} :
    ActionOf env d s (.approvalCancel e) (reduceApprovalCancel d s e) := by
  unfold reduceApprovalCancel
  split
  · exact .unchanged rfl rfl (by simp)
  · exact .approval rfl rfl ⟨fun _ => ⟨rfl, rfl, rfl⟩, fun _ => rfl⟩ (fun _ => rfl) fun _ => ⟨rfl, rfl, rfl⟩

theorem reduceQuestionRespond_action {e : EvQuestionRespond} :
    ActionOf env d s (.questionRespond e) (reduceQuestionRespond d s e) := by
  unfold reduceQuestionRespond
  split
  · exact .unchanged rfl rfl (by simp)
  · exact .question rfl rfl ⟨fun _ => ⟨rfl, rfl, rfl⟩, fun _ => rfl⟩ (fun _ => rfl) fun _ => ⟨rfl, rfl, rfl⟩

theorem reduceQuestionCancel_action {e : EvQuestionCancel} :
    ActionOf env d s (.questionCancel e) (reduceQuestionCancel d s e) := by
  unfold reduceQuestionCancel
  split
  · exact .unchanged rfl rfl (by simp)
  · exact .question rfl rfl ⟨fun _ => ⟨rfl, rfl, rfl⟩, fun _ => rfl⟩ (fun _ => rfl) fun _ => ⟨rfl, rfl, rfl⟩

end AgentGrid.Host
