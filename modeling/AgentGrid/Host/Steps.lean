import AgentGrid.Host.Classify

/-!
# The steps of the daemon

The classification assembled over the two dispatch tables.  A step of the running
daemon is an action; a step of the quiescing daemon serves a client, refuses, or
moves the shutdown transaction.
-/

namespace AgentGrid.Host

open AgentGrid.Lib

variable {D : Type} {env : Env D} {d : Draw} {s s' : State D} {ev : Event D}
  {effs : List (Effect D)}

/-! ## The running daemon -/

variable {α : Type} {connID : ConnID} {reqID : String}

variable {payload : Payload α} {handler : α → Reduced D}

theorem decoded_action (routine : ev.routine = true) (asked : ev.requester = some (connID, reqID))
    (reduced : decoded s connID reqID payload handler = .ok (s', effs))
    (goesOn : ∀ p, payload = .ok p → Action env d s ev (handler p).1 (handler p).2) : Action env d s ev s' effs := by
  rcases decoded_cases reduced with ⟨message, rfl, rfl⟩ | ⟨p, accepted, handled⟩
  · exact .unchanged routine asked (by simp [errResp])
  simpa only [handled] using goesOn p accepted

variable {call : CommandEvent}

theorem reduceEvent_action (reduced : reduceEvent env d s connID reqID call = .ok (s', effs)) :
    Action env d s (.event connID reqID call) s' effs := by
  cases call with
  | createSession =>
    rcases decoded_cases reduced with ⟨message, rfl, rfl⟩ | ⟨p, _, handled⟩
    · exact .refuse rfl rfl
    · exact reduceCreateSession_action rfl rfl handled
  | pushDriver =>
    rcases decoded_cases reduced with ⟨message, rfl, rfl⟩ | ⟨p, rfl, handled⟩
    · exact .refuse rfl rfl
    · exact reducePushDriver_action rfl handled
  | forkSession =>
    rcases decoded_cases reduced with ⟨message, rfl, rfl⟩ | ⟨p, _, handled⟩
    · exact .refuse rfl rfl
    · exact reduceForkSession_action rfl rfl handled
  | stopSession =>
    refine decoded_action rfl rfl reduced ?_
    rintro sid rfl
    exact reduceStopSession_action rfl rfl
  | setHeadFrame =>
    refine decoded_action rfl rfl reduced ?_
    rintro ⟨sid, fid⟩ rfl
    exact reduceSetHeadFrame_action rfl rfl
  | shutdown =>
    refine decoded_action rfl rfl reduced ?_
    rintro ⟨⟩ rfl
    exact .shutdown rfl
  | listSessions => exact decoded_action rfl rfl reduced fun _ _ => (reduceListSessions_served rfl).action rfl
  | listSessionMessages =>
    exact decoded_action rfl rfl reduced fun p _ => (reduceListSessionMessages_served rfl p).action rfl
  | readSessionMessages => exact decoded_action rfl rfl reduced fun _ _ => reduceReadSessionMessages_action rfl rfl
  | createRepositorySession =>
    exact decoded_action rfl rfl reduced fun _ _ => (reduceRepositoryCreate_prepared rfl).action rfl rfl
  | getRepositoryPreparation =>
    refine decoded_action rfl rfl reduced fun p _ => ?_
    unfold reduceRepositoryPreparationEvent
    split
    · exact .unchanged rfl rfl (by simp [errResp])
    · exact .unchanged rfl rfl (by simp [okResp])
  | listResumeCapsules =>
    exact decoded_action rfl rfl reduced fun _ _ => .unchanged rfl rfl (by simp [reduceListResumeCapsules])
  | flagResumeCapsule => exact decoded_action rfl rfl reduced fun _ _ => reduceFlagResumeCapsule_action rfl rfl
  | unregistered => cases reduced

theorem currentShutdown_running (running : s.lifecycle = .running) (id : Nat) : currentShutdown s id = none := by
  simp [currentShutdown, running]

section Stale

variable {id : Nat} (stale : currentShutdown s id = none)

include stale

theorem reduceShutdownSaveSucceeded_stale : reduceShutdownSaveSucceeded s id = (s, []) := by
  rw [reduceShutdownSaveSucceeded, stale]

theorem reduceShutdownSaveFailed_stale (err : String) : reduceShutdownSaveFailed s id err = (s, []) := by
  rw [reduceShutdownSaveFailed, stale]

theorem reduceShutdownCleanupFinished_stale (outcome : ShutdownCleanupOutcome) :
    reduceShutdownCleanupFinished s id outcome = (s, []) := by
  unfold reduceShutdownCleanupFinished
  rw [stale]

end Stale

theorem reduceRunning_action (running : s.lifecycle = .running)
    (reduced : reduceRunning env d s ev = .ok (s', effs)) : Action env d s ev s' effs := by
  have returned : ∀ {r}, .ok r = reduceRunning env d s ev →
      Action env d s ev r.1 r.2 → Action env d s ev s' effs := by
    intro r same action
    cases same.trans reduced
    exact action
  cases ev with
  | event => exact reduceEvent_action reduced
  | driverEvent => exact reduceDriverHook_action reduced
  | subsystem => exact reduceSubsystem_action reduced
  | frameSpawned => exact reduceFrameSpawned_action reduced
  | spawnFailed => exact reduceSpawnFailed_action reduced
  | frameVanished => exact reduceFrameVanished_action reduced
  | frameCommandExited => exact reduceFrameCommandExited_action reduced
  | tick => exact reduceTick_action reduced
  | jobResult => exact reduceJobResult_action reduced
  | fileChanged => exact reduceFileChanged_action reduced
  | frameOsc => exact reduceFrameOsc_action reduced
  | framePrompt => exact reduceFramePrompt_action reduced
  | shutdownSaveBarrierSucceeded id =>
    refine returned rfl ?_
    rw [reduceShutdownSaveSucceeded_stale (currentShutdown_running running id)]
    exact .ignored rfl
  | shutdownSaveBarrierFailed id =>
    refine returned rfl ?_
    rw [reduceShutdownSaveFailed_stale (currentShutdown_running running id)]
    exact .ignored rfl
  | shutdownCleanupFinished id =>
    refine returned rfl ?_
    rw [reduceShutdownCleanupFinished_stale (currentShutdown_running running id)]
    exact .ignored rfl
  | connOpened connID => exact returned rfl ((reduceConnOpened_served connID).action rfl)
  | connClosed connID => exact returned rfl ((reduceConnClosed_served connID).action rfl)
  | subscribe connID reqID filters => exact returned rfl ((reduceSubscribe_served rfl filters).action rfl)
  | unsubscribe => exact returned rfl ((reduceUnsubscribe_served rfl).action rfl)
  | surfaceReadText connID reqID sid lines =>
    exact returned rfl ((reduceSurfaceReadText_served rfl sid lines).action rfl)
  | surfaceSendText | surfaceSendKey => exact returned rfl ((onSession_served rfl (by simp)).action rfl)
  | driverList => exact returned rfl ((reduceDriverList_served rfl).action rfl)
  | surfaceSubscribe => exact returned rfl ((reduceSurfaceSubscribe_served rfl).action rfl)
  | surfaceUnsubscribe => exact returned rfl ((reduceSurfaceUnsubscribe_served rfl).action rfl)
  | surfaceResize | surfaceWriteRaw => exact returned rfl ((onSession_served rfl (by simp [okResp])).action rfl)
  | approvalRespond => exact returned rfl reduceApprovalRespond_action
  | approvalCancel => exact returned rfl reduceApprovalCancel_action
  | questionRespond => exact returned rfl reduceQuestionRespond_action
  | questionCancel => exact returned rfl reduceQuestionCancel_action
  | repository => exact returned rfl (reduceRepository_prepared.action rfl rfl)

theorem reduceRunning_evicts {fid : FrameID} {kill : Bool} {disposition : RootDisposition}
    (evicts : ev.evicts = some (fid, kill, disposition)) (reduced : reduceRunning env d s ev = .ok (s', effs)) :
    ∃ r, evictFrame d s fid kill disposition = .ok r ∧ s' = (r.getD (s, [])).1 ∧
      effs = (r.getD (s, [])).2 ++ ev.failureReply := by
  revert evicts
  fun_cases Event.evicts ev <;> rintro ⟨⟩
  · exact reduceFrameVanished_evicts reduced
  · exact reduceFrameCommandExited_evicts ‹_› reduced
  · exact reduceSpawnFailed_evicts reduced

/-! ## The quiescing daemon -/

inductive Admitted (s : State D) (ev : Event D) : State D → List (Effect D) → Prop where
  | served {s' : State D} {effs : List (Effect D)} (other : ev.spawns = false)
      (served : Served s ev s' effs) : Admitted s ev s' effs
  | refuse {connID : ConnID} {reqID : String} (spawns : ev.spawns = true)
      (asked : ev.requester = some (connID, reqID)) : Admitted s ev s [unavailable connID reqID]
  | join {connID : ConnID} {reqID : String}
      (asked : ev = .event connID reqID (.shutdown (.ok ()))) :
      Admitted s ev (reduceShutdown s connID reqID).1 (reduceShutdown s connID reqID).2
  | saved {id : Nat} (asked : ev = .shutdownSaveBarrierSucceeded id) :
      Admitted s ev (reduceShutdownSaveSucceeded s id).1 (reduceShutdownSaveSucceeded s id).2
  | saveFailed {id : Nat} {err : String} (asked : ev = .shutdownSaveBarrierFailed id err) :
      Admitted s ev (reduceShutdownSaveFailed s id err).1 (reduceShutdownSaveFailed s id err).2
  | cleaned {id : Nat} {outcome : ShutdownCleanupOutcome}
      (asked : ev = .shutdownCleanupFinished id outcome) :
      Admitted s ev (reduceShutdownCleanupFinished s id outcome).1 (reduceShutdownCleanupFinished s id outcome).2

theorem unavailable_served (asked : ev.requester = some (connID, reqID)) : Served s ev s [unavailable connID reqID] :=
  .answer asked rfl (by simp [unavailable, errResp])

theorem unavailableTo_served (asked : ev.requester = some (connID, reqID)) :
    Served s ev s (unavailableTo connID reqID) := by
  unfold unavailableTo
  split
  · exact unavailable_served asked
  · exact ⟨rfl, List.forall_mem_nil _⟩

theorem decoded_admitted (other : ev.spawns = false) (asked : ev.requester = some (connID, reqID))
    (reduced : decoded s connID reqID payload handler = .ok (s', effs))
    (goesOn : ∀ p, payload = .ok p → Admitted s ev (handler p).1 (handler p).2) : Admitted s ev s' effs := by
  rcases decoded_cases reduced with ⟨message, rfl, rfl⟩ | ⟨p, accepted, handled⟩
  · exact .served other (.answer asked rfl (by simp [errResp]))
  simpa only [handled] using goesOn p accepted

theorem reduceQuiescing_event (reduced : reduceQuiescing env d s (.event connID reqID call) = .ok (s', effs)) :
    Admitted s (.event connID reqID call) s' effs := by
  have refused : call.servedQuiescing = false → s' = s ∧ effs = [unavailable connID reqID] := by
    intro notServed
    simp only [reduceQuiescing, notServed, Bool.false_eq_true, if_false] at reduced
    cases reduced
    exact ⟨rfl, rfl⟩
  cases call with
  | shutdown =>
    refine decoded_admitted rfl rfl reduced ?_
    rintro ⟨⟩ rfl
    exact .join rfl
  | listSessions => exact decoded_admitted rfl rfl reduced fun _ _ => .served rfl (reduceListSessions_served rfl)
  | listSessionMessages =>
    exact decoded_admitted rfl rfl reduced fun p _ => .served rfl (reduceListSessionMessages_served rfl p)
  | createSession payload | pushDriver payload | forkSession payload =>
    obtain ⟨rfl, rfl⟩ := refused rfl
    exact .refuse rfl rfl
  | _ =>
    obtain ⟨rfl, rfl⟩ := refused rfl
    exact .served rfl (unavailable_served rfl)

theorem reduceQuiescing_admitted (reduced : reduceQuiescing env d s ev = .ok (s', effs)) : Admitted s ev s' effs := by
  have returned : ∀ {r}, .ok r = reduceQuiescing env d s ev → Admitted s ev r.1 r.2 → Admitted s ev s' effs := by
    intro r same admitted
    cases same.trans reduced
    exact admitted
  have nothing : Served s ev s [] := ⟨rfl, List.forall_mem_nil _⟩
  cases ev with
  | event => exact reduceQuiescing_event reduced
  | shutdownSaveBarrierSucceeded => exact returned rfl (.saved rfl)
  | shutdownSaveBarrierFailed => exact returned rfl (.saveFailed rfl)
  | shutdownCleanupFinished => exact returned rfl (.cleaned rfl)
  | connOpened connID => exact returned rfl (.served rfl (reduceConnOpened_served connID))
  | connClosed connID => exact returned rfl (.served rfl (reduceConnClosed_served connID))
  | driverList => exact returned rfl (.served rfl (reduceDriverList_served rfl))
  | surfaceReadText connID reqID sid lines =>
    exact returned rfl (.served rfl (reduceSurfaceReadText_served rfl sid lines))
  | subscribe connID reqID filters => exact returned rfl (.served rfl (reduceSubscribe_served rfl filters))
  | unsubscribe => exact returned rfl (.served rfl (reduceUnsubscribe_served rfl))
  | surfaceUnsubscribe => exact returned rfl (.served rfl (reduceSurfaceUnsubscribe_served rfl))
  | driverEvent | subsystem => exact returned rfl (.served rfl (unavailableTo_served rfl))
  | surfaceSubscribe | approvalRespond | approvalCancel | questionRespond | questionCancel | surfaceSendText
  | surfaceSendKey | surfaceWriteRaw | surfaceResize => exact returned rfl (.served rfl (unavailable_served rfl))
  | repository => cases reduced
  | _ => exact returned rfl (.served rfl nothing)

/-- Only the connected clients and the shutdown transaction change. -/
def Frozen (s s' : State D) : Prop :=
  s' = { s with
    lifecycle := s'.lifecycle, shutdown := s'.shutdown, nextShutdownID := s'.nextShutdownID,
    nextConnID := s'.nextConnID, subscribers := s'.subscribers, surfaceSubs := s'.surfaceSubs }

theorem Frozen.graph (frozen : Frozen s s') : s'.graph = s.graph := by
  rw [frozen]
  rfl

theorem Frozen.requests (frozen : Frozen s s') :
    s'.pendingApprovals = s.pendingApprovals ∧ s'.pendingQuestions = s.pendingQuestions := by
  rw [frozen]
  exact ⟨rfl, rfl⟩

theorem Served.frozen (served : Served s ev s' effs) : Frozen s s' := by
  have same := served.rest
  rw [same]
  rfl

theorem reduceShutdown_frozen (connID : ConnID) (reqID : String) : Frozen s (reduceShutdown s connID reqID).1 := by
  unfold reduceShutdown
  cases s.lifecycle with
  | running | quiescing => rfl

theorem Admitted.frozen (admitted : Admitted s ev s' effs) : Frozen s s' := by
  cases admitted with
  | served _ served => exact served.frozen
  | refuse => rfl
  | join => exact reduceShutdown_frozen _ _
  | saved =>
    unfold reduceShutdownSaveSucceeded
    split <;> rfl
  | saveFailed =>
    unfold reduceShutdownSaveFailed
    split <;> rfl
  | cleaned =>
    unfold reduceShutdownCleanupFinished
    split <;> rfl

/-! ## Steps -/

theorem Step.cases (step : Step env s (ev, effs) s') :
    (s.lifecycle = .running ∧ ∃ d : Draw, d.Fresh s ∧ Action env d s ev s' effs) ∨
      (s.lifecycle = .quiescing ∧ Admitted s ev s' effs) := by
  obtain ⟨d, fresh, reduced⟩ := step
  unfold reduce at reduced
  cases phase : s.lifecycle with
  | running =>
    rw [phase] at reduced
    exact .inl ⟨rfl, d, fresh, reduceRunning_action phase reduced⟩
  | quiescing =>
    rw [phase] at reduced
    exact .inr ⟨rfl, reduceQuiescing_admitted reduced⟩

end AgentGrid.Host
