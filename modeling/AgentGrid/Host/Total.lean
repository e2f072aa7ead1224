import AgentGrid.Host.Reduce

/-!
# Which calls of the reducer return

Every index the reducers use was found by a search in the same list, so no call
runs out of range, whatever the state.  The one call on a declared event that does
not return is a repository event that arrives while the daemon is quiescing: the
admission table has no row for it.
-/

namespace AgentGrid.Host

open AgentGrid.Lib

variable {D : Type}

variable (env : Env D) (d : Draw) (s : State D) (fid : FrameID)

theorem reduceDriverHook_returns (e : EvDriverEvent) : Go.Returns (reduceDriverHook env d s e) := by
  unfold reduceDriverHook
  split
  · exact .ok _
  split
  · exact .ok _
  · refine (stepDriver_returns _ _ _ _ _).bind fun r _ => ?_
    cases r <;> exact .ok _

theorem retarget_returns {s : State D} {sid : SessionID} {sess : Session D} {i : Nat}
    {targetID : TargetID} (bound : i < sess.frames.length) : Go.Returns (retarget s sid sess i targetID) := by
  refine (Go.index_returns bound).bind fun frame _ => ?_
  split
  · exact (Go.assign_returns bound _).bind fun _ _ => .ok _
  · exact .ok _

theorem reduceSubsystem_returns (e : EvSubsystem D) : Go.Returns (reduceSubsystem env d s e) := by
  unfold reduceSubsystem
  split
  · exact .ok _
  cases search : findFrame d s e.frameID with
  | none => exact .ok _
  | some hit =>
    obtain ⟨sid, sess, i⟩ := hit
    refine (retarget_returns (findFrame_bound search)).bind fun targeted _ => ?_
    refine (stepDriver_returns _ _ _ _ _).bind fun r _ => ?_
    cases r <;> exact .ok _

theorem reduceSpawnFailed_returns (e : EvSpawnFailed) : Go.Returns (reduceSpawnFailed d s e) := by
  refine (evictFrame_returns d s e.frameID false .dropUnstartedSession).bind fun evicted _ => ?_
  dsimp only
  split <;> exact .ok _

theorem reduceFrameCommandExited_returns (exitCode : Int) :
    Go.Returns (reduceFrameCommandExited env d s fid exitCode) := by
  unfold reduceFrameCommandExited
  cases search : findFrame d s fid with
  | none => exact .ok _
  | some hit =>
    obtain ⟨sid, sess, i⟩ := hit
    dsimp only
    split
    · exact (evictFrame_returns _ _ _ _ _).bind fun _ _ => .ok _
    refine (Go.index_returns (findFrame_bound search)).bind fun frame _ => ?_
    split
    · exact .ok _
    · exact (stepDriver_returns _ _ _ _ _).bind fun _ _ => .ok _

theorem reduceJobResult_returns (jobID : JobID) (result : JobResult D) (err : Option String) :
    Go.Returns (reduceJobResult env d s jobID result err) := by
  unfold reduceJobResult
  cases s.jobs.get? jobID with
  | none => exact .ok _
  | some =>
    cases result with
    | capsule => exact .ok _
    | driver =>
      refine (stepDriver_returns _ _ _ _ _).bind fun r _ => ?_
      cases r <;> exact .ok _

theorem reduceFileChanged_returns (path : String) : Go.Returns (reduceFileChanged env d s fid path) := by
  fun_cases reduceFileChanged env d s fid path
  · exact .ok _
  refine (stepDriver_returns _ _ _ _ _).bind fun r _ => ?_
  cases r with
  | none => exact .ok _
  | some =>
    dsimp only
    split <;> exact .ok _

theorem logAndStep_returns (line : String) (ev : DriverEvent D) : Go.Returns (logAndStep env d s fid line ev) :=
  (stepDriver_returns _ _ _ _ _).bind fun _ _ => .ok _

theorem reduceFrameOsc_returns (e : EvFrameOsc) : Go.Returns (reduceFrameOsc env d s e) := by
  unfold reduceFrameOsc
  split
  · split
    · exact .ok _
    · exact logAndStep_returns _ _ _ _ _ _
  · split
    · exact .ok _
    · exact logAndStep_returns _ _ _ _ _ _
  · split <;> exact .ok _
  split
  · exact .ok _
  · split <;> exact .ok _

theorem reduceFramePrompt_returns (e : EvFramePrompt) : Go.Returns (reduceFramePrompt env d s e) := by
  unfold reduceFramePrompt
  dsimp only
  split
  · exact .ok _
  · exact logAndStep_returns _ _ _ _ _ _

theorem decoded_returns {α : Type} (s : State D) (connID : ConnID) (reqID : String)
    (payload : Payload α) (handler : α → Reduced D) :
    Go.Returns (decoded s connID reqID payload handler) := by cases payload <;> exact .ok _

theorem reduceEvent_returns (connID : ConnID) (reqID : String) {call : CommandEvent}
    (registered : call.registered = true) : Go.Returns (reduceEvent env d s connID reqID call) := by
  cases call with
  | unregistered => cases registered
  | _ => exact decoded_returns _ _ _ _ _

theorem reduceRunning_returns {ev : Event D} (registered : ev.Registered) :
    Go.Returns (reduceRunning env d s ev) := by
  cases ev with
  | event connID reqID => exact reduceEvent_returns env d s connID reqID registered
  | driverEvent e => exact reduceDriverHook_returns env d s e
  | subsystem e => exact reduceSubsystem_returns env d s e
  | frameSpawned e => exact reduceFrameSpawned_returns env d s e
  | spawnFailed e => exact reduceSpawnFailed_returns d s e
  | frameVanished => exact (evictFrame_returns _ _ _ _ _).bind fun _ _ => .ok _
  | frameCommandExited fid code => exact reduceFrameCommandExited_returns env d s fid code
  | tick => exact (stepActiveSessions_returns _ _ _ _).bind fun _ _ => .ok _
  | jobResult jobID result err => exact reduceJobResult_returns env d s jobID result err
  | fileChanged fid path => exact reduceFileChanged_returns env d s fid path
  | frameOsc e => exact reduceFrameOsc_returns env d s e
  | framePrompt e => exact reduceFramePrompt_returns env d s e
  | _ => exact .ok _

theorem reduceQuiescing_returns {ev : Event D} (registered : ev.Registered) (classified : ev.isRepository = false) :
    Go.Returns (reduceQuiescing env d s ev) := by
  cases ev with
  | event connID reqID =>
    simp only [reduceQuiescing]
    split
    · exact reduceEvent_returns env d s connID reqID registered
    · exact .ok _
  | repository => cases classified
  | _ => exact .ok _

/-- On declared events the reducer returns, except on a repository event while it is quiescing. -/
theorem reduce_returns_iff (env : Env D) (d : Draw) (s : State D) (ev : Event D) (registered : ev.Registered) :
    Go.Returns (reduce env d s ev) ↔ ¬ (s.lifecycle = .quiescing ∧ ev.isRepository = true) := by
  unfold reduce
  cases phase : s.lifecycle with
  | running =>
    simp only [reduceCtorEq, false_and, not_false_eq_true, iff_true]
    exact reduceRunning_returns env d s registered
  | quiescing =>
    simp only [true_and, Bool.not_eq_true]
    constructor
    · rintro ⟨result, returned⟩
      cases ev with
      | repository => cases returned
      | _ => rfl
    · exact reduceQuiescing_returns env d s registered

/-- The state after a shutdown request. -/
def quiescing : State Unit :=
  ((replay Env.inert (State.new {}) [('a', .event 1 "q" (.shutdown (.ok ())))]).get rfl).1

theorem reduce_returns_on_shutdown_request : quiescing.lifecycle = .quiescing ∧
      (Go.Returns (reduce Env.inert (Draw.tagged 'a') quiescing (.event 1 "q" (.shutdown (.ok ())))) ↔
        ¬ (quiescing.lifecycle = .quiescing ∧
          (Event.event 1 "q" (.shutdown (.ok ())) : Event Unit).isRepository = true)) :=
  ⟨rfl, reduce_returns_iff Env.inert (Draw.tagged 'a') quiescing (.event 1 "q" (.shutdown (.ok ()))) rfl⟩

/-- A clone that finishes after a shutdown request reaches the branch that panics. -/
theorem repository_event_panics_while_quiescing :
    ∃ s : State Unit, Reachable Env.inert s ∧ s.lifecycle = .quiescing ∧ ∀ d : Draw, reduce Env.inert d s
        (.repository { kind := .cloneReady, preparationID := "p", observedRevision := 2 }) = .error (.explicit
            "state.reduceQuiescing: unclassified event type state.EvRepository") :=
  ⟨quiescing, replay_reachable _ _ _ rfl, rfl, fun _ => rfl⟩

end AgentGrid.Host
