import AgentGrid.Host.Evict

/-!
# Creating, pushing, forking and stopping sessions

The reducers of the session commands and of the two events the runtime answers a
spawn with.  A new session or frame is named by the identifiers of the draw.
-/

namespace AgentGrid.Host

open AgentGrid.Lib Go State

variable {D : Type}

variable (env : Env D) (d : Draw) (s : State D) (e : EvFrameSpawned) (frameID : FrameID)
  (sess : Session D) (connID : ConnID) (sid : SessionID) (reqID : String)

def resolveCreateCommand (command : String) : String :=
  let command := if command = "" then s.defaultCommand else command
  let command := if command = "" then "shell" else command
  (s.aliases.get? command).getD command

def prepareSessionDriver (drv : Driver D) (sessID : SessionID) (project command : String)
    (options : LaunchOptions) : Except String (DriverState D × CreateLaunch) :=
  let driverState := drv.newState s.now
  match drv.prepareCreate with
  | some prepareCreate => prepareCreate driverState sessID project command options
  | none => .ok (driverState, ⟨command, project, options⟩)

def reduceCreateSession (p : CreateSessionParams) : Reduced D :=
  if p.project = "" then (s, [errResp connID reqID errCodeInvalidArgument "project arg required"])
  else
    let command := resolveCreateCommand s p.command
    let sessID := d.alloc 0
    match env.getDriver command with
    | none => (s, [errResp connID reqID errCodeUnsupported ("no driver registered for command " ++ command)])
    | some drv =>
      match prepareSessionDriver s drv sessID p.project command p.options with
      | .error err => (s, [errResp connID reqID errCodeInvalidArgument err])
      | .ok (driverState, createLaunch) =>
        let rootFrameID := d.alloc 1
        match drv.prepareLaunch driverState p.project createLaunch.command createLaunch.options with
        | .error err => (s, [errResp connID reqID errCodeInvalidArgument err])
        | .ok plan =>
          let launch := { plan with project := p.project }
          let session : Session D :=
            { id := sessID, project := p.project, createdAt := s.now
              headFrameID := rootFrameID, command := command, launchOptions := p.options, driver := driverState
              frames :=
                [{ id := rootFrameID, targetID := rootFrameID, project := p.project
                   command := command, launchOptions := launch.options, createdAt := s.now, driver := driverState }] }
          ({ s with sessions := s.sessions.set sessID session }, [spawnEffect sessID rootFrameID launch connID reqID])

/-- The child starts in the directory of its parent when both drivers know about directories. -/
def withParentDir (parent : Driver D) (parentState : DriverState D) (child : Driver D)
    (childState : DriverState D) : DriverState D :=
  match parent.startDirAware with
  | none => childState
  | some reader =>
    let dir := reader.startDir parentState
    if dir = "" then childState
    else
      match child.startDirAware with
      | none => childState
      | some writer => writer.withStartDir childState dir

structure PushPlan (D : Type) where
  (project command : String)
  driverState : DriverState D
  launch : LaunchPlan D

/-- What `pushDriverInternal` settles before the frame is stored, and its errors. -/
def planPush (sess : Session D) (project rawCommand : String) (options : LaunchOptions) (input : List UInt8) :
    Except String (PushPlan D) :=
  let project := if project = "" then sess.project else project
  let options := { options with initialInput := input }
  let command := resolveCreateCommand s rawCommand
  match env.getDriver command with
  | none => .error ("no driver registered for command " ++ command)
  | some drv =>
    match prepareSessionDriver s drv sid project command options with
    | .error err => .error err
    | .ok (prepared, createLaunch) =>
      let driverState := match rootFrame sess with
        | none => prepared
        | some rootF =>
          match env.getDriver rootF.command with
          | none => prepared
          | some rootDrv => withParentDir rootDrv rootF.driver drv prepared
      match drv.prepareLaunch driverState project createLaunch.command createLaunch.options with
      | .error err => .error err
      | .ok plan => .ok ⟨project, command, driverState, { plan with project := project }⟩

/-- The session with the pushed frame as its head. -/
def pushFrame (frameID : FrameID) (plan : PushPlan D) : Session D :=
  let remembered := pushMRU sess sess.headFrameID
  bumpFrameGeneration
    { remembered with
      headFrameID := frameID, frames := sess.frames ++
        [{ id := frameID, targetID := frameID, project := plan.project, command := plan.command
           launchOptions := plan.launch.options, createdAt := s.now, driver := plan.driverState }] }

/-- `pushDriverInternal`; `frameID` is the identifier it allocates. -/
def pushDriverInternal (project rawCommand : String) (options : LaunchOptions) (input : List UInt8)
    (connID : ConnID) (reqID : String) : Except String (Reduced D) :=
  match s.sessions.get? sid with
  | none => .error "session not found"
  | some sess =>
    match planPush env s sid sess project rawCommand options input with
    | .error err => .error err
    | .ok plan =>
      .ok ({ s with sessions := s.sessions.set sid (pushFrame s sess frameID plan) },
        [spawnEffect sid frameID plan.launch connID reqID])

def reducePushDriver (p : PushDriverParams) : Reduced D :=
  if p.sessionID = "" then (s, [errResp connID reqID errCodeInvalidArgument "session_id required"])
  else if (s.sessions.get? p.sessionID).isNone then (s, [errResp connID reqID errCodeNotFound "session not found"])
  else
    match pushDriverInternal env s (d.alloc 0) p.sessionID p.project p.command p.options p.input connID reqID with
    | .error err => (s, [errResp connID reqID errCodeInvalidArgument err])
    | .ok pushed => pushed

/-- `resolvePushDriverEffects`; the push at position `k` of the list allocates `d.alloc k`. -/
def resolvePushDriverEffects (env : Env D) (d : Draw) : Nat → State D → List (Effect D) → Reduced D
  | _, s, [] => (s, [])
  | k, s, .pushDriver sid command :: rest =>
    match pushDriverInternal env s (d.alloc k) sid "" command {} [] 0 "" with
    | .error _ => resolvePushDriverEffects env d (k + 1) s rest
    | .ok (next, pushEffs) =>
      let others := resolvePushDriverEffects env d (k + 1) next rest
      (others.1, pushEffs ++ others.2)
  | k, s, eff :: rest =>
    let others := resolvePushDriverEffects env d (k + 1) s rest
    (others.1, eff :: others.2)

/-! ## Forks -/

structure ForkDrivers (D : Type) where
  rootDrv : Driver D
  forkable : Forkable D
  forkDrv : Driver D
  forkCommand : String

/-- `resolveForkDrv`; the error is the message of its reply, always with code `unsupported`. -/
def resolveForkDrv (rootF : SessionFrame D) : Except String (ForkDrivers D) :=
  match env.getDriver rootF.command with
  | none => .error ("no driver for command " ++ rootF.command)
  | some rootDrv =>
    match rootDrv.forkable with
    | none => .error (rootDrv.name ++ " driver does not support fork")
    | some forkable =>
      match forkable.forkCommand rootF.driver rootF.command with
      | none => .error "fork not available (session ID not yet established)"
      | some forkCmd =>
        let forkCommand := resolveCreateCommand s forkCmd
        match env.getDriver forkCommand with
        | none => .error ("no driver for fork command " ++ forkCommand)
        | some forkDrv => .ok ⟨rootDrv, forkable, forkDrv, forkCommand⟩

def makeForkSession (src : Session D) (newSessID : SessionID) (rootFrameID : FrameID)
    (durableCommand : String) (opts frameOpts : LaunchOptions) (driverState : DriverState D) : Session D :=
  { id := newSessID, project := src.project, createdAt := s.now, headFrameID := rootFrameID
    command := durableCommand, launchOptions := opts, driver := driverState
    frames :=
      [{ id := rootFrameID, project := src.project, command := durableCommand
         launchOptions := frameOpts, createdAt := s.now, driver := driverState }] }

def spawnForkSession (sess : Session D) (forkDrv : Driver D) (childState : DriverState D)
    (durableCommand launchCommand : String) (opts : LaunchOptions) : Reduced D :=
  let newSessID := d.alloc 0
  let driverState := match forkDrv.withForkSessionID with
    | none => childState
    | some setter => setter childState newSessID
  let rootFrameID := d.alloc 1
  match forkDrv.prepareLaunch driverState sess.project launchCommand opts with
  | .error err => (s, [errResp connID reqID errCodeInvalidArgument err])
  | .ok plan =>
    let launch := { plan with project := sess.project }
    let newSess := makeForkSession s sess newSessID rootFrameID durableCommand opts launch.options driverState
    ({ s with sessions := s.sessions.set newSessID newSess }, [spawnEffect newSessID rootFrameID launch connID reqID])

def buildForkSession (sess : Session D) (rootF : SessionFrame D) (drvs : ForkDrivers D) : Reduced D :=
  let childState := withParentDir drvs.rootDrv rootF.driver drvs.forkDrv
    (drvs.forkable.forkChildState rootF.driver s.now)
  spawnForkSession d s connID reqID sess drvs.forkDrv childState rootF.command drvs.forkCommand {}

def reduceForkSession (sid : SessionID) : Reduced D :=
  if sid = "" then (s, [errResp connID reqID errCodeInvalidArgument "session_id required"])
  else
    match s.sessions.get? sid with
    | none => (s, [errResp connID reqID errCodeNotFound "session not found"])
    | some sess =>
      match rootFrame sess with
      | none => (s, [errResp connID reqID errCodeInvalidArgument "session has no root frame"])
      | some rootF =>
        match resolveForkDrv env s rootF with
        | .error err => (s, [errResp connID reqID errCodeUnsupported err])
        | .ok drvs => buildForkSession d s connID reqID sess rootF drvs

/-! ## Stopping, selecting and listing -/

def reduceStopSession (sid : SessionID) : Reduced D :=
  match s.sessions.get? sid with
  | none => (s, [errResp connID reqID errCodeNotFound "session not found"])
  | some sess =>
    let removed := truncateFrames sess 0
    ({ s with sessions := s.sessions.set sid (endSession sess s.now) },
      [.broadcastSessionsChanged] ++ teardownAll removed true ++ [okResp connID reqID .empty, .persistSnapshot])

def reduceSetHeadFrame (sid : SessionID) (fid : FrameID) : Reduced D :=
  match s.sessions.get? sid with
  | none => (s, [errResp connID reqID errCodeNotFound "session not found"])
  | some sess =>
    if (findFrameIndex sess fid).isNone then (s, [errResp connID reqID errCodeNotFound "frame not found"])
    else if sess.headFrameID = fid then (s, [okResp connID reqID .empty])
    else
      ({ s with
          sessions := s.sessions.set sid
            { pushMRU sess sess.headFrameID with headFrameID := fid } },
        [okResp connID reqID .empty, .persistSnapshot, .broadcastSessionsChanged])

def reduceListSessions : Reduced D :=
  (s, [okResp connID reqID .sessions])

/-! ## Answers to a spawn -/

/-- Record the backend the subsystem factory chose for the frame. -/
def recordSubsystem (sess : Session D) (frameIdx : Nat) (subsystemID : SubsystemID) :
    Go (State D × Session D) := do
  let frame ← Go.index sess.frames frameIdx
  if subsystemID ≠ "" ∧ frame.subsystemID ≠ subsystemID then
    let frames ← Go.assign sess.frames frameIdx { frame with subsystemID := subsystemID }
    let recorded := { sess with frames := frames }
    return ({ s with sessions := s.sessions.set sid recorded }, recorded)
  else return (s, sess)

/-- Tell the driver about the worktree the subsystem created; the effects of that step are
discarded. -/
def resolveWorktree : Go (State D) :=
  if e.worktreeStartDir = "" then .ok s
  else do
    let stepped ← stepDriver env d s e.frameID (.worktreeResolved e.worktreeStartDir e.worktreeName)
    return (stepped.getD (s, [])).1

def bootstrapRoot (frameIdx : Nat) : Go (Reduced D) :=
  if frameIdx = 0 then do
    let booted ← bootstrapDriverSessionStart env d s frameID
    return booted.getD (s, [])
  else .ok (s, [])

/-- The effects after the driver's own when a frame has come up. -/
def spawnedEffects (tap : Bool) : List (Effect D) :=
  [.registerFrame e.frameID tap, .persistSnapshot, .broadcastSessionsChanged] ++
    (if e.replyConn ≠ 0 then [okResp e.replyConn e.replyReqID (.createSession e.sessionID)]
    else [])

def reduceFrameSpawned : Go (Reduced D) :=
  match s.sessions.get? e.sessionID with
  | none => .ok (s, [])
  | some found =>
    match findFrameIndex found e.frameID with
    | none => .ok (s, [])
    | some frameIdx => do
        let (recorded, sess) ← recordSubsystem s e.sessionID found frameIdx e.subsystemID
        let moved ← resolveWorktree env d recorded e
        let (next, bootstrapEffs) ← bootstrapRoot env d moved e.frameID frameIdx
        let frame ← Go.index sess.frames frameIdx
        return (next, bootstrapEffs ++ spawnedEffects e (frameIdx == 0 || frame.subsystemID != ""))

def reduceSpawnFailed (e : EvSpawnFailed) :
    Go (Reduced D) := do
  let evicted ← evictFrame d s e.frameID false .dropUnstartedSession
  let (next, effs) := evicted.getD (s, [])
  if e.replyConn = 0 then return (next, effs)
  else return (next, effs ++ [errResp e.replyConn e.replyReqID errCodeInternal ("frame spawn failed: " ++ e.err)])

/-! ## The graph behind a push -/

theorem pushFrame_node (fid : FrameID) (plan : PushPlan D) :
    (pushFrame s sess fid plan).node = sess.node.push fid := by
  have remembered : (pushMRU sess sess.headFrameID).mruFrameIDs = sess.node.remember := by
    unfold pushMRU Node.remember
    split
    · rename_i unset
      rw [if_pos (show sess.node.head = "" from unset)]
      rfl
    rename_i named
    rw [if_neg (show ¬ sess.node.head = "" from named)]
    rfl
  have same : pushMRU sess sess.headFrameID =
      { sess with mruFrameIDs := (pushMRU sess sess.headFrameID).mruFrameIDs } := by
    unfold pushMRU
    split <;> rfl
  rw [pushFrame, same, remembered]
  simp [bumpFrameGeneration, Node.remember]

/-- What `resolvePushDriverEffects` does to the graph, effect by effect: pass it on, skip a refused
push, or push a frame. -/
inductive Pushed (d : Draw) : Nat → Graph → List (Effect D) → Graph → List (Effect D) → Prop where
  | nil {k : Nat} {g : Graph} : Pushed d k g [] g []
  | pass {k : Nat} {g g' : Graph} {e : Effect D} {raws effs : List (Effect D)} :
      Pushed d (k + 1) g raws g' effs → Pushed d k g (e :: raws) g' (e :: effs)
  | skip {k : Nat} {g g' : Graph} {sid : SessionID} {command : String}
      {raws effs : List (Effect D)} :
      Pushed d (k + 1) g raws g' effs → Pushed d k g (.pushDriver sid command :: raws) g' effs
  | push {k : Nat} {g g' : Graph} {sid : SessionID} {command : String} {n : Node}
      {launch : LaunchPlan D} {raws effs : List (Effect D)} : g sid = some n →
      Pushed d (k + 1) (Function.update g sid (some (n.push (d.alloc k)))) raws g' effs →
      Pushed d k g (.pushDriver sid command :: raws) g' (spawnEffect sid (d.alloc k) launch 0 "" :: effs)

variable {env : Env D} {s s' : State D} {fid : FrameID} {sid : SessionID} {effs : List (Effect D)}

theorem pushDriverInternal_spec {project command : String} {options : LaunchOptions}
    {input : List UInt8} {connID : ConnID} {reqID : String}
    (pushed : pushDriverInternal env s fid sid project command options input connID reqID = .ok (s', effs)) :
    ∃ sess plan, s.sessions.get? sid = some sess ∧ planPush env s sid sess project command options input = .ok plan ∧
      s' = { s with sessions := s'.sessions } ∧ s'.graph = Function.update s.graph sid (some (sess.node.push fid)) ∧
      effs = [spawnEffect sid fid plan.launch connID reqID] := by
  revert pushed
  fun_cases pushDriverInternal env s fid sid project command options input connID reqID <;> rintro ⟨⟩
  case case3 sess found plan planned =>
    refine ⟨sess, plan, found, planned, rfl, ?_, rfl⟩
    rw [← pushFrame_node s sess fid plan]
    exact graph_set s _ sid _ rfl

variable {d : Draw}

theorem resolvePushDriverEffects_spec {k : Nat} {raws : List (Effect D)}
    (resolved : resolvePushDriverEffects env d k s raws = (s', effs)) :
    s' = { s with sessions := s'.sessions } ∧ Pushed d k s.graph raws s'.graph effs := by
  induction raws generalizing k s effs with
  | nil =>
    cases resolved
    exact ⟨rfl, .nil⟩
  | cons raw rest ih =>
    have passed : ∀ {effs}, (∃ others, resolvePushDriverEffects env d (k + 1) s rest =
        (s', others) ∧ effs = raw :: others) →
        s' = { s with sessions := s'.sessions } ∧ Pushed d k s.graph (raw :: rest) s'.graph effs := by
      rintro _ ⟨others, tail, rfl⟩
      obtain ⟨same, pushed⟩ := ih tail
      exact ⟨same, .pass pushed⟩
    cases raw with
    | pushDriver sid command =>
      unfold resolvePushDriverEffects at resolved
      cases attempt : pushDriverInternal env s (d.alloc k) sid "" command {} [] 0 "" with
      | error =>
        simp only [attempt] at resolved
        obtain ⟨same, pushed⟩ := ih resolved
        exact ⟨same, .skip pushed⟩
      | ok pair =>
        obtain ⟨next, pushEffs⟩ := pair
        simp only [attempt] at resolved
        obtain ⟨sess, plan, found, _, kept, graph, rfl⟩ := pushDriverInternal_spec attempt
        cases resolved
        obtain ⟨same, pushed⟩ := ih rfl
        rw [graph] at pushed
        refine ⟨?_, .push (graph_of_get? found) pushed⟩
        rw [same, kept]
    | _ =>
      cases resolved
      exact passed ⟨_, rfl, rfl⟩

/-! ## The spawned frame -/

variable {sess : Session D} {i : Nat} {subsystemID : SubsystemID}

theorem recordSubsystem_spec {sess' : Session D} (found : s.sessions.get? sid = some sess)
    (recorded : recordSubsystem s sid sess i subsystemID = .ok (s', sess')) :
    DriverOnly s s' ∧ sess'.frames.length = sess.frames.length := by
  obtain ⟨frame, indexed, rest⟩ := bind_eq_ok.mp recorded
  split at rest
  · obtain ⟨frames, assigned, returned⟩ := bind_eq_ok.mp rest
    obtain ⟨_, rfl⟩ := assign_eq_ok.mp assigned
    cases returned
    refine ⟨DriverOnly.store found ?_, by simp⟩
    have ids := map_id_set (index_eq_ok.mp indexed)
      (show ({ frame with subsystemID := subsystemID } : SessionFrame D).id = frame.id from rfl)
    simp only [Session.node, ids]
  · cases rest
    exact ⟨.refl s, rfl⟩

theorem recordSubsystem_returns (bound : i < sess.frames.length) :
    Go.Returns (recordSubsystem s sid sess i subsystemID) := by
  refine (index_returns bound).bind ?_
  intro frame _
  split
  · exact (assign_returns bound _).bind fun _ _ => .ok _
  · exact .ok _

variable {e : EvFrameSpawned}

theorem resolveWorktree_spec (resolved : resolveWorktree env d s e = .ok s') : DriverOnly s s' := by
  unfold resolveWorktree at resolved
  split at resolved
  · cases resolved
    exact .refl s
  obtain ⟨stepped, done, returned⟩ := bind_eq_ok.mp resolved
  cases returned
  exact (stepDriver_getD done).1

theorem resolveWorktree_returns (env : Env D) (d : Draw) (s : State D) (e : EvFrameSpawned) :
    Go.Returns (resolveWorktree env d s e) := by
  unfold resolveWorktree
  split
  · exact .ok _
  · exact (stepDriver_returns _ _ _ _ _).bind fun _ _ => .ok _

theorem bootstrapRoot_spec (booted : bootstrapRoot env d s fid i = .ok (s', effs)) :
    DriverOnly s s' ∧ ∀ e ∈ effs, env.FromDriver e := by
  unfold bootstrapRoot at booted
  split at booted
  · obtain ⟨r, done, returned⟩ := bind_eq_ok.mp booted
    have spec := bootstrapDriverSessionStart_spec done
    rwa [Except.ok.inj returned] at spec
  · cases booted
    exact ⟨.refl s, List.forall_mem_nil _⟩

theorem bootstrapRoot_returns (env : Env D) (d : Draw) (s : State D) (fid : FrameID) (i : Nat) :
    Go.Returns (bootstrapRoot env d s fid i) := by
  unfold bootstrapRoot
  split
  · exact (bootstrapDriverSessionStart_returns _ _ _ _).bind fun _ _ => .ok _
  · exact .ok _

theorem reduceFrameSpawned_spec (reduced : reduceFrameSpawned env d s e = .ok (s', effs)) :
    ((∀ n, s.graph e.sessionID = some n → e.frameID ∉ n.frames) ∧ s' = s ∧ effs = []) ∨
      (∃ n, s.graph e.sessionID = some n ∧ e.frameID ∈ n.frames) ∧ DriverOnly s s' ∧
        ∃ tap boot, effs = boot ++ spawnedEffects e tap ∧ ∀ x ∈ boot, env.FromDriver x := by
  unfold reduceFrameSpawned at reduced
  cases found : s.sessions.get? e.sessionID with
  | none =>
    simp only [found] at reduced
    cases reduced
    refine .inl ⟨?_, rfl, rfl⟩
    intro n known
    rw [graph_eq_none.mpr found] at known
    cases known
  | some sess =>
    cases index : findFrameIndex sess e.frameID with
    | none =>
      simp only [found, index] at reduced
      cases reduced
      refine .inl ⟨?_, rfl, rfl⟩
      intro n known
      rw [graph_of_get? found] at known
      cases known
      exact findFrameIndex_eq_none.mp index
    | some =>
      simp only [found, index] at reduced
      obtain ⟨⟨recorded, sess'⟩, stored, reduced⟩ := bind_eq_ok.mp reduced
      obtain ⟨moved, resolved, reduced⟩ := bind_eq_ok.mp reduced
      obtain ⟨⟨next, boot⟩, booted, reduced⟩ := bind_eq_ok.mp reduced
      obtain ⟨frame, _, returned⟩ := bind_eq_ok.mp reduced
      cases returned
      have first := (recordSubsystem_spec found stored).1
      have second := resolveWorktree_spec resolved
      obtain ⟨third, fromDriver⟩ := bootstrapRoot_spec booted
      refine .inr ⟨⟨sess.node, graph_of_get? found, findFrameIndex_mem index⟩,
        (first.trans second).trans third, _, boot, rfl, fromDriver⟩

theorem reduceFrameSpawned_returns (env : Env D) (d : Draw) (s : State D) (e : EvFrameSpawned) :
    Go.Returns (reduceFrameSpawned env d s e) := by
  unfold reduceFrameSpawned
  cases found : s.sessions.get? e.sessionID with
  | none => exact .ok _
  | some sess =>
    cases index : findFrameIndex sess e.frameID with
    | none => simp only [index]; exact .ok _
    | some i =>
      simp only [index]
      obtain ⟨frame, here, _⟩ := findFrameIndex_spec index
      have bound := (List.getElem?_eq_some_iff.mp here).1
      refine (recordSubsystem_returns bound).bind ?_
      rintro ⟨recorded, sess'⟩ stored
      have length := (recordSubsystem_spec found stored).2
      refine (resolveWorktree_returns env d _ e).bind fun moved _ => ?_
      refine (bootstrapRoot_returns env d moved e.frameID i).bind fun booted _ => ?_
      exact (index_returns (length ▸ bound)).bind fun _ _ => .ok _

end AgentGrid.Host
