import AgentGrid.Host.Graph
import Mathlib.Data.List.Sort

/-!
# Reducer helpers

The functions the reducers share: looking up frames, keeping the stack of
earlier heads, and running a driver's `Step` on the frame an event addresses.
Running a driver changes driver states and registers jobs; it leaves the session
graph as it was.
-/

namespace AgentGrid.Host

open AgentGrid.Lib List Go

variable {D : Type}

variable (env : Env D) (sess : Session D) (d : Draw) (s : State D) (sessID : SessionID)
  (frameID : FrameID)

def spawnEffect (plan : LaunchPlan D) (connID : ConnID) (reqID : String) : Effect D :=
  .spawnFrame sessID frameID plan [("AG_SESSION_ID", sessID), ("AG_FRAME_ID", frameID)] connID reqID

/-- `rootFrame`: the first frame, or the frame a session record without frames stands for. -/
def rootFrame : Option (SessionFrame D) :=
  match sess.frames with
  | [] =>
    if sess.command = "" || sess.driver.isNone then none
    else some
      { id := sess.id, project := sess.project, command := sess.command
        launchOptions := sess.launchOptions, createdAt := sess.createdAt, driver := sess.driver }
  | frame :: _ => some frame

/-- `headFrame`: the frame that receives input. -/
def headFrame : Option (SessionFrame D) :=
  match sess.frames with
  | [] => rootFrame sess
  | frame :: rest =>
    let byID := if sess.headFrameID = "" then none
      else sess.frames.find? fun f => f.id = sess.headFrameID
    match byID with
    | some f => some f
    | none => some ((frame :: rest).getLast (cons_ne_nil _ _))

def pushMRU : Session D :=
  if frameID = "" then sess
  else { sess with mruFrameIDs := Mru.push 16 frameID sess.mruFrameIDs }

def frameExists (id : FrameID) : Bool :=
  (sess.frames.map SessionFrame.id).contains id

/-- `popMRU`: the first remembered frame that still exists, or the empty id. -/
def popMRU : FrameID × Session D :=
  let popped := Mru.pop (frameExists sess) sess.mruFrameIDs
  (popped.1.getD "", { sess with mruFrameIDs := popped.2 })

def bumpFrameGeneration : Session D :=
  { sess with frameGeneration := sess.frameGeneration + 1 }

def pruneMRU : Session D :=
  { sess with mruFrameIDs := Mru.prune (frameExists sess) [] sess.mruFrameIDs }

def removeFrameByIndex (i : Nat) : Go (Session D × SessionFrame D) := do
  let removed ← Go.index sess.frames i
  return ({ sess with frames := sess.frames.take i ++ sess.frames.drop (i + 1) }, removed)

def findFrameIndex : Option Nat :=
  sess.frames.findIdx? fun frame => frame.id == frameID

/-- `findFrame`: the first session the loop meets that holds the frame. -/
def findFrame : Option (SessionID × Session D × Nat) :=
  (s.sessions.range d.toRangeOrder).findSome? fun e => (findFrameIndex e.2 frameID).map fun idx => (e.1, e.2, idx)

def truncateFrames (start : Nat) : List (SessionFrame D) :=
  sess.frames.drop start

/-- `postProcessEffect`: fill in what the driver left blank and register its jobs. -/
@[simp] def postProcessEffect : Effect D → Effect D × State D
  | .startJob _ input =>
    let jobID := s.nextJobID + 1
    (.startJob jobID input, { s with nextJobID := jobID, jobs := s.jobs.set jobID ⟨sessID, frameID, s.now⟩ })
  | .eventLogAppend fid line => (.eventLogAppend (if fid = "" then frameID else fid) line, s)
  | .watchFile fid path kind => (.watchFile (if fid = "" then frameID else fid) path kind, s)
  | .unwatchFile fid => (.unwatchFile (if fid = "" then frameID else fid), s)
  | .pushDriver sid command => (.pushDriver (if sid = "" then sessID else sid) command, s)
  | .recordNotification sid fid cmd title body =>
    (.recordNotification (if sid = "" then sessID else sid) (if fid = "" then frameID else fid) cmd title body, s)
  | eff => (eff, s)

def postProcessEffects (sessID : SessionID) (frameID : FrameID) : State D → List (Effect D) → Reduced D
  | s, [] => (s, [])
  | s, eff :: rest =>
    let first := postProcessEffect s sessID frameID eff
    let others := postProcessEffects sessID frameID first.2 rest
    (others.1, first.1 :: others.2)

def frameContext (frame : SessionFrame D) (isRoot : Bool) : FrameContext :=
  ⟨frame.id, frame.project, frame.command, frame.launchOptions, frame.createdAt, isRoot⟩

/-- Store what a driver returned for one frame and post-process its effects. -/
def storeDriverStep (sess : Session D) (frameIdx : Nat) (frame : SessionFrame D)
    (result : DriverState D × List (Effect D)) : Go (Reduced D) := do
  let frames ← Go.assign sess.frames frameIdx { frame with driver := result.1 }
  let stored := { s with sessions := s.sessions.set sessID { sess with frames := frames } }
  return postProcessEffects sessID frameID stored result.2

/-- `stepDriver`; `none` is its `false`. -/
def stepDriver (ev : DriverEvent D) : Go (Option (Reduced D)) :=
  match findFrame d s frameID with
  | none => .ok none
  | some (sessID, sess, frameIdx) => do
      let frame ← Go.index sess.frames frameIdx
      match env.getDriver frame.command with
      | none => .ok none
      | some drv =>
        let driver := if frame.driver.isNone then drv.newState s.now else frame.driver
        let result := drv.step driver (frameContext frame (frameIdx == 0)) ev
        return some (← storeDriverStep s sessID frameID sess frameIdx frame result)

/-- `bootstrapDriverSessionStart`; `none` is its `false`. -/
def bootstrapDriverSessionStart : Go (Option (Reduced D)) :=
  match findFrame d s frameID with
  | none => .ok none
  | some (sessID, sess, frameIdx) =>
    if frameIdx ≠ 0 then .ok none
    else do
      let frame ← Go.index sess.frames frameIdx
      match env.getDriver frame.command with
      | none => .ok none
      | some drv =>
        match drv.bootstrapSessionStart with
        | none => .ok none
        | some bootstrap =>
          let result := bootstrap frame.driver (frameContext frame true) s.now
          return some (← storeDriverStep s sessID frameID sess frameIdx frame result)

/-- `sessionWatched`: some connection subscribes to a surface of the session. -/
def sessionWatched (sid : SessionID) : Bool :=
  s.surfaceSubs.entries.any fun subs => subs.2.entries.any fun sub => sub.1.sessionID == sid

/-- The accumulator of the loop over the live sessions: `seq` numbers the events made so far. -/
structure ActiveScan (D : Type) where
  state : State D
  effects : List (Effect D) := []
  changed : Bool := false
  seq : Nat := 0

/-- One pass of the loop in `stepActiveSessions`. -/
def stepActiveSession (makeEv : Nat → Session D → Bool → DriverEvent D) (scan : ActiveScan D) (sessID : SessionID) :
    Go (ActiveScan D) :=
  match scan.state.sessions.get? sessID with
  | none => .ok scan
  | some sess =>
    match rootFrame sess with
    | none => .ok scan
    | some frame =>
      match env.getDriver frame.command with
      | none => .ok scan
      | some _ => do
          let ev := makeEv scan.seq sess (sessionWatched scan.state sessID)
          match ← stepDriver env d scan.state frame.id ev with
          | none => return { scan with seq := scan.seq + 1 }
          | some (next, sessEffs) =>
            return { state := next, effects := scan.effects ++ sessEffs
                     changed := scan.changed || !sessEffs.isEmpty, seq := scan.seq + 1 }

/-- `stepActiveSessions`: the sessions in the order of their ids. -/
def stepActiveSessions (makeEv : Nat → Session D → Bool → DriverEvent D) : Go (ActiveScan D) :=
  ((s.sessions.entries.map Prod.fst).insertionSort (fun a b => a ≤ b)).foldlM
    (stepActiveSession env d makeEv) { state := s }

/-! ## Looking up frames -/

variable {sess : Session D} {fid : FrameID} {i : Nat}

theorem findFrameIndex_spec (found : findFrameIndex sess fid = some i) :
    ∃ frame, sess.frames[i]? = some frame ∧ frame.id = fid := by
  obtain ⟨bound, hit, _⟩ := findIdx?_eq_some_iff_getElem.mp found
  exact ⟨sess.frames[i], getElem?_eq_getElem bound, by simpa using hit⟩

theorem findFrameIndex_eq_none : findFrameIndex sess fid = none ↔ fid ∉ sess.node.frames := by
  simp [findFrameIndex, findIdx?_eq_none_iff]

theorem findFrameIndex_mem (found : findFrameIndex sess fid = some i) : fid ∈ sess.node.frames := by
  by_contra absent
  rw [findFrameIndex_eq_none.mpr absent] at found
  cases found

variable {d : Draw} {s : State D} {sid : SessionID}

theorem findFrame_spec (found : findFrame d s fid = some (sid, sess, i)) :
    s.sessions.get? sid = some sess ∧ findFrameIndex sess fid = some i := by
  obtain ⟨⟨sid', sess'⟩, inRange, hit⟩ := exists_of_findSome?_eq_some found
  obtain ⟨i', index, same⟩ := Option.map_eq_some_iff.mp hit
  obtain ⟨rfl, rfl, rfl⟩ := same
  exact ⟨GoMap.mem_range.mp inRange, index⟩

theorem findFrame_bound (found : findFrame d s fid = some (sid, sess, i)) : i < sess.frames.length := by
  obtain ⟨frame, here, _⟩ := findFrameIndex_spec (findFrame_spec found).2
  exact (List.getElem?_eq_some_iff.mp here).1

theorem findFrame_eq_none : findFrame d s fid = none ↔ ¬ s.HasFrame fid := by
  simp only [findFrame, findSome?_eq_none_iff, Option.map_eq_none_iff, Prod.forall,
    GoMap.mem_range, findFrameIndex_eq_none, State.HasFrame, not_exists, not_and]
  exact Iff.rfl

theorem findFrame_holds (found : findFrame d s fid = some (sid, sess, i)) :
    s.graph sid = some sess.node ∧ fid ∈ sess.node.frames :=
  ⟨State.graph_of_get? (findFrame_spec found).1, findFrameIndex_mem (findFrame_spec found).2⟩

/-! ## What running drivers can change -/

/-- The effect a driver returned for a frame, after post-processing. -/
def Env.Patches (sid : SessionID) (fid : FrameID) (e : Effect D) : Prop :=
  ∃ (s : State D) (raw : Effect D), env.Emits raw ∧ (postProcessEffect s sid fid raw).1 = e

def Env.FromDriver (e : Effect D) : Prop := ∃ sid fid, env.Patches sid fid e

/-- The kinds of effects whose blanks the reducer fills in. -/
def Effect.patched : Effect D → Bool
  | .startJob .. | .eventLogAppend .. | .watchFile .. | .unwatchFile .. | .pushDriver ..
  | .recordNotification .. => true
  | _ => false

variable {env : Env D}

theorem Env.FromDriver.emits {e : Effect D} (from_driver : env.FromDriver e)
    (kept : e.patched = false) : env.Emits e := by
  obtain ⟨sid, fid, s, raw, emitted, rfl⟩ := from_driver
  cases raw <;> first | exact emitted | cases kept

/-- Between two states only drivers ran: sessions keep their place in the graph, jobs were added,
and nothing else changed. -/
structure DriverOnly (s s' : State D) : Prop where
  rest : s' = { s with sessions := s'.sessions, jobs := s'.jobs, nextJobID := s'.nextJobID }
  graph : s'.graph = s.graph

theorem DriverOnly.refl (s : State D) : DriverOnly s s := ⟨rfl, rfl⟩

theorem DriverOnly.trans {t u : State D} (first : DriverOnly s t) (second : DriverOnly t u) : DriverOnly s u := by
  refine ⟨?_, second.graph.trans first.graph⟩
  rw [second.rest, first.rest]

theorem postProcessEffect_driverOnly (s : State D) (sid : SessionID) (fid : FrameID)
    (raw : Effect D) : DriverOnly s (postProcessEffect s sid fid raw).2 := by cases raw <;> exact ⟨rfl, rfl⟩

variable {s' : State D} {effs : List (Effect D)}

theorem postProcessEffects_spec {raws : List (Effect D)} (emitted : ∀ raw ∈ raws, env.Emits raw)
    (done : postProcessEffects sid fid s raws = (s', effs)) :
    DriverOnly s s' ∧ ∀ e ∈ effs, env.Patches sid fid e := by
  induction raws generalizing s effs with
  | nil =>
    cases done
    exact ⟨.refl s', forall_mem_nil _⟩
  | cons raw rest ih =>
    cases done
    obtain ⟨only, patched⟩ := ih (fun r mem => emitted r (mem_cons_of_mem _ mem)) rfl
    refine ⟨(postProcessEffect_driverOnly s sid fid raw).trans only, ?_⟩
    intro e mem
    rcases mem_cons.mp mem with rfl | later
    · exact ⟨s, raw, emitted raw mem_cons_self, rfl⟩
    · exact patched e later

theorem map_id_set {frames : List (SessionFrame D)} {old new : SessionFrame D}
    (here : frames[i]? = some old) (same : new.id = old.id) :
    (frames.set i new).map SessionFrame.id = frames.map SessionFrame.id := by
  apply ext_getElem?
  intro k
  rw [getElem?_map, getElem?_map, getElem?_set]
  split
  · rename_i at_index
    subst at_index
    obtain ⟨bound, held⟩ := List.getElem?_eq_some_iff.mp here
    simp [held, same, bound]
  · rfl

theorem DriverOnly.store {old new : Session D} (found : s.sessions.get? sid = some old)
    (same : new.node = old.node) : DriverOnly s { s with sessions := s.sessions.set sid new } :=
  ⟨rfl, graph_set_same found rfl same⟩

variable {frame : SessionFrame D} {result : DriverState D × List (Effect D)}

theorem storeDriverStep_spec (found : s.sessions.get? sid = some sess)
    (here : sess.frames[i]? = some frame) (emitted : ∀ raw ∈ result.2, env.Emits raw)
    (stored : storeDriverStep s sid fid sess i frame result = .ok (s', effs)) :
    DriverOnly s s' ∧ ∀ e ∈ effs, env.Patches sid fid e := by
  obtain ⟨frames, assigned, returned⟩ := bind_eq_ok.mp stored
  obtain ⟨_, rfl⟩ := assign_eq_ok.mp assigned
  obtain ⟨only, patched⟩ := postProcessEffects_spec emitted (Except.ok.inj returned)
  refine ⟨DriverOnly.trans (DriverOnly.store found ?_) only, patched⟩
  have ids := map_id_set here (show ({ frame with driver := result.1 } : SessionFrame D).id = frame.id from rfl)
  simp only [Session.node, ids]

theorem storeDriverStep_returns (here : sess.frames[i]? = some frame) :
    Go.Returns (storeDriverStep s sid fid sess i frame result) := by
  obtain ⟨bound, _⟩ := List.getElem?_eq_some_iff.mp here
  exact (assign_returns bound _).bind fun _ _ => .ok _

variable {ev : DriverEvent D}

theorem stepDriver_runs (stepped : stepDriver env d s fid ev = .ok (some (s', effs))) :
    ∃ sid sess, ∃ i : Nat, ∃ frame drv ds ctx, findFrame d s fid = some (sid, sess, i) ∧
      sess.frames[i]? = some frame ∧ env.getDriver frame.command = some drv ∧
      storeDriverStep s sid fid sess i frame (drv.step ds ctx ev) = .ok (s', effs) := by
  revert stepped
  fun_cases stepDriver env d s fid ev <;> intro stepped
  · cases stepped
  rename_i sid sess i search
  obtain ⟨frame, indexed, rest⟩ := bind_eq_ok.mp stepped
  split at rest
  · cases rest
  rename_i drv driver
  obtain ⟨pair, stored, returned⟩ := bind_eq_ok.mp rest
  cases returned
  exact ⟨sid, sess, i, frame, drv, _, _, search, index_eq_ok.mp indexed, driver, stored⟩

/-- A driver step is the driver's own business: the session that holds the frame exists, and
besides driver states only jobs change. -/
theorem stepDriver_spec (stepped : stepDriver env d s fid ev = .ok (some (s', effs))) :
    DriverOnly s s' ∧ ∃ sid n, s.graph sid = some n ∧ fid ∈ n.frames ∧ ∀ e ∈ effs, env.Patches sid fid e := by
  obtain ⟨sid, sess, i, frame, drv, _, _, search, here, driver, stored⟩ := stepDriver_runs stepped
  have spec := storeDriverStep_spec (findFrame_spec search).1 here (fun raw mem => Env.Emits.step driver mem) stored
  exact ⟨spec.1, sid, sess.node, (findFrame_holds search).1, (findFrame_holds search).2, spec.2⟩

theorem stepDriver_returns (env : Env D) (d : Draw) (s : State D) (fid : FrameID)
    (ev : DriverEvent D) : Go.Returns (stepDriver env d s fid ev) := by
  unfold stepDriver
  cases search : findFrame d s fid with
  | none => exact .ok _
  | some hit =>
    obtain ⟨sid, sess, i⟩ := hit
    obtain ⟨frame, here, _⟩ := findFrameIndex_spec (findFrame_spec search).2
    refine Go.Returns.bind ⟨frame, index_eq_ok.mpr here⟩ ?_
    intro frame' indexed
    cases env.getDriver frame'.command with
    | none => exact .ok _
    | some => exact (storeDriverStep_returns (index_eq_ok.mp indexed)).bind fun _ _ => .ok _

variable {r : Option (Reduced D)}

theorem stepDriver_getD (stepped : stepDriver env d s fid ev = .ok r) :
    DriverOnly s (r.getD (s, [])).1 ∧ ∀ e ∈ (r.getD (s, [])).2, env.FromDriver e := by
  cases r with
  | none => exact ⟨.refl s, forall_mem_nil _⟩
  | some =>
    obtain ⟨only, sid, _, _, _, patched⟩ := stepDriver_spec stepped
    exact ⟨only, fun e mem => ⟨sid, fid, patched e mem⟩⟩

theorem bootstrapDriverSessionStart_spec (booted : bootstrapDriverSessionStart env d s fid = .ok r) :
    DriverOnly s (r.getD (s, [])).1 ∧ ∀ e ∈ (r.getD (s, [])).2, env.FromDriver e := by
  have nothing : DriverOnly s ((none : Option (Reduced D)).getD (s, [])).1 ∧
      ∀ e ∈ ((none : Option (Reduced D)).getD (s, [])).2, env.FromDriver e :=
    ⟨.refl s, forall_mem_nil _⟩
  unfold bootstrapDriverSessionStart at booted
  cases search : findFrame d s fid with
  | none =>
    simp only [search] at booted
    cases booted
    exact nothing
  | some hit =>
    obtain ⟨sid, sess, i⟩ := hit
    simp only [search] at booted
    split at booted
    · cases booted
      exact nothing
    obtain ⟨frame, indexed, rest⟩ := bind_eq_ok.mp booted
    have here := index_eq_ok.mp indexed
    cases driver : env.getDriver frame.command with
    | none =>
      simp only [driver] at rest
      cases rest
      exact nothing
    | some drv =>
      cases boot : drv.bootstrapSessionStart with
      | none =>
        simp only [driver, boot] at rest
        cases rest
        exact nothing
      | some bootstrap =>
        simp only [driver, boot] at rest
        obtain ⟨pair, stored, returned⟩ := bind_eq_ok.mp rest
        cases returned
        have spec := storeDriverStep_spec (findFrame_spec search).1 here
          (fun raw mem => Env.Emits.bootstrap driver boot mem) stored
        exact ⟨spec.1, fun e mem => ⟨sid, fid, spec.2 e mem⟩⟩

theorem bootstrapDriverSessionStart_returns (env : Env D) (d : Draw) (s : State D)
    (fid : FrameID) : Go.Returns (bootstrapDriverSessionStart env d s fid) := by
  unfold bootstrapDriverSessionStart
  cases search : findFrame d s fid with
  | none => exact .ok _
  | some hit =>
    obtain ⟨sid, sess, i⟩ := hit
    obtain ⟨frame, here, _⟩ := findFrameIndex_spec (findFrame_spec search).2
    simp only []
    split
    · exact .ok _
    refine Go.Returns.bind ⟨frame, index_eq_ok.mpr here⟩ ?_
    intro frame' indexed
    cases env.getDriver frame'.command with
    | none => exact .ok _
    | some drv =>
      simp only []
      cases drv.bootstrapSessionStart with
      | none => exact .ok _
      | some => exact (storeDriverStep_returns (index_eq_ok.mp indexed)).bind fun _ _ => .ok _

/-! ## The loop over the live sessions -/

variable {makeEv : Nat → Session D → Bool → DriverEvent D} {scan : ActiveScan D}

theorem stepActiveSession_spec {scan' : ActiveScan D} (passed : stepActiveSession env d makeEv scan sid = .ok scan') :
    DriverOnly scan.state scan'.state ∧ ∀ e ∈ scan'.effects, e ∈ scan.effects ∨ env.FromDriver e := by
  have unchanged : DriverOnly scan.state scan.state ∧
      ∀ e ∈ scan.effects, e ∈ scan.effects ∨ env.FromDriver e := ⟨.refl _, fun e mem => .inl mem⟩
  unfold stepActiveSession at passed
  cases found : scan.state.sessions.get? sid with
  | none =>
    simp only [found] at passed
    cases passed
    exact unchanged
  | some sess =>
    cases root : rootFrame sess with
    | none =>
      simp only [found, root] at passed
      cases passed
      exact unchanged
    | some frame =>
      cases driver : env.getDriver frame.command with
      | none =>
        simp only [found, root, driver] at passed
        cases passed
        exact unchanged
      | some =>
        simp only [found, root, driver] at passed
        obtain ⟨r, stepped, rest⟩ := bind_eq_ok.mp passed
        cases r with
        | none =>
          cases rest
          exact unchanged
        | some =>
          obtain ⟨only, sid', _, _, _, patched⟩ := stepDriver_spec stepped
          cases rest
          refine ⟨only, ?_⟩
          intro e mem
          rcases mem_append.mp mem with old | new
          · exact .inl old
          · exact .inr ⟨sid', frame.id, patched e new⟩

theorem stepActiveSession_returns (env : Env D) (d : Draw)
    (makeEv : Nat → Session D → Bool → DriverEvent D) (scan : ActiveScan D) (sid : SessionID) :
    Go.Returns (stepActiveSession env d makeEv scan sid) := by
  unfold stepActiveSession
  cases scan.state.sessions.get? sid with
  | none => exact .ok _
  | some sess =>
    simp only []
    cases rootFrame sess with
    | none => exact .ok _
    | some frame =>
      simp only []
      cases env.getDriver frame.command with
      | none => exact .ok _
      | some =>
        refine (stepDriver_returns _ _ _ _ _).bind ?_
        intro r _
        cases r <;> exact .ok _

theorem stepActiveSessions_spec (scanned : stepActiveSessions env d s makeEv = .ok scan) :
    DriverOnly s scan.state ∧ ∀ e ∈ scan.effects, env.FromDriver e := by
  refine foldlM_invariant (P := fun scan => DriverOnly s scan.state ∧ ∀ e ∈ scan.effects, env.FromDriver e)
    ?_ ⟨DriverOnly.refl s, forall_mem_nil _⟩ scanned
  intro scan sid scan' before passed
  obtain ⟨only, effects⟩ := stepActiveSession_spec passed
  refine ⟨before.1.trans only, ?_⟩
  intro e mem
  rcases effects e mem with old | new
  · exact before.2 e old
  · exact new

theorem stepActiveSessions_returns (env : Env D) (d : Draw) (s : State D)
    (makeEv : Nat → Session D → Bool → DriverEvent D) : Go.Returns (stepActiveSessions env d s makeEv) :=
  foldlM_returns (stepActiveSession_returns env d makeEv) _ _

end AgentGrid.Host
