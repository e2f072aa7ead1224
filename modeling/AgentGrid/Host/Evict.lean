import AgentGrid.Host.HumanInput

/-!
# Removing frames

How a frame leaves the session graph: a child frame alone, a root frame together
with its siblings, which ends or drops the session.  Each removed frame gets the
same set of teardown effects, and the requests it still owns are reaped.
-/

namespace AgentGrid.Host

open AgentGrid.Lib List Go

variable {D : Type}

inductive RootDisposition where
  | retainEndedSession | dropUnstartedSession
  deriving DecidableEq

variable (d : Draw) (s : State D) (sess : Session D) (sessID : SessionID) (frameID : FrameID)
  (disposition : RootDisposition) (killWindow : Bool)

def endSession (now : Time) : Session D :=
  { sess with frames := [], headFrameID := "", mruFrameIDs := [], endedAt := some now }

@[simp] def frameTeardownEffects : List (Effect D) :=
  (if killWindow then [.killFrame frameID] else []) ++
    [.releaseFrame frameID, .unregisterFrame frameID, .unwatchFile frameID]

/-- The teardown of several frames, in their order. -/
def teardownAll (frames : List (SessionFrame D)) (killWindow : Bool) : List (Effect D) :=
  frames.flatMap fun frame => frameTeardownEffects frame.id killWindow

def RootDisposition.dispose (s : State D) (sessID : SessionID) (sess : Session D) : State D :=
  match disposition with
  | .retainEndedSession => { s with sessions := s.sessions.set sessID (endSession sess s.now) }
  | .dropUnstartedSession => { s with sessions := s.sessions.delete sessID }

@[simp] def evictRootFrame (sess : Session D) (killWindow : Bool) (disposition : RootDisposition) : Reduced D :=
  let allRemoved := truncateFrames sess 0
  let approvalReap := cancelApprovalsForSession d (disposition.dispose s sessID sess) sessID
  let questionReap := cancelQuestionsForSession d approvalReap.1 sessID
  (questionReap.1, approvalReap.2 ++ questionReap.2 ++ teardownAll allRemoved killWindow ++
      [.persistSnapshot, .broadcastSessionsChanged])

/-- What `evictChildFrame` does to the session record: the removed head falls back to the most
recent frame that still exists, or to the root. -/
def dropChild (idx : Nat) (frameID : FrameID) :
    Go (Session D × SessionFrame D) := do
  let (rest, removed) ← removeFrameByIndex sess idx
  let pruned := pruneMRU (bumpFrameGeneration rest)
  if sess.headFrameID = frameID then
    let (fallback, popped) := popMRU pruned
    if fallback = "" then
      let root ← Go.index popped.frames 0
      return ({ popped with headFrameID := root.id }, removed)
    else return ({ popped with headFrameID := fallback }, removed)
  else return (pruned, removed)

/-- Store the session without the removed child, reap the requests the child owned and tear it
down.  The questions are reaped last, after the teardown effects. -/
@[simp] def storeChild (rest : Session D) (frameID removedID : FrameID) (killWindow : Bool) : Reduced D :=
  let stored := { s with sessions := s.sessions.set sessID rest }
  let approvalReap := cancelApprovalsForFrame d stored frameID
  let questionReap := cancelQuestionsForFrame d approvalReap.1 frameID
  (questionReap.1, approvalReap.2 ++ frameTeardownEffects removedID killWindow ++ questionReap.2 ++
      [.persistSnapshot, .broadcastSessionsChanged])

def evictChildFrame (sess : Session D) (idx : Nat) (frameID : FrameID) (killWindow : Bool) :
    Go (Reduced D) := do
  let (rest, removed) ← dropChild sess idx frameID
  return storeChild d s sessID rest frameID removed.id killWindow

/-- `evictFrame`; `none` is its `false`. -/
def evictFrame (disposition : RootDisposition) : Go (Option (Reduced D)) :=
  match findFrame d s frameID with
  | none => .ok none
  | some (sessID, sess, idx) =>
    if idx = 0 then .ok (some (evictRootFrame d s sessID sess killWindow disposition))
    else return some (← evictChildFrame d s sessID sess idx frameID killWindow)

/-! ## The graph behind an eviction -/

theorem endSession_node (now : Time) : (endSession sess now).node = sess.node.finish now := rfl

variable {fid : FrameID} {i : Nat}

theorem map_id_remove {frames : List (SessionFrame D)}
    (found : (frames.findIdx? fun frame => frame.id == fid) = some i) :
    (frames.take i ++ frames.drop (i + 1)).map SessionFrame.id = (frames.map SessionFrame.id).erase fid := by
  induction frames generalizing i with
  | nil => cases found
  | cons frame rest ih =>
    rw [findIdx?_cons] at found
    by_cases same : frame.id = fid
    · simp only [same, beq_self_eq_true, if_true, Option.some.injEq] at found
      subst found
      simp [same]
    have differs : (frame.id == fid) = false := by simpa using same
    rw [differs] at found
    obtain ⟨j, later, rfl⟩ := Option.map_eq_some_iff.mp found
    rw [take_succ_cons, drop_succ_cons, cons_append, map_cons, ih later,
      map_cons, erase_cons_tail (by simpa using same)]

variable {sess rest : Session D} {removed : SessionFrame D}

theorem removeFrameByIndex_spec (found : findFrameIndex sess fid = some i)
    (removal : removeFrameByIndex sess i = .ok (rest, removed)) :
    rest.node = { sess.node with frames := sess.node.frames.erase fid } ∧ removed.id = fid := by
  obtain ⟨frame, indexed, returned⟩ := bind_eq_ok.mp removal
  cases returned
  obtain ⟨held, here, same⟩ := findFrameIndex_spec found
  rw [index_eq_ok.mp indexed] at here
  cases here
  refine ⟨?_, same⟩
  have ids := map_id_remove found
  simp only [Session.node, ids]

theorem pruneMRU_node (sess : Session D) : (pruneMRU sess).node = { sess.node with
        mru := Mru.prune sess.node.frames.contains [] sess.node.mru } := rfl

theorem popMRU_node (sess : Session D) (head : FrameID) :
    ({ (popMRU sess).2 with headFrameID := head } : Session D).node =
      { sess.node with head := head, mru := (Mru.pop sess.node.frames.contains sess.node.mru).2 } := rfl

theorem dropChild_spec (found : findFrameIndex sess fid = some i)
    (dropped : dropChild sess i fid = .ok (rest, removed)) : rest.node = sess.node.evict fid ∧ removed.id = fid := by
  obtain ⟨⟨left, gone⟩, removal, chosen⟩ := bind_eq_ok.mp dropped
  obtain ⟨shape, same⟩ := removeFrameByIndex_spec found removal
  have pruned := pruneMRU_node (bumpFrameGeneration left)
  have bumped : (bumpFrameGeneration left).node = left.node := rfl
  rw [bumped, shape] at pruned
  dsimp only at chosen
  unfold Node.evict
  by_cases head : sess.headFrameID = fid
  · have popped := popMRU_node (pruneMRU (bumpFrameGeneration left))
    rw [pruned] at popped
    have fallback : (popMRU (pruneMRU (bumpFrameGeneration left))).1 =
        (Mru.pop (fun f => (pruneMRU (bumpFrameGeneration left)).node.frames.contains f)
          (pruneMRU (bumpFrameGeneration left)).node.mru).1.getD "" := rfl
    rw [pruned] at fallback
    rw [if_pos head] at chosen
    rw [if_pos (show sess.node.head = fid from head)]
    by_cases empty : (popMRU (pruneMRU (bumpFrameGeneration left))).1 = ""
    · rw [if_pos empty] at chosen
      obtain ⟨root, indexed, returned⟩ := bind_eq_ok.mp chosen
      cases returned
      refine ⟨?_, same⟩
      have first : left.frames.head? = some root := by
        rw [head?_eq_getElem?]
        exact index_eq_ok.mp indexed
      have kept : left.node.frames = sess.node.frames.erase fid := by rw [shape]
      have top : (sess.node.frames.erase fid).headD "" = root.id := by
        rw [← kept, headD_eq_head?_getD]
        simp [first]
      rw [popped root.id]
      rw [fallback] at empty
      simp only [if_pos empty, top]
    rw [if_neg empty] at chosen
    cases chosen
    refine ⟨?_, same⟩
    rw [popped]
    rw [fallback] at empty ⊢
    simp only [if_neg empty]
  rw [if_neg head] at chosen
  rw [if_neg (show ¬ sess.node.head = fid from head)]
  cases chosen
  exact ⟨pruned, same⟩

theorem dropChild_returns (found : findFrameIndex sess fid = some i) (child : i ≠ 0) :
    Go.Returns (dropChild sess i fid) := by
  obtain ⟨frame, here, _⟩ := findFrameIndex_spec found
  refine Go.Returns.bind (Go.Returns.bind ⟨frame, index_eq_ok.mpr here⟩ fun _ _ => .ok _) ?_
  rintro ⟨left, gone⟩ removal
  obtain ⟨_, _, returned⟩ := bind_eq_ok.mp removal
  cases returned
  dsimp only
  split
  · split
    · refine Go.Returns.bind (index_returns ?_) fun _ _ => .ok _
      have bound := (List.getElem?_eq_some_iff.mp here).1
      have kept : (popMRU (pruneMRU (bumpFrameGeneration
          { sess with frames := sess.frames.take i ++ sess.frames.drop (i + 1) }))).2.frames =
          sess.frames.take i ++ sess.frames.drop (i + 1) := rfl
      rw [kept, length_append, length_take]
      omega
    · exact .ok _
  · exact .ok _

theorem evictFrame_returns (fid : FrameID) (killWindow : Bool) (disposition : RootDisposition) :
    Go.Returns (evictFrame d s fid killWindow disposition) := by
  unfold evictFrame
  cases search : findFrame d s fid with
  | none => exact .ok _
  | some hit =>
    obtain ⟨sid, sess, i⟩ := hit
    dsimp only
    split
    · exact .ok _
    rename_i child
    refine Go.Returns.bind (Go.Returns.bind ?_ fun _ _ => .ok _) fun _ _ => .ok _
    exact dropChild_returns (findFrame_spec search).2 child

theorem evictFrame_cases {d : Draw} {s : State D} {killWindow : Bool}
    {disposition : RootDisposition} {r : Option (Reduced D)}
    (evicted : evictFrame d s fid killWindow disposition = .ok r) :
    (¬ s.HasFrame fid ∧ r = none) ∨ (∃ sid sess, findFrame d s fid = some (sid, sess, 0) ∧
        r = some (evictRootFrame d s sid sess killWindow disposition)) ∨
      ∃ sid sess i rest, findFrame d s fid = some (sid, sess, i) ∧ i ≠ 0 ∧ rest.node = sess.node.evict fid ∧
        r = some (storeChild d s sid rest fid fid killWindow) := by
  unfold evictFrame at evicted
  cases search : findFrame d s fid with
  | none =>
    simp only [search] at evicted
    exact .inl ⟨findFrame_eq_none.mp search, (Except.ok.inj evicted).symm⟩
  | some hit =>
    obtain ⟨sid, sess, i⟩ := hit
    simp only [search] at evicted
    by_cases root : i = 0
    · subst root
      exact .inr (.inl ⟨sid, sess, rfl, (Except.ok.inj evicted).symm⟩)
    rw [if_neg root] at evicted
    obtain ⟨pair, child, returned⟩ := bind_eq_ok.mp evicted
    obtain ⟨⟨rest, removed⟩, dropped, stored⟩ := bind_eq_ok.mp child
    obtain ⟨node, same⟩ := dropChild_spec (findFrame_spec search).2 dropped
    have result := Except.ok.inj stored
    rw [same] at result
    refine .inr (.inr ⟨sid, sess, i, rest, rfl, root, node, ?_⟩)
    rw [result]
    exact (Except.ok.inj returned).symm

end AgentGrid.Host
