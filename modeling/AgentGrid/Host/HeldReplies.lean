import AgentGrid.Host.Owners
import AgentGrid.Host.Teardown

/-!
# Held replies and the release of frames

The runtime executes the effects of a step in order.  A held reply is delivered
through the subsystem of its frame, and releasing the frame forgets the subsystem,
so a reply that comes after the release is lost.  The reducer puts replies first
except where it evicts a child frame, whose questions it cancels last.
-/

namespace AgentGrid.Host

open AgentGrid.Lib List Effect

variable {D : Type} {env : Env D} {d : Draw} {s s' : State D} {ev : Event D}
  {effs : List (Effect D)}

def Effect.heldFor : Effect D → Option FrameID
  | .replyHeldApproval frameID .. => some frameID
  | .replyHeldQuestion frameID .. => some frameID
  | _ => none

def Effect.releases : Effect D → Option FrameID
  | .releaseFrame frameID => some frameID
  | _ => none

/-! ## The runtime -/

/-- A subsystem as the reply path sees it: a nil interface, one that cannot answer held requests,
or one that can. -/
inductive SubsystemHandle where
  | nil | plain | replier
  deriving DecidableEq

abbrev FrameSubsystems := GoMap FrameID SubsystemHandle

def releaseFrameSubsystem (frameSubsystems : FrameSubsystems) (frameID : FrameID) :
    FrameSubsystems :=
  frameSubsystems.delete frameID

/-- `executeHeldReply`; the result is the reply it delivers. -/
def executeHeldReply (frameSubsystems : FrameSubsystems) (eff : Effect D) : Option (Effect D) :=
  match eff.heldFor with
  | none => none
  | some frameID =>
    match frameSubsystems.get? frameID with
    | some .replier => some eff
    | _ => none

/-- `execute`, as far as it reads or changes the subsystems of frames. -/
def execute (frameSubsystems : FrameSubsystems) (eff : Effect D) : FrameSubsystems × Option (Effect D) :=
  match eff with
  | .releaseFrame frameID => (releaseFrameSubsystem frameSubsystems frameID, none)
  | eff => (frameSubsystems, executeHeldReply frameSubsystems eff)

/-- The loop of `dispatch`: the subsystems that are left and the replies that were delivered. -/
def executeAll (frameSubsystems : FrameSubsystems) : List (Effect D) → FrameSubsystems × List (Effect D)
  | [] => (frameSubsystems, [])
  | eff :: rest =>
    let now := execute frameSubsystems eff
    let later := executeAll now.1 rest
    (later.1, now.2.toList ++ later.2)

/-- Every held reply whose frame can take it when the execution starts is delivered, in order. -/
def DeliversHeld (effs : List (Effect D)) : Prop :=
  ∀ frameSubsystems : FrameSubsystems, (executeAll frameSubsystems effs).2 =
    effs.filter fun eff => (executeHeldReply frameSubsystems eff).isSome

/-- No release of a frame comes before a held reply addressed to it. -/
def RepliesFirst (effs : List (Effect D)) : Prop :=
  effs.Pairwise fun a b => ∀ f, a.releases = some f → b.heldFor ≠ some f

theorem execute_snd (subs : FrameSubsystems) (e : Effect D) : (execute subs e).2 = executeHeldReply subs e := by
  cases e <;> rfl

theorem executeHeldReply_execute (subs : FrameSubsystems) {a b : Effect D}
    (before : ∀ f, a.releases = some f → b.heldFor ≠ some f) :
    executeHeldReply (execute subs a).1 b = executeHeldReply subs b := by
  cases released : a.releases with
  | none =>
    have same : (execute subs a).1 = subs := by cases a <;> first | rfl | cases released
    rw [same]
  | some f =>
    have smaller : (execute subs a).1 = subs.delete f := by
      cases a <;> cases released
      rfl
    have other := before f released
    rw [smaller]
    unfold executeHeldReply
    cases held : b.heldFor with
    | none => rfl
    | some g =>
      have differs : g ≠ f := by
        rintro rfl
        exact other held
      simp only [GoMap.get?_delete, if_neg differs]

theorem RepliesFirst.delivers (first : RepliesFirst effs) : DeliversHeld effs := by
  induction effs with
  | nil =>
    intro subs
    rfl
  | cons e rest ih =>
    intro subs
    obtain ⟨here, later⟩ := pairwise_cons.mp first
    have delivered := ih later (execute subs e).1
    have same : (rest.filter fun b => (executeHeldReply (execute subs e).1 b).isSome) =
        rest.filter fun b => (executeHeldReply subs b).isSome := by
      refine filter_congr ?_
      intro b mem
      rw [executeHeldReply_execute subs (here b mem)]
    show (execute subs e).2.toList ++ (executeAll (execute subs e).1 rest).2 = _
    rw [delivered, same, execute_snd, filter_cons]
    cases reply : executeHeldReply subs e with
    | none => rfl
    | some x =>
      have itself : x = e := by
        revert reply
        fun_cases executeHeldReply subs e <;> rintro ⟨⟩
        rfl
      subst itself
      rfl

/-! ## Orders of effects -/

variable {e : Effect D}

theorem Effect.releases_of_dismantles (untouched : e.dismantles = none) : e.releases = none := by
  cases e <;> first | rfl | cases untouched

theorem Effect.heldFor_of_silent (silent : e.settles = false) : e.heldFor = none := by
  cases e <;> first | rfl | cases silent

namespace RepliesFirst

theorem of_unreleased (unreleased : ∀ e ∈ effs, e.dismantles = none) : RepliesFirst effs := by
  refine pairwise_of_forall_mem_list ?_
  intro a mem _ _ f released
  rw [releases_of_dismantles (unreleased a mem)] at released
  cases released

theorem of_silent (silent : ∀ e ∈ effs, e.settles = false) : RepliesFirst effs := by
  refine pairwise_of_forall_mem_list ?_
  intro _ _ b mem f _ held
  rw [heldFor_of_silent (silent b mem)] at held
  cases held

theorem append {before after : List (Effect D)} (unreleased : ∀ e ∈ before, e.dismantles = none)
    (silent : ∀ e ∈ after, e.settles = false) : RepliesFirst (before ++ after) := by
  refine pairwise_append.mpr ⟨of_unreleased unreleased, of_silent silent, ?_⟩
  intro a mem b _ f released
  rw [releases_of_dismantles (unreleased a mem)] at released
  cases released

end RepliesFirst

variable {sid : SessionID} {sess : Session D} {kill : Bool}

theorem evictRootFrame_repliesFirst {disposition : RootDisposition} :
    RepliesFirst ((evictRootFrame d s sid sess kill disposition).2 ++ ev.failureReply) := by
  rw [evictRootFrame_split, append_assoc]
  refine .append (forall_mem_append.mpr ⟨?_, ?_⟩) (forall_mem_append.mpr ⟨?_, ?_⟩)
  · intro e mem
    exact settles_dismantles ((cancelForSession_settles _ _ _).1 e mem)
  · intro e mem
    exact settles_dismantles ((cancelForSession_settles _ _ _).2 e mem)
  · exact teardownOf_silent
  · exact forall_mem_append.mpr ⟨refresh_silent, failureReply_silent⟩

def State.Asking (s : State D) (fid : FrameID) : Prop :=
  ∃ sid id q, (questions.store s).cell sid id = some q ∧ questions.ownedBy (D := D) fid q = true

theorem asking_iff (d : Draw) (s : State D) (sid : SessionID) (rest : Session D) (fid : FrameID) :
    (cancelApprovalsForFrame d { s with sessions := s.sessions.set sid rest } fid).1.Asking fid ↔ s.Asking fid := by
  have same := approvals_keep_questions (approvals_lawful.cancelForFrame_touches d
    { s with sessions := s.sessions.set sid rest } fid)
  constructor
  · rintro ⟨sid', id, q, here, owned⟩
    exact ⟨sid', id, q, (congrArg (fun m => Buckets.cell m sid' id) same).symm.trans here, owned⟩
  · rintro ⟨sid', id, q, here, owned⟩
    exact ⟨sid', id, q, (congrArg (fun m => Buckets.cell m sid' id) same).trans here, owned⟩

variable {rest : Session D} {fid : FrameID}

theorem storeChild_repliesFirst (idle : ¬ s.Asking fid) :
    RepliesFirst ((storeChild d s sid rest fid fid kill).2 ++ ev.failureReply) := by
  rw [← asking_iff d s sid rest] at idle
  have none_asked : (cancelQuestionsForFrame d (cancelApprovalsForFrame d
      { s with sessions := s.sessions.set sid rest } fid).1 fid).2 = [] := by
    refine RequestKind.cancelForFrame_nil d ?_
    intro sid' id q here
    cases owned : questions.ownedBy fid q with
    | false => rfl
    | true => exact absurd ⟨sid', id, q, here, owned⟩ idle
  rw [storeChild_split, none_asked, append_assoc, nil_append]
  refine .append ?_ (forall_mem_append.mpr ⟨teardownOf_silent, ?_⟩)
  · intro e mem
    exact settles_dismantles ((cancelForFrame_settles _ _ _).1 e mem)
  · exact forall_mem_append.mpr ⟨refresh_silent, failureReply_silent⟩

theorem storeChild_repliesLate {reply : List (Effect D)} (named : fid ≠ "") (asking : s.Asking fid) :
    ¬ RepliesFirst ((storeChild d s sid rest fid fid kill).2 ++ reply) := by
  rw [← asking_iff d s sid rest] at asking
  obtain ⟨sid', id, q, here, owned⟩ := asking
  have answered := RequestKind.mem_cancelForFrame d named here owned
  have addressed : q.frameID = fid := beq_iff_eq.mp (Bool.and_eq_true_iff.mp owned).2
  rw [storeChild_split]
  intro first
  have crossing := (pairwise_append.mp first).2.2
  have released : (.releaseFrame fid : Effect D) ∈ teardownOf [fid] kill := by simp
  refine crossing _ (mem_append_right _ released) _ (mem_append_left _ (mem_append_left _ answered)) fid rfl ?_
  show some q.frameID = some fid
  rw [addressed]

/-! ## Steps -/

def State.ChildFrame (s : State D) (fid : FrameID) : Prop :=
  ∃ sid sess, s.sessions.get? sid = some sess ∧ fid ∈ (sess.frames.drop 1).map SessionFrame.id

/-- The event makes the running daemon evict a child frame that waits for the answer to a
question. -/
def Event.CutsOff (s : State D) (ev : Event D) : Prop :=
  s.lifecycle = .running ∧ ∃ fid kill disposition,
    ev.evicts = some (fid, kill, disposition) ∧ s.ChildFrame fid ∧ s.Asking fid

theorem childFrame_of_found {i : Nat} (found : findFrame d s fid = some (sid, sess, i))
    (child : i ≠ 0) : s.ChildFrame fid := by
  obtain ⟨stored, index⟩ := findFrame_spec found
  obtain ⟨frame, here, same⟩ := findFrameIndex_spec index
  refine ⟨sid, sess, stored, mem_map.mpr ⟨frame, ?_, same⟩⟩
  refine mem_iff_getElem?.mpr ⟨i - 1, ?_⟩
  rwa [getElem?_drop, Nat.add_sub_cancel' (Nat.pos_of_ne_zero child)]

theorem not_root_of_childFrame (wf : s.graph.WF) (child : s.ChildFrame fid)
    (found : findFrame d s fid = some (sid, sess, 0)) : False := by
  obtain ⟨sid', sess', stored', tail⟩ := child
  obtain ⟨stored, index⟩ := findFrame_spec found
  have graph := State.graph_of_get? stored
  have graph' := State.graph_of_get? stored'
  have held := map_subset _ (drop_subset 1 _) tail
  obtain rfl := wf.disjoint graph' graph held (findFrame_holds found).2
  cases stored.symm.trans stored'
  obtain ⟨frame, first, same⟩ := findFrameIndex_spec index
  have nodup := (wf.node graph).frames_nodup
  cases shape : sess.frames with
  | nil => simp [shape] at first
  | cons =>
    simp only [shape, getElem?_cons_zero, Option.some.injEq] at first
    simp only [Session.node, shape, map_cons, nodup_cons] at nodup
    simp only [shape, drop_succ_cons, drop_zero] at tail
    rw [first, same] at nodup
    exact nodup.1 tail

theorem Settling.repliesFirst (calm : env.TeardownFree) (running : s.lifecycle = .running)
    (spared : ¬ ev.CutsOff s) (settling : Settling env d s ev s' effs) : RepliesFirst effs := by
  have untouched : ∀ {l : List (Effect D)}, (∀ e ∈ l, e.settles = true) → ∀ e ∈ l, e.dismantles = none :=
    fun settle e mem => settles_dismantles (settle e mem)
  have decided : ∀ {e : Effect D} {client}, e.settles = true ∨ e.repliesTo = some client → e.dismantles = none :=
    fun either => either.elim settles_dismantles repliesTo_dismantles
  cases settling with
  | evictRoot => exact evictRootFrame_repliesFirst
  | evictChild evicts found child =>
    refine storeChild_repliesFirst ?_
    intro asking
    exact spared ⟨running, _, _, _, evicts, childFrame_of_found found child, asking⟩
  | @subsystem e _ _ _ _ _ driven effects =>
    refine .of_unreleased (forall_mem_append.mpr ⟨forall_mem_append.mpr ⟨?_, ?_⟩, ?_⟩)
    · exact driven.forall_pushed (fun _ emitted => calm.fromDriver emitted) fun _ _ _ => rfl
    · exact untouched (reduceHumanInput_filed d _ e).settles
    · exact fun e mem => (effects e mem).dismantles calm
  | approval _ _ isReply => exact .of_unreleased fun e mem => decided (mem_commit approvals_lawful isReply e mem)
  | question _ _ isReply => exact .of_unreleased fun e mem => decided (mem_commit questions_lawful isReply e mem)
  | tick _ effectsBefore effectsAfter =>
    refine .of_unreleased (forall_mem_append.mpr ⟨forall_mem_append.mpr ⟨forall_mem_append.mpr ⟨?_, ?_⟩, ?_⟩, ?_⟩)
    · exact fun e mem => (effectsBefore e mem).dismantles calm
    · exact untouched (expirePending_settles _ _ _).1
    · exact untouched (expirePending_settles _ _ _).2
    · exact fun e mem => (effectsAfter e mem).dismantles calm

theorem Step.repliesLate (wf : s.graph.WF) (step : Step env s (ev, effs) s')
    (cuts : ev.CutsOff s) : ¬ RepliesFirst effs := by
  obtain ⟨running, fid, kill, disposition, evicts, child, asking⟩ := cuts
  obtain ⟨d, _, reduced⟩ := step
  unfold reduce at reduced
  rw [running] at reduced
  obtain ⟨r, evicted, rfl, rfl⟩ := reduceRunning_evicts evicts reduced
  have present : s.HasFrame fid := by
    obtain ⟨sid, sess, stored, tail⟩ := child
    exact ⟨sid, sess, stored, map_subset _ (drop_subset 1 _) tail⟩
  rcases evictFrame_cases evicted with ⟨absent, _⟩ | ⟨sid, sess, found, _⟩ | ⟨sid, sess, i, rest, found, _, _, rfl⟩
  · exact absurd present absent
  · exact (not_root_of_childFrame wf child found).elim
  · obtain ⟨stored, held⟩ := findFrame_holds found
    exact storeChild_repliesLate ((wf.node stored).frames_named _ held) asking

/-- In the effects of a step, held replies come before the release of their frame and the runtime
delivers them all, unless the step evicts a child frame that waits for the answer to a question. -/
theorem held_replies_precede_release (discreet : env.Discreet) (calm : env.TeardownFree)
    (reachable : Reachable env s) (step : Step env s (ev, effs) s') :
    (RepliesFirst effs ∧ DeliversHeld effs) ↔ ¬ ev.CutsOff s := by
  obtain ⟨cfg, labels, run⟩ := reachable
  have wf := HostRun.graph_wf run
  constructor
  · rintro ⟨first, _⟩ cuts
    exact step.repliesLate wf cuts first
  · intro spared
    have first : RepliesFirst effs := by
      rcases Step.cases step with ⟨running, d, _, action⟩ | ⟨_, admitted⟩
      · rcases action.still_or_settling discreet with still | settling
        · exact .of_silent still.silent
        · exact settling.repliesFirst calm running spared
      · exact .of_silent admitted.silent
    exact ⟨first, first.delivers⟩

/-- A root frame that vanishes is released after its approval was answered. -/
theorem vanished_root_is_answered_before_release :
    ∃ (s s' : State Unit) (effs : List (Effect Unit)), Reachable Env.inert s ∧
      Step Env.inert s (.frameVanished "aa", effs) s' ∧ (effs.filter fun e => e.releases.isSome || e.heldFor.isSome) =
        [.replyHeldApproval "aa" "p" .deny "connection-lost", .releaseFrame "aa"] ∧
      RepliesFirst effs ∧ DeliversHeld effs := by
  have reachable := replay_reachable Env.inert {} [('a', .creates), ('b', .asksApproval "aa" "p")] rfl
  have ordered := (held_replies_precede_release Env.inert_discreet Env.inert_teardownFree reachable
    (show Step Env.inert _ (.frameVanished "aa", _) _ from
      ⟨Draw.tagged 'c', Draw.tagged_fresh rfl, rfl⟩)).mpr ?_
  · exact ⟨_, _, _, reachable, ⟨Draw.tagged 'c', Draw.tagged_fresh rfl, rfl⟩, rfl, ordered⟩
  · rintro ⟨_, _, _, _, _, _, sid, id, q, here, _⟩
    cases here

/-- A child frame that vanishes while it asks a question is released before the question is
answered, and the runtime drops the answer. -/
theorem vanished_child_loses_answer : ∃ (s s' : State Unit) (effs : List (Effect Unit)), Reachable Env.inert s ∧
      Step Env.inert s (.frameVanished "b", effs) s' ∧ (effs.filter fun e => e.releases.isSome || e.heldFor.isSome) =
        [.releaseFrame "b", .replyHeldQuestion "b" "k" "" "connection-lost"] ∧
      (executeAll (GoMap.set ∅ "b" .replier) effs).2 = [] :=
  ⟨_, _, _, replay_reachable Env.inert {}
      [('a', .creates), ('b', .event 1 "r" (.pushDriver (.ok { sessionID := "a", command := "y" }))),
        ('c', .asksQuestion "b" "k")] rfl,
    ⟨Draw.tagged 'd', Draw.tagged_fresh rfl, rfl⟩, rfl, rfl⟩

end AgentGrid.Host
