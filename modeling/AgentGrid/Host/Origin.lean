import AgentGrid.Host.SessionGraph

/-!
# Where effects come from

Every effect of an action is ordinary, speaks about a request, starts a frame, tears
one down, or belongs to the life of a frame or of a shutdown.  What a step can never
emit is read off the origins.
-/

namespace AgentGrid.Host

open AgentGrid.Lib List

variable {D : Type} {env : Env D} {d : Draw} {s s' : State D} {ev : Event D}
  {effs : List (Effect D)}

/-- The teardown of the frames with the ids, in their order. -/
@[simp] def teardownOf (frames : List FrameID) (kill : Bool) : List (Effect D) :=
  frames.flatMap fun fid => frameTeardownEffects fid kill

theorem teardownAll_eq (frames : List (SessionFrame D)) (kill : Bool) :
    teardownAll frames kill = teardownOf (frames.map SessionFrame.id) kill := by simp [teardownAll, flatMap_map]

variable {e : Effect D}

theorem mem_teardownOf {frames : List FrameID} {kill : Bool} (mem : e ∈ teardownOf frames kill) :
    ∃ fid ∈ frames, e = .killFrame fid ∨ e = .releaseFrame fid ∨ e = .unregisterFrame fid ∨ e = .unwatchFile fid := by
  obtain ⟨fid, listed, torn⟩ := mem_flatMap.mp mem
  refine ⟨fid, listed, ?_⟩
  rcases mem_append.mp torn with killed | rest
  · cases kill with
    | true => exact .inl (mem_singleton.mp killed)
    | false => cases killed
  · exact .inr (by simpa using rest)

/-- Where an effect of an action comes from; `g` is the graph the action leads to. -/
inductive Origin (env : Env D) (d : Draw) (s : State D) (ev : Event D) (g : Graph) :
    Effect D → Prop where
  | ordinary {e : Effect D} (ordinary : Ordinary env ev e) : Origin env d s ev g e
  | request {e : Effect D} (settles : e.settles = true) : Origin env d s ev g e
  | spawnNew {launch : LaunchPlan D} {connID : ConnID} {reqID : String}
      (spawns : ev.spawns = true) : Origin env d s ev g (spawnEffect (d.alloc 0) (d.alloc 1) launch connID reqID)
  | spawnAsked {connID : ConnID} {reqID : String} {p : PushDriverParams} {sess : Session D}
      {plan : PushPlan D} (asked : ev = .event connID reqID (.pushDriver (.ok p)))
      (found : s.sessions.get? p.sessionID = some sess)
      (planned : planPush env s p.sessionID sess p.project p.command p.options p.input = .ok plan) :
      Origin env d s ev g (spawnEffect p.sessionID (d.alloc 0) plan.launch connID reqID)
  | spawnDriver {own sid : SessionID} {ownFrame fid : FrameID} {n : Node} {command : String}
      {launch : LaunchPlan D} (found : s.graph own = some n) (held : ownFrame ∈ n.frames)
      (emitted : env.Patches own ownFrame (.pushDriver sid command)) :
      Origin env d s ev g (spawnEffect sid fid launch 0 "")
  | teardown {e : Effect D} {frames : List FrameID} {kill : Bool}
      (removal : Removal s ev frames kill g) (torn : e ∈ teardownOf frames kill) : Origin env d s ev g e
  | registered {spawned : EvFrameSpawned} {tap : Bool} (asked : ev = .frameSpawned spawned) :
      Origin env d s ev g (.registerFrame spawned.frameID tap)
  | crashed {fid : FrameID} {code : Int} (asked : ev = .frameCommandExited fid code) :
      Origin env d s ev g (.releaseFrame fid)
  | shutdown {connID : ConnID} {reqID : String}
      (asked : ev = .event connID reqID (.shutdown (.ok ()))) :
      Origin env d s ev g (.commitShutdownSessions (s.nextShutdownID + 1))

/-! ## The pushes of a driver -/

variable {g : Graph} {raws : List (Effect D)}

theorem Pushed.origin {k : Nat} {g' : Graph} {out : List (Effect D)}
    (pushed : Pushed d k g raws g' out) (mem : e ∈ out) :
    e ∈ raws ∨ ∃ sid fid command launch, e = spawnEffect sid fid launch 0 "" ∧ .pushDriver sid command ∈ raws := by
  induction pushed with
  | nil => cases mem
  | pass _ ih =>
    rcases mem_cons.mp mem with rfl | later
    · exact .inl mem_cons_self
    rcases ih later with raw | ⟨sid, fid, command, launch, same, raw⟩
    · exact .inl (mem_cons_of_mem _ raw)
    · exact .inr ⟨sid, fid, command, launch, same, mem_cons_of_mem _ raw⟩
  | skip _ ih =>
    rcases ih mem with raw | ⟨sid, fid, command, launch, same, raw⟩
    · exact .inl (mem_cons_of_mem _ raw)
    · exact .inr ⟨sid, fid, command, launch, same, mem_cons_of_mem _ raw⟩
  | push _ _ ih =>
    rcases mem_cons.mp mem with rfl | later
    · exact .inr ⟨_, _, _, _, rfl, mem_cons_self⟩
    rcases ih later with raw | ⟨sid, fid, command, launch, same, raw⟩
    · exact .inl (mem_cons_of_mem _ raw)
    · exact .inr ⟨sid, fid, command, launch, same, mem_cons_of_mem _ raw⟩

variable {mid : State D} {pushed : List (Effect D)}

theorem Driven.origin (driven : Driven env d s mid raws pushed) (mem : e ∈ pushed) : Origin env d s ev g e := by
  obtain ⟨own, ownFrame, n, found, held, patched⟩ := driven.emitted
  rcases driven.pushed.origin mem with raw | ⟨sid, fid, command, launch, rfl, raw⟩
  · exact .ordinary (.fromDriver ⟨own, ownFrame, patched e raw⟩)
  · exact .spawnDriver found held (patched _ raw)

theorem Driven.forall_pushed {P : Effect D → Prop} (driven : Driven env d s mid raws pushed)
    (emitted : ∀ e, env.FromDriver e → P e)
    (spawned : ∀ sid fid launch, P (spawnEffect sid fid launch 0 "")) : ∀ e ∈ pushed, P e := by
  intro e mem
  obtain ⟨own, ownFrame, _, _, _, patched⟩ := driven.emitted
  rcases driven.pushed.origin mem with raw | ⟨sid, fid, command, launch, rfl, _⟩
  · exact emitted e ⟨own, ownFrame, patched e raw⟩
  · exact spawned sid fid launch

theorem mem_failureReply (mem : e ∈ ev.failureReply) :
    ∃ client, e.repliesTo = some client ∧ ev.requester = some client := by
  unfold Event.failureReply at mem
  split at mem
  · split at mem
    · cases mem
    · obtain rfl := mem_singleton.mp mem
      exact ⟨_, rfl, rfl⟩
  · cases mem

variable {connID : ConnID} {reqID : String}

theorem mem_commit {R : Type} {k : RequestKind D R} (lawful : k.Lawful) {reply : R → Effect D}
    (isReply : k.IsReply reply) {id : String} {change : R → R} :
    ∀ e ∈ (k.commit d s connID reqID id change reply).2, e.settles = true ∨ e.repliesTo = some (connID, reqID) :=
  RequestKind.commit_forall (fun _ _ _ => .inr rfl) (.inr rfl)
    (fun r => .inl (lawful.reply_settles isReply r)) (fun r => .inl (lawful.resolved_settles r)) id
    change

/-! ## Actions -/

theorem mem_reduceShutdown (mem : e ∈ (reduceShutdown s connID reqID).2) :
    e = .commitShutdownSessions (s.nextShutdownID + 1) := by
  unfold reduceShutdown at mem
  cases phase : s.lifecycle with
  | running =>
    simp only [phase] at mem
    exact mem_singleton.mp mem
  | quiescing =>
    simp only [phase] at mem
    cases mem

theorem mem_spawnedEffects {spawned : EvFrameSpawned} {tap : Bool} (mem : e ∈ spawnedEffects spawned tap) :
    e = .registerFrame spawned.frameID tap ∨ e.plain = true ∨
      e.repliesTo = some (spawned.replyConn, spawned.replyReqID) := by
  rcases mem_append.mp mem with first | reply
  · simp only [mem_cons, not_mem_nil, or_false] at first
    rcases first with rfl | rfl | rfl
    · exact .inl rfl
    · exact .inr (.inl rfl)
    · exact .inr (.inl rfl)
  split at reply
  · obtain rfl := mem_singleton.mp reply
    exact .inr (.inr rfl)
  · cases reply

theorem Action.origin (action : Action env d s ev s' effs) (mem : e ∈ effs) : Origin env d s ev s'.graph e := by
  cases action with
  | quiet _ _ _ effects | select _ _ _ _ _ effects | publish _ _ _ _ _ effects => exact .ordinary (effects e mem)
  | refuse _ asked =>
    obtain rfl := mem_singleton.mp mem
    exact .ordinary (.reply rfl asked)
  | create spawns =>
    obtain rfl := mem_singleton.mp mem
    exact .spawnNew spawns
  | push asked found planned =>
    obtain rfl := mem_singleton.mp mem
    exact .spawnAsked asked found planned
  | hook _ driven effects =>
    rcases mem_append.mp mem with pushed | tail
    · exact driven.origin pushed
    · exact .ordinary (effects e tail)
  | subsystem _ driven effects =>
    simp only [mem_append] at mem
    rcases mem with (pushed | request) | tail
    · exact driven.origin pushed
    · exact .request ((reduceHumanInput_filed _ _ _).settles e request)
    · exact .ordinary (effects e tail)
  | stop asked found =>
    simp only [mem_append] at mem
    rcases mem with (first | torn) | last
    · obtain rfl := mem_singleton.mp first
      exact .ordinary (.inl rfl)
    · rw [teardownAll_eq] at torn
      exact .teardown (stop_removal asked found) torn
    rcases mem_pair.mp last with rfl | rfl
    · subst asked
      exact .ordinary (.reply rfl rfl)
    · exact .ordinary (.inl rfl)
  | gone => exact .ordinary (.inr (.inr (mem_failureReply mem)))
  | evictRoot evicts found =>
    simp only [evictRootFrame, mem_append] at mem
    rcases mem with (((approval | question) | torn) | refresh) | reply
    · exact .request ((cancelForSession_settles _ _ _).1 e approval)
    · exact .request ((cancelForSession_settles _ _ _).2 e question)
    · rw [teardownAll_eq] at torn
      exact .teardown (evictRoot_removal evicts found) torn
    · rcases mem_pair.mp refresh with rfl | rfl <;> exact .ordinary (.inl rfl)
    · exact .ordinary (.inr (.inr (mem_failureReply reply)))
  | evictChild evicts found child left =>
    simp only [storeChild, mem_append] at mem
    rcases mem with (((approval | torn) | question) | refresh) | reply
    · exact .request ((cancelForFrame_settles _ _ _).1 e approval)
    · refine .teardown (evictChild_removal evicts found child left) ?_
      simpa using torn
    · exact .request ((cancelForFrame_settles _ _ _).2 e question)
    · rcases mem_pair.mp refresh with rfl | rfl <;> exact .ordinary (.inl rfl)
    · exact .ordinary (.inr (.inr (mem_failureReply reply)))
  | approval _ asked _ _ isReply =>
    rcases mem_commit approvals_lawful isReply e mem with settles | addressed
    · exact .request settles
    · exact .ordinary (.reply addressed asked)
  | question _ asked _ _ isReply =>
    rcases mem_commit questions_lawful isReply e mem with settles | addressed
    · exact .request settles
    · exact .ordinary (.reply addressed asked)
  | tick _ _ _ before after =>
    simp only [mem_append] at mem
    rcases mem with ((first | approval) | question) | last
    · exact .ordinary (before e first)
    · exact .request ((expirePending_settles _ _ _).1 e approval)
    · exact .request ((expirePending_settles _ _ _).2 e question)
    · exact .ordinary (after e last)
  | register asked _ _ _ fromDriver =>
    rcases mem_append.mp mem with boot | spawned
    · exact .ordinary (.fromDriver (fromDriver e boot))
    rcases mem_spawnedEffects spawned with rfl | plain | addressed
    · exact .registered asked
    · exact .ordinary (.inl plain)
    · subst asked
      exact .ordinary (.reply addressed rfl)
  | late => cases mem
  | release asked _ _ _ fromDriver =>
    rcases mem_append.mp mem with emitted | last
    · exact .ordinary (.fromDriver (fromDriver e emitted))
    · obtain rfl := mem_singleton.mp last
      exact .crashed asked
  | shutdown asked =>
    obtain rfl := mem_reduceShutdown mem
    exact .shutdown asked

/-! ## The quiescing daemon -/

def Effect.closes : Effect D → Bool
  | .commitShutdownSessions _ | .releaseFrames _ | .completeShutdown _ | .terminateRuntime => true
  | _ => false

variable {id : Nat}

theorem mem_reduceShutdownSaveSucceeded (mem : e ∈ (reduceShutdownSaveSucceeded s id).2) :
    e = .releaseFrames id ∧ (currentShutdown s id).isSome = true := by
  unfold reduceShutdownSaveSucceeded at mem
  cases current : currentShutdown s id with
  | none =>
    rw [current] at mem
    cases mem
  | some =>
    rw [current] at mem
    exact ⟨mem_singleton.mp mem, rfl⟩

/-- The effect answers a client that waits for the shutdown. -/
def AnswersWaiter (s : State D) (id : Nat) (e : Effect D) : Prop :=
  ∃ tx w, currentShutdown s id = some tx ∧ w ∈ tx.waiters ∧ e.repliesTo = some (w.connID, w.reqID)

theorem mem_reduceShutdownSaveFailed {err : String} (mem : e ∈ (reduceShutdownSaveFailed s id err).2) :
    AnswersWaiter s id e ∨ e = .completeShutdown .commitFailed := by
  unfold reduceShutdownSaveFailed at mem
  split at mem
  · cases mem
  rename_i tx current
  rcases mem_append.mp mem with answer | last
  · obtain ⟨w, listed, rfl⟩ := mem_map.mp answer
    exact .inl ⟨tx, w, current, listed, rfl⟩
  · exact .inr (mem_singleton.mp last)

theorem mem_reduceShutdownCleanupFinished {outcome : ShutdownCleanupOutcome}
    (mem : e ∈ (reduceShutdownCleanupFinished s id outcome).2) :
    AnswersWaiter s id e ∨ (∃ result, e = .completeShutdown result) ∨
      (e = .terminateRuntime ∧ (currentShutdown s id).isSome = true) := by
  unfold reduceShutdownCleanupFinished at mem
  split at mem
  · cases mem
  rename_i tx current
  rcases mem_append.mp mem with answer | last
  · obtain ⟨w, listed, rfl⟩ := mem_map.mp answer
    exact .inl ⟨tx, w, current, listed, by cases outcome <;> rfl⟩
  rcases mem_pair.mp last with rfl | rfl
  · exact .inr (.inl ⟨_, rfl⟩)
  · exact .inr (.inr ⟨rfl, current ▸ rfl⟩)

theorem Admitted.origin (admitted : Admitted s ev s' effs) (mem : e ∈ effs) :
    e.traffic = true ∨ e.repliesTo.isSome = true ∨ e.closes = true := by
  have replies : ∀ {client}, e.repliesTo = some client → e.repliesTo.isSome = true := fun same => same ▸ rfl
  cases admitted with
  | served _ served =>
    rcases served.effects e mem with traffic | ⟨client, addressed, _⟩
    · exact .inl traffic
    · exact .inr (.inl (replies addressed))
  | refuse =>
    obtain rfl := mem_singleton.mp mem
    exact .inr (.inl rfl)
  | join =>
    obtain rfl := mem_reduceShutdown mem
    exact .inr (.inr rfl)
  | saved =>
    obtain ⟨rfl, _⟩ := mem_reduceShutdownSaveSucceeded mem
    exact .inr (.inr rfl)
  | saveFailed =>
    rcases mem_reduceShutdownSaveFailed mem with ⟨_, _, _, _, addressed⟩ | rfl
    · exact .inr (.inl (replies addressed))
    · exact .inr (.inr rfl)
  | cleaned =>
    rcases mem_reduceShutdownCleanupFinished mem with ⟨_, _, _, _, addressed⟩ | ⟨_, rfl⟩ | ⟨rfl, _⟩
    · exact .inr (.inl (replies addressed))
    · exact .inr (.inr rfl)
    · exact .inr (.inr rfl)

end AgentGrid.Host
