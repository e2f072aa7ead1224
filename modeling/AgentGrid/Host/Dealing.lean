import AgentGrid.Host.Owners
import AgentGrid.Host.Shutdown

/-!
# What a step means to the clients

A request to start a frame is refused at once or passed on to the runtime; what the
runtime reports is passed on to the client that waits, or dropped while the daemon
quiesces.  Whatever else a step emits answers the client that asked or those that
wait for the shutdown.
-/

namespace AgentGrid.Host

open AgentGrid.Lib List Effect

variable {D : Type} {env : Env D} {d : Draw} {s s' : State D} {ev : Event D}
  {effs : List (Effect D)}

/-- The effect answers a client, starts a frame or registers one. -/
def Effect.serves : Effect D → Bool
  | .spawnFrame .. | .registerFrame .. | .sendResponse .. | .sendResponseSync ..
  | .sendError .. => true
  | _ => false

/-- The drivers leave clients and frames to the daemon. -/
def Env.Modest (env : Env D) : Prop := ∀ e, env.Emits e → e.serves = false

theorem Env.inert_modest : Env.inert.Modest :=
  fun _ emitted => absurd emitted Env.inert_emits

theorem Env.Modest.fromDriver (modest : env.Modest) {e : Effect D} (emitted : env.FromDriver e) :
    e.serves = false := by
  cases patched : e.patched with
  | false => exact modest e (emitted.emits patched)
  | true => cases e <;> first | rfl | cases patched

def State.Awaits (s : State D) (client : ConnID × String) : Prop :=
  ∃ tx, s.shutdown = some tx ∧ ⟨client.1, client.2⟩ ∈ tx.waiters

/-- The effect serves nobody, or answers whoever asked or waits for the shutdown, or starts a frame
nobody waits for. -/
inductive Incidental (s : State D) (ev : Event D) : Effect D → Prop where
  | silent {e : Effect D} (silent : e.serves = false) : Incidental s ev e
  | asked {e : Effect D} {client : ConnID × String} (addressed : e.repliesTo = some client)
      (asked : ev.requester = some client) : Incidental s ev e
  | awaited {e : Effect D} {client : ConnID × String} (addressed : e.repliesTo = some client)
      (awaited : s.Awaits client) : Incidental s ev e
  | unasked (sid : SessionID) (fid : FrameID) (launch : LaunchPlan D) :
      Incidental s ev (spawnEffect sid fid launch 0 "")

/-- What a step means to the clients that ask for frames. -/
inductive Dealing (s : State D) (ev : Event D) : List (Effect D) → Prop where
  | refused {connID : ConnID} {reqID code message : String} {details : List (String × String)}
      (spawns : ev.spawns = true) (asked : ev.requester = some (connID, reqID)) :
      Dealing s ev [.sendError connID reqID code message details]
  | passed {sid : SessionID} {fid : FrameID} {launch : LaunchPlan D} {connID : ConnID}
      {reqID : String} (spawns : ev.spawns = true)
      (asked : ev.requester = some (connID, reqID)) : Dealing s ev [spawnEffect sid fid launch connID reqID]
  | registered {e : EvFrameSpawned} {boot : List (Effect D)} {tap : Bool}
      (running : s.lifecycle = .running) (asked : ev = .frameSpawned e)
      (silent : ∀ x ∈ boot, x.serves = false) : Dealing s ev (boot ++ spawnedEffects e tap)
  | failed {e : EvSpawnFailed} {rest : List (Effect D)} (running : s.lifecycle = .running)
      (asked : ev = .spawnFailed e) (silent : ∀ x ∈ rest, x.serves = false) : Dealing s ev (rest ++ ev.failureReply)
  | dropped (quiescing : s.lifecycle = .quiescing) (spawns : ev.spawns = false)
      (routine : ev.routine = false) : Dealing s ev []
  | other {effs : List (Effect D)} (routine : ev.routine = true)
      (incidental : ∀ e ∈ effs, Incidental s ev e) : Dealing s ev effs

/-! ## The running daemon -/

theorem Ordinary.incidental (modest : env.Modest) {e : Effect D} (ordinary : Ordinary env ev e) :
    Incidental s ev e := by
  rcases ordinary with plain | emitted | ⟨client, addressed, asked⟩
  · refine .silent ?_
    cases e <;> first | rfl | cases plain
  · exact .silent (modest.fromDriver emitted)
  · exact .asked addressed asked

theorem Effect.serves_of_settles {e : Effect D} (settles : e.settles = true) : e.serves = false := by
  cases e <;> first | rfl | cases settles

theorem teardownOf_serves {frames : List FrameID} {kill : Bool} :
    ∀ e ∈ (teardownOf frames kill : List (Effect D)), e.serves = false := by
  intro e mem
  obtain ⟨fid, _, rfl | rfl | rfl | rfl⟩ := mem_teardownOf mem <;> rfl

theorem refresh_serves : ∀ e ∈ ([.persistSnapshot, .broadcastSessionsChanged] : List (Effect D)), e.serves = false :=
  forall_mem_cons.mpr ⟨rfl, forall_mem_singleton.mpr rfl⟩

theorem evictRootFrame_serves (sid : SessionID) (sess : Session D) (kill : Bool) (disposition : RootDisposition) :
    ∀ e ∈ (evictRootFrame d s sid sess kill disposition).2, e.serves = false := by
  intro e mem
  simp only [evictRootFrame, mem_append] at mem
  rcases mem with ((approval | question) | torn) | refresh
  · exact serves_of_settles ((cancelForSession_settles _ _ _).1 e approval)
  · exact serves_of_settles ((cancelForSession_settles _ _ _).2 e question)
  · rw [teardownAll_eq] at torn
    exact teardownOf_serves e torn
  · exact refresh_serves e refresh

theorem storeChild_serves (sid : SessionID) (rest : Session D) (fid : FrameID) (kill : Bool) :
    ∀ e ∈ (storeChild d s sid rest fid fid kill).2, e.serves = false := by
  intro e mem
  simp only [storeChild, mem_append] at mem
  rcases mem with ((approval | torn) | question) | refresh
  · exact serves_of_settles ((cancelForFrame_settles _ _ _).1 e approval)
  · have listed : e ∈ teardownOf [fid] kill := by simpa using torn
    exact teardownOf_serves e listed
  · exact serves_of_settles ((cancelForFrame_settles _ _ _).2 e question)
  · exact refresh_serves e refresh

theorem Event.routine_of_spawns (spawns : ev.spawns = true) : ev.routine = false := by
  cases ev with
  | event => exact congrArg not spawns
  | _ => cases spawns

theorem Origin.incidental (modest : env.Modest) (routine : ev.routine = true) {g : Graph}
    {e : Effect D} (origin : Origin env d s ev g e) : Incidental s ev e := by
  cases origin with
  | ordinary ordinary => exact ordinary.incidental modest
  | request settles => exact .silent (serves_of_settles settles)
  | spawnNew spawns =>
    rw [Event.routine_of_spawns spawns] at routine
    cases routine
  | spawnAsked asked _ _ | registered asked =>
    subst asked
    cases routine
  | spawnDriver => exact .unasked _ _ _
  | teardown _ torn => exact .silent (teardownOf_serves e torn)
  | crashed _ | shutdown _ => exact .silent rfl

theorem Event.spawnFailed_of_evicts {x : FrameID × Bool × RootDisposition}
    (evicts : ev.evicts = some x) (reports : ¬ ev.routine = true) : ∃ e, ev = .spawnFailed e := by
  cases ev with
  | spawnFailed e => exact ⟨e, rfl⟩
  | frameVanished | frameCommandExited => exact absurd rfl reports
  | _ => cases evicts

theorem Action.dealing (modest : env.Modest) (running : s.lifecycle = .running)
    (alive : ∀ e, ev = .frameSpawned e → s.FrameAt e.sessionID e.frameID)
    (action : Action env d s ev s' effs) : Dealing s ev effs := by
  by_cases routine : ev.routine
  · exact .other routine fun e mem => (action.origin mem).incidental modest routine
  cases action with
  | refuse spawns asked => exact .refused spawns asked
  | create spawns asked => exact .passed spawns asked
  | push asked =>
    subst asked
    exact .passed rfl rfl
  | register asked _ _ _ fromDriver =>
    exact .registered running asked fun x mem => modest.fromDriver (fromDriver x mem)
  | late asked absent =>
    obtain ⟨n, found, held⟩ := State.frameAt_iff.mp (alive _ asked)
    exact absurd held (absent n found)
  | gone evicts =>
    obtain ⟨e, asked⟩ := Event.spawnFailed_of_evicts evicts routine
    exact .failed running asked (forall_mem_nil _)
  | evictRoot evicts =>
    obtain ⟨e, asked⟩ := Event.spawnFailed_of_evicts evicts routine
    exact .failed running asked (evictRootFrame_serves _ _ _ _)
  | evictChild evicts =>
    obtain ⟨e, asked⟩ := Event.spawnFailed_of_evicts evicts routine
    exact .failed running asked (storeChild_serves _ _ _ _)
  | quiet here _ _ _ | hook here _ _ | approval here _ _ _ _ | question here _ _ _ _
  | publish here => exact absurd here routine
  | subsystem asked _ _ | stop asked _ | select asked _ _ _ _ _ | tick asked _ _ _ _
  | release asked _ _ _ _ | shutdown asked =>
    subst asked
    exact absurd rfl routine

/-! ## The quiescing daemon -/

theorem AnswersWaiter.incidental {id : Nat} {e : Effect D} (answers : AnswersWaiter s id e) : Incidental s ev e := by
  obtain ⟨tx, w, current, listed, addressed⟩ := answers
  exact .awaited addressed ⟨tx, (currentShutdown_eq_some.mp current).2.1, listed⟩

theorem Admitted.incidental (routine : ev.routine = true) (admitted : Admitted s ev s' effs) :
    ∀ e ∈ effs, Incidental s ev e := by
  intro e mem
  cases admitted with
  | served _ served =>
    rcases served.effects e mem with traffic | ⟨client, addressed, asked⟩
    · refine .silent ?_
      cases e <;> first | rfl | cases traffic
    · exact .asked addressed asked
  | refuse spawns =>
    rw [Event.routine_of_spawns spawns] at routine
    cases routine
  | join =>
    obtain rfl := mem_reduceShutdown mem
    exact .silent rfl
  | saved =>
    obtain ⟨rfl, _⟩ := mem_reduceShutdownSaveSucceeded mem
    exact .silent rfl
  | saveFailed =>
    rcases mem_reduceShutdownSaveFailed mem with answers | rfl
    · exact answers.incidental
    · exact .silent rfl
  | cleaned =>
    rcases mem_reduceShutdownCleanupFinished mem with answers | ⟨_, rfl⟩ | ⟨rfl, _⟩
    · exact answers.incidental
    · exact .silent rfl
    · exact .silent rfl

theorem Step.drops (step : Step env s (ev, effs) s') (quiescing : s.lifecycle = .quiescing)
    (spawns : ev.spawns = false) (reports : ¬ ev.routine = true) : effs = [] := by
  obtain ⟨d, _, reduced⟩ := step
  unfold reduce at reduced
  rw [quiescing] at reduced
  cases ev with
  | frameSpawned e | spawnFailed e =>
    cases reduced
    rfl
  | event => exact absurd (congrArg not spawns) reports
  | _ => exact absurd rfl reports

theorem Step.dealing (modest : env.Modest) (alive : ∀ e, ev = .frameSpawned e → s.FrameAt e.sessionID e.frameID)
    (step : Step env s (ev, effs) s') : Dealing s ev effs := by
  rcases Step.cases step with ⟨running, d, _, action⟩ | ⟨quiescing, admitted⟩
  · exact action.dealing modest running alive
  by_cases routine : ev.routine
  · exact .other routine (admitted.incidental routine)
  cases spawns : ev.spawns with
  | false =>
    rw [step.drops quiescing spawns routine]
    exact .dropped quiescing spawns (Bool.eq_false_of_not_eq_true routine)
  | true =>
    cases admitted with
    | refuse _ asked => exact .refused spawns asked
    | served other => cases spawns.symm.trans other
    | join asked | saved asked | saveFailed asked | cleaned asked =>
      subst asked
      cases spawns

/-! ## Who waits for the shutdown -/

variable {client : ConnID × String}

theorem reduceShutdown_awaits {connID : ConnID} {reqID : String}
    (awaits : (reduceShutdown s connID reqID).1.Awaits client) : s.Awaits client ∨ (connID, reqID) = client := by
  have joined : ∀ {w : ShutdownWaiter}, w ∈ (if connID ≠ 0 then [⟨connID, reqID⟩] else []) → w = ⟨connID, reqID⟩ := by
    intro w mem
    split at mem
    · exact mem_singleton.mp mem
    · cases mem
  obtain ⟨tx, current, listed⟩ := awaits
  unfold reduceShutdown at current
  cases phase : s.lifecycle with
  | running =>
    simp only [phase] at current
    cases current
    cases joined listed
    exact .inr rfl
  | quiescing =>
    simp only [phase] at current
    obtain ⟨old, before, rfl⟩ := Option.map_eq_some_iff.mp current
    rcases mem_append.mp listed with earlier | last
    · exact .inl ⟨old, before, earlier⟩
    · cases joined last
      exact .inr rfl

theorem Step.awaits (step : Step env s (ev, effs) s') (awaits : s'.Awaits client) :
    s.Awaits client ∨ ev.routine = true ∧ ev.requester = some client := by
  rcases step.shutdown_cases with ⟨connID, reqID, rfl, rfl, rfl⟩ | ⟨id, rfl, rfl, rfl⟩ |
    ⟨id, err, rfl, rfl, rfl⟩ | ⟨id, outcome, rfl, rfl, rfl⟩ | ⟨request, report⟩
  · rcases reduceShutdown_awaits awaits with before | rfl
    · exact .inl before
    · exact .inr ⟨rfl, rfl⟩
  · unfold reduceShutdownSaveSucceeded at awaits
    split at awaits <;> exact .inl awaits
  · unfold reduceShutdownSaveFailed at awaits
    split at awaits
    · exact .inl awaits
    · obtain ⟨tx, ⟨⟩, _⟩ := awaits
  · unfold reduceShutdownCleanupFinished at awaits
    split at awaits
    · exact .inl awaits
    · obtain ⟨tx, ⟨⟩, _⟩ := awaits
  obtain ⟨tx, current, listed⟩ := awaits
  rw [(step.sameShutdown request report).shutdown] at current
  exact .inl ⟨tx, current, listed⟩

end AgentGrid.Host
