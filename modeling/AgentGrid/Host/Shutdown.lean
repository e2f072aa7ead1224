import AgentGrid.Host.Origin
import AgentGrid.Lib.Closing

/-!
# Shutting down

The shutdown of the daemon is a transaction that closes it once.  Each step is a move
of it, so the rules of closing hold of every run: the numbers of the transactions
increase, the runtime is terminated at most once and the daemon never works after
that, and whoever waits is answered once.  While the daemon quiesces, all else stands
still.
-/

namespace AgentGrid.Host

open AgentGrid.Lib List State

variable {D : Type} {env : Env D} {d : Draw} {s s' : State D} {ev : Event D}
  {effs : List (Effect D)}

def Env.StaysOpen (env : Env D) : Prop := ∀ e, env.Emits e → e.closes = false

theorem Env.inert_staysOpen : Env.inert.StaysOpen :=
  fun _ emitted => absurd emitted Env.inert_emits

/-! ## What a step tells about the shutdown -/

def Event.reportsOn : Event D → Option Nat
  | .shutdownSaveBarrierSucceeded id => some id
  | .shutdownSaveBarrierFailed id _ => some id
  | .shutdownCleanupFinished id _ => some id
  | _ => none

def Event.concludes : Event D → Option Nat
  | .shutdownSaveBarrierFailed id _ => some id
  | .shutdownCleanupFinished id _ => some id
  | _ => none

def Event.asksShutdown : Event D → Bool
  | .event _ _ (.shutdown (.ok _)) => true
  | _ => false

/-- The client that asks for a shutdown and waits for it. -/
def Event.waiter : Event D → List ShutdownWaiter
  | .event connID reqID (.shutdown (.ok _)) => if connID ≠ 0 then [⟨connID, reqID⟩] else []
  | _ => []

def Effect.commits : Effect D → Option Nat
  | .commitShutdownSessions id => some id
  | _ => none

def Effect.terminates : Effect D → Bool
  | .terminateRuntime => true
  | _ => false

def Effect.waiter (e : Effect D) : Option ShutdownWaiter :=
  e.repliesTo.map fun client => ⟨client.1, client.2⟩

/-- What a label of a run tells about the shutdown. -/
def shutdownEntry (label : Event D × List (Effect D)) : Closing.Entry ShutdownWaiter where
  opens := label.2.filterMap Effect.commits
  ends := label.2.countP Effect.terminates
  asked := label.1.waiter
  answered := if label.1.concludes.isSome then label.2.filterMap Effect.waiter else []

@[simp] def State.book (s : State D) : Closing.Book ShutdownWaiter where
  issued := s.nextShutdownID
  phase := match s.lifecycle, s.shutdown with
    | .running, _ => .working
    | .quiescing, some tx => .closing tx.id tx.waiters
    | .quiescing, none => .closed

/-! ## Steps that do not concern the shutdown -/

structure SameShutdown (s s' : State D) : Prop where
  lifecycle : s'.lifecycle = s.lifecycle
  shutdown : s'.shutdown = s.shutdown
  nextShutdownID : s'.nextShutdownID = s.nextShutdownID

theorem SameShutdown.book (same : SameShutdown s s') : s'.book = s.book := by
  unfold State.book
  rw [same.lifecycle, same.shutdown, same.nextShutdownID]

theorem Kept.sameShutdown (kept : Kept s s') : SameShutdown s s' :=
  ⟨kept.lifecycle, kept.shutdown, kept.nextShutdownID⟩

theorem SameShutdown.trans {t : State D} (first : SameShutdown s t) (second : SameShutdown t s') :
    SameShutdown s s' :=
  ⟨second.lifecycle.trans first.lifecycle, second.shutdown.trans first.shutdown,
    second.nextShutdownID.trans first.nextShutdownID⟩

theorem RequestsOnly.sameShutdown (only : RequestsOnly s s') : SameShutdown s s' := by
  rw [only.rest]
  exact ⟨rfl, rfl, rfl⟩

theorem Served.sameShutdown (served : Served s ev s' effs) : SameShutdown s s' := by
  rw [served.rest]
  exact ⟨rfl, rfl, rfl⟩

theorem Action.sameShutdown (other : ev.asksShutdown = false)
    (action : Action env d s ev s' effs) : SameShutdown s s' := by
  cases action with
  | shutdown asked =>
    subst asked
    cases other
  | quiet _ kept _ _ | create _ _ kept _ | push _ _ _ kept _ | select _ _ _ kept _ _
  | publish _ _ _ kept _ _ | register _ _ kept _ _ | release _ _ kept _ _ => exact kept.sameShutdown
  | refuse _ _ | gone _ _ | late _ _ | stop _ _ => exact ⟨rfl, rfl, rfl⟩
  | hook _ driven => exact driven.kept.sameShutdown
  | @subsystem e _ _ _ _ _ _ driven _ =>
    have asked := driven.kept.sameShutdown.trans (reduceHumanInput_requestsOnly d _ e).sameShutdown
    exact ⟨asked.lifecycle, asked.shutdown, asked.nextShutdownID⟩
  | @evictRoot _ kill disposition sid sess _ _ =>
    have disposed : SameShutdown s (disposition.dispose s sid sess) := by cases disposition <;> exact ⟨rfl, rfl, rfl⟩
    exact disposed.trans (evictRootFrame_requestsOnly d s sid sess kill disposition).sameShutdown
  | @evictChild fid kill _ sid _ rest _ _ _ _ _ =>
    have reaped := (storeChild_requestsOnly d s sid rest fid fid kill).sameShutdown
    exact ⟨reaped.lifecycle, reaped.shutdown, reaped.nextShutdownID⟩
  | approval => exact (RequestsOnly.ofApprovals (approvals_lawful.commit_touches d s _ _ _ _ _)).sameShutdown
  | question => exact (RequestsOnly.ofQuestions (questions_lawful.commit_touches d s _ _ _ _ _)).sameShutdown
  | tick _ kept => exact kept.sameShutdown.trans (expiry_requestsOnly d _ _).sameShutdown

variable {e : Effect D}

theorem Env.StaysOpen.fromDriver (calm : env.StaysOpen) (emitted : env.FromDriver e) : e.closes = false := by
  cases patched : e.patched with
  | false => exact calm e (emitted.emits patched)
  | true => cases e <;> first | rfl | cases patched

theorem Origin.closes (calm : env.StaysOpen) (other : ev.asksShutdown = false) {g : Graph}
    (origin : Origin env d s ev g e) : e.closes = false := by
  cases origin with
  | ordinary ordinary =>
    rcases ordinary with plain | emitted | ⟨client, addressed, _⟩
    · cases e <;> first | rfl | cases plain
    · exact calm.fromDriver emitted
    · cases e <;> first | rfl | cases addressed
  | request settles => cases e <;> first | rfl | cases settles
  | teardown _ torn => obtain ⟨fid, _, rfl | rfl | rfl | rfl⟩ := mem_teardownOf torn <;> rfl
  | spawnNew _ | spawnAsked _ _ _ | spawnDriver _ _ _ | registered _ | crashed _ => rfl
  | shutdown asked =>
    subst asked
    cases other

theorem Served.closes (served : Served s ev s' effs) : ∀ e ∈ effs, e.closes = false := by
  intro e mem
  rcases served.effects e mem with traffic | ⟨client, addressed, _⟩
  · cases e <;> first | rfl | cases traffic
  · cases e <;> first | rfl | cases addressed

theorem Step.sameShutdown (step : Step env s (ev, effs) s') (request : ev.asksShutdown = false)
    (report : ev.reportsOn = none) : SameShutdown s s' := by
  rcases Step.cases step with ⟨_, d, _, action⟩ | ⟨_, admitted⟩
  · exact action.sameShutdown request
  cases admitted with
  | served _ served => exact served.sameShutdown
  | refuse => exact ⟨rfl, rfl, rfl⟩
  | join asked =>
    subst asked
    cases request
  | saved asked | saveFailed asked | cleaned asked =>
    subst asked
    cases report

theorem Step.stays_open (calm : env.StaysOpen) (step : Step env s (ev, effs) s')
    (request : ev.asksShutdown = false) (report : ev.reportsOn = none) : ∀ e ∈ effs, e.closes = false := by
  rcases Step.cases step with ⟨_, d, _, action⟩ | ⟨_, admitted⟩
  · exact fun e mem => (action.origin mem).closes calm request
  cases admitted with
  | served _ served => exact served.closes
  | refuse => exact forall_mem_singleton.mpr rfl
  | join asked =>
    subst asked
    cases request
  | saved asked | saveFailed asked | cleaned asked =>
    subst asked
    cases report

/-! ## The moves -/

theorem shutdownEntry_rest (request : ev.asksShutdown = false)
    (open_ : ∀ e ∈ effs, e.closes = false) (none_concluded : ev.concludes = none) :
    shutdownEntry (ev, effs) = {} := by
  have asked : ev.waiter = [] := by
    unfold Event.waiter
    split
    · cases request
    · rfl
  have opens : effs.filterMap Effect.commits = [] := by
    refine filterMap_eq_nil_iff.mpr ?_
    intro e mem
    have stays := open_ e mem
    cases e <;> first | rfl | cases stays
  have ends : effs.countP Effect.terminates = 0 := by
    refine countP_eq_zero.mpr ?_
    intro e mem
    have stays := open_ e mem
    cases e <;> first | exact Bool.false_ne_true | cases stays
  have answered : (if ev.concludes.isSome then effs.filterMap Effect.waiter else []) = [] := by simp [none_concluded]
  simp only [shutdownEntry, asked, opens, ends, answered]

variable {id : Nat} {tx : ShutdownTransaction}

theorem currentShutdown_eq_some : currentShutdown s id = some tx ↔
      s.lifecycle = .quiescing ∧ s.shutdown = some tx ∧ tx.id = id := by
  unfold currentShutdown
  split
  · rename_i quiescing
    rw [Option.filter_eq_some_iff, beq_iff_eq]
    exact ⟨fun both => ⟨quiescing, both⟩, fun all => all.2⟩
  rename_i running
  constructor
  · rintro ⟨⟩
  · rintro ⟨quiescing, _⟩
    exact absurd quiescing running

theorem State.book_running (running : s.lifecycle = .running) : s.book = ⟨s.nextShutdownID, .working⟩ := by
  simp [running]

theorem State.book_closing (quiescing : s.lifecycle = .quiescing) (open_ : s.shutdown = some tx) :
    s.book = ⟨s.nextShutdownID, .closing tx.id tx.waiters⟩ := by simp [quiescing, open_]

theorem State.book_closed (quiescing : s.lifecycle = .quiescing) (gone : s.shutdown = none) :
    s.book = ⟨s.nextShutdownID, .closed⟩ := by simp [quiescing, gone]

theorem reduceShutdown_move (connID : ConnID) (reqID : String) : Closing.Move s.book
      (shutdownEntry (.event connID reqID (.shutdown (.ok ())), (reduceShutdown s connID reqID).2))
      (reduceShutdown s connID reqID).1.book := by
  unfold reduceShutdown
  cases phase : s.lifecycle with
  | running =>
    rw [book_running phase]
    exact .start _ _
  | quiescing =>
    cases current : s.shutdown with
    | none =>
      rw [book_closed phase current]
      exact .ignore _ _
    | some =>
      rw [book_closing phase current]
      exact .join _ _ _ _

theorem shutdownEntry_conclusion (concludes : ev.concludes = some id)
    (waiters : List ShutdownWaiter) {answer : ShutdownWaiter → Effect D}
    (addressed : ∀ w, (answer w).waiter = some w) {rest : List (Effect D)}
    (closing : ∀ e ∈ rest, e.waiter = none ∧ e.commits = none) : shutdownEntry (ev, waiters.map answer ++ rest) =
      { ends := rest.countP Effect.terminates, answered := waiters } := by
  have reply : ∀ w, (answer w).commits = none ∧ (answer w).terminates = false := by
    intro w
    have client := addressed w
    generalize answer w = e at client
    cases e <;> first | exact ⟨rfl, rfl⟩ | cases client
  have asked : ev.waiter = [] := by
    unfold Event.waiter
    split
    · cases concludes
    · rfl
  have opens : (waiters.map answer ++ rest).filterMap Effect.commits = [] := by
    refine filterMap_eq_nil_iff.mpr (forall_mem_append.mpr ⟨?_, ?_⟩)
    · intro e mem
      obtain ⟨w, _, rfl⟩ := mem_map.mp mem
      exact (reply w).1
    · exact fun e mem => (closing e mem).2
  have ends : (waiters.map answer ++ rest).countP Effect.terminates = rest.countP Effect.terminates := by
    rw [countP_append, countP_map, countP_eq_zero.mpr, Nat.zero_add]
    intro w _
    simp [(reply w).2]
  have answered : (waiters.map answer ++ rest).filterMap Effect.waiter = waiters := by
    rw [filterMap_append, filterMap_map, filterMap_eq_nil_iff.mpr fun e mem => (closing e mem).1, append_nil]
    exact (filterMap_congr fun w _ => addressed w).trans filterMap_some
  simp only [shutdownEntry, asked, opens, ends, answered, concludes, Option.isSome_some, if_true]

theorem reduceShutdownSaveSucceeded_move (id : Nat) : Closing.Move s.book
      (shutdownEntry (.shutdownSaveBarrierSucceeded id, (reduceShutdownSaveSucceeded s id).2))
      (reduceShutdownSaveSucceeded s id).1.book := by
  unfold reduceShutdownSaveSucceeded
  split <;> exact .rest _

theorem reduceShutdownSaveFailed_move (id : Nat) (err : String) : Closing.Move s.book
      (shutdownEntry (.shutdownSaveBarrierFailed id err, (reduceShutdownSaveFailed s id err).2))
      (reduceShutdownSaveFailed s id err).1.book := by
  unfold reduceShutdownSaveFailed
  cases current : currentShutdown s id with
  | none => exact .rest _
  | some tx =>
    obtain ⟨quiescing, open_, _⟩ := currentShutdown_eq_some.mp current
    rw [book_closing quiescing open_, shutdownEntry_conclusion rfl tx.waiters
      (fun _ => rfl) (forall_mem_singleton.mpr ⟨rfl, rfl⟩)]
    exact .fail _ _ _

theorem reduceShutdownCleanupFinished_move (id : Nat) (outcome : ShutdownCleanupOutcome) : Closing.Move s.book
      (shutdownEntry (.shutdownCleanupFinished id outcome, (reduceShutdownCleanupFinished s id outcome).2))
      (reduceShutdownCleanupFinished s id outcome).1.book := by
  unfold reduceShutdownCleanupFinished
  cases current : currentShutdown s id with
  | none => exact .rest _
  | some tx =>
    obtain ⟨quiescing, open_, _⟩ := currentShutdown_eq_some.mp current
    rw [book_closing quiescing open_, shutdownEntry_conclusion rfl tx.waiters (fun w => by cases outcome <;> rfl)
      (forall_mem_cons.mpr ⟨⟨rfl, rfl⟩, forall_mem_singleton.mpr ⟨rfl, rfl⟩⟩),
      book_closed (s := { s with shutdown := none }) quiescing rfl]
    exact .finish _ _ _

theorem reduce_shutdown (env : Env D) (d : Draw) (s : State D) :
    (∀ connID reqID, reduce env d s (.event connID reqID (.shutdown (.ok ()))) =
      .ok (reduceShutdown s connID reqID)) ∧
    (∀ id, reduce env d s (.shutdownSaveBarrierSucceeded id) = .ok (reduceShutdownSaveSucceeded s id)) ∧
    (∀ id err, reduce env d s (.shutdownSaveBarrierFailed id err) = .ok (reduceShutdownSaveFailed s id err)) ∧
    ∀ id outcome, reduce env d s (.shutdownCleanupFinished id outcome) =
      .ok (reduceShutdownCleanupFinished s id outcome) := by
  unfold reduce
  cases s.lifecycle with
  | running | quiescing => exact ⟨fun _ _ => rfl, fun _ => rfl, fun _ _ => rfl, fun _ _ => rfl⟩

theorem Step.shutdown_cases (step : Step env s (ev, effs) s') :
    (∃ connID reqID, ev = .event connID reqID (.shutdown (.ok ())) ∧
      s' = (reduceShutdown s connID reqID).1 ∧ effs = (reduceShutdown s connID reqID).2) ∨
    (∃ id, ev = .shutdownSaveBarrierSucceeded id ∧
      s' = (reduceShutdownSaveSucceeded s id).1 ∧ effs = (reduceShutdownSaveSucceeded s id).2) ∨
    (∃ id err, ev = .shutdownSaveBarrierFailed id err ∧
      s' = (reduceShutdownSaveFailed s id err).1 ∧ effs = (reduceShutdownSaveFailed s id err).2) ∨
    (∃ id outcome, ev = .shutdownCleanupFinished id outcome ∧ s' = (reduceShutdownCleanupFinished s id outcome).1 ∧
      effs = (reduceShutdownCleanupFinished s id outcome).2) ∨ (ev.asksShutdown = false ∧ ev.reportsOn = none) := by
  obtain ⟨d, _, reduced⟩ := step
  obtain ⟨request, saved, failed, cleaned⟩ := reduce_shutdown env d s
  have returned : ∀ {r}, reduce env d s ev = .ok r → s' = r.1 ∧ effs = r.2 := by
    intro r same
    cases same.symm.trans reduced
    exact ⟨rfl, rfl⟩
  cases asks : ev.asksShutdown with
  | true =>
    unfold Event.asksShutdown at asks
    split at asks
    · exact .inl ⟨_, _, rfl, returned (request _ _)⟩
    · cases asks
  | false =>
    cases reports : ev.reportsOn with
    | none => exact .inr (.inr (.inr (.inr ⟨rfl, rfl⟩)))
    | some =>
      unfold Event.reportsOn at reports
      split at reports
      · exact .inr (.inl ⟨_, rfl, returned (saved _)⟩)
      · exact .inr (.inr (.inl ⟨_, _, rfl, returned (failed _ _)⟩))
      · exact .inr (.inr (.inr (.inl ⟨_, _, rfl, returned (cleaned _ _)⟩)))
      · cases reports

theorem Step.move (calm : env.StaysOpen) (step : Step env s (ev, effs) s') :
    Closing.Move s.book (shutdownEntry (ev, effs)) s'.book := by
  rcases step.shutdown_cases with ⟨connID, reqID, rfl, rfl, rfl⟩ | ⟨id, rfl, rfl, rfl⟩ |
    ⟨id, err, rfl, rfl, rfl⟩ | ⟨id, outcome, rfl, rfl, rfl⟩ | ⟨request, report⟩
  · exact reduceShutdown_move connID reqID
  · exact reduceShutdownSaveSucceeded_move id
  · exact reduceShutdownSaveFailed_move id err
  · exact reduceShutdownCleanupFinished_move id outcome
  have same := step.sameShutdown request report
  have stays := step.stays_open calm request report
  have concludes : ev.concludes = none := by
    unfold Event.concludes
    split
    · cases report
    · cases report
    · rfl
  rw [shutdownEntry_rest request stays concludes, same.book]
  exact .rest _

/-! ## Where the steps of a shutdown come from -/

theorem Step.releaseFrames (calm : env.StaysOpen) (step : Step env s (ev, effs) s') (mem : .releaseFrames id ∈ effs) :
    ev = .shutdownSaveBarrierSucceeded id ∧ (currentShutdown s id).isSome = true := by
  rcases step.shutdown_cases with ⟨connID, reqID, rfl, rfl, rfl⟩ | ⟨id', rfl, rfl, rfl⟩ |
    ⟨id', err, rfl, rfl, rfl⟩ | ⟨id', outcome, rfl, rfl, rfl⟩ | ⟨request, report⟩
  · cases mem_reduceShutdown mem
  · obtain ⟨same, current⟩ := mem_reduceShutdownSaveSucceeded mem
    cases same
    exact ⟨rfl, current⟩
  · rcases mem_reduceShutdownSaveFailed mem with ⟨_, _, _, _, answers⟩ | same
    · cases answers
    · cases same
  · rcases mem_reduceShutdownCleanupFinished mem with ⟨_, _, _, _, answers⟩ | ⟨_, same⟩ | ⟨same, _⟩
    · cases answers
    · cases same
    · cases same
  · cases step.stays_open calm request report _ mem

theorem Step.terminateRuntime (calm : env.StaysOpen) (step : Step env s (ev, effs) s')
    (mem : .terminateRuntime ∈ effs) :
    ∃ id outcome, ev = .shutdownCleanupFinished id outcome ∧ (currentShutdown s id).isSome = true := by
  rcases step.shutdown_cases with ⟨connID, reqID, rfl, rfl, rfl⟩ | ⟨id, rfl, rfl, rfl⟩ |
    ⟨id, err, rfl, rfl, rfl⟩ | ⟨id, outcome, rfl, rfl, rfl⟩ | ⟨request, report⟩
  · cases mem_reduceShutdown mem
  · cases (mem_reduceShutdownSaveSucceeded mem).1
  · rcases mem_reduceShutdownSaveFailed mem with ⟨_, _, _, _, answers⟩ | same
    · cases answers
    · cases same
  · rcases mem_reduceShutdownCleanupFinished mem with ⟨_, _, _, _, answers⟩ | ⟨_, same⟩ | ⟨_, current⟩
    · cases answers
    · cases same
    · exact ⟨id, outcome, rfl, current⟩
  · cases step.stays_open calm request report _ mem

theorem Step.stale (step : Step env s (ev, effs) s') (reports : ev.reportsOn = some id)
    (stale : currentShutdown s id = none) : s' = s ∧ effs = [] := by
  rcases step.shutdown_cases with ⟨connID, reqID, rfl, rfl, rfl⟩ | ⟨id', rfl, rfl, rfl⟩ |
    ⟨id', err, rfl, rfl, rfl⟩ | ⟨id', outcome, rfl, rfl, rfl⟩ | ⟨_, report⟩
  · cases reports
  · cases reports
    simp [reduceShutdownSaveSucceeded_stale stale]
  · cases reports
    simp [reduceShutdownSaveFailed_stale stale]
  · cases reports
    simp [reduceShutdownCleanupFinished_stale stale]
  · cases report.symm.trans reports

theorem Step.concluded (step : Step env s (ev, effs) s') (concludes : ev.concludes = some id)
    (current : currentShutdown s id = some tx) : s'.shutdown = none ∧ effs.filterMap Effect.waiter = tx.waiters := by
  have answered : ∀ {answer} {rest : List (Effect D)},
      (∀ w, (answer w).waiter = some w) → (∀ e ∈ rest, e.waiter = none ∧ e.commits = none) →
      (tx.waiters.map answer ++ rest).filterMap Effect.waiter = tx.waiters := by
    intro answer rest addressed closing
    have entry := congrArg Closing.Entry.answered (shutdownEntry_conclusion concludes tx.waiters addressed closing)
    simpa [shutdownEntry, concludes] using entry
  rcases step.shutdown_cases with ⟨connID, reqID, rfl, rfl, rfl⟩ | ⟨id', rfl, rfl, rfl⟩ |
    ⟨id', err, rfl, rfl, rfl⟩ | ⟨id', outcome, rfl, rfl, rfl⟩ | ⟨_, report⟩
  · cases concludes
  · cases concludes
  · cases concludes
    rw [reduceShutdownSaveFailed, current]
    exact ⟨rfl, answered (fun _ => rfl) (forall_mem_singleton.mpr ⟨rfl, rfl⟩)⟩
  · cases concludes
    unfold reduceShutdownCleanupFinished
    rw [current]
    refine ⟨rfl, answered (fun w => by cases outcome <;> rfl) ?_⟩
    exact forall_mem_cons.mpr ⟨⟨rfl, rfl⟩, forall_mem_singleton.mpr ⟨rfl, rfl⟩⟩
  unfold Event.concludes at concludes
  split at concludes
  · cases report
  · cases report
  · cases concludes

/-! ## The daemon at rest -/

/-- The effects the quiescing daemon must not emit. -/
def Effect.forbidden : Effect D → Bool
  | .persistSnapshot | .spawnFrame .. | .killFrame _ | .releaseFrame _ => true
  | _ => false

/-- The sessions and all that goes on in them stand still. -/
structure StandsStill (s : State D) (effs : List (Effect D)) (s' : State D) : Prop where
  sessions : s'.sessions = s.sessions
  jobs : s'.jobs = s.jobs
  pendingApprovals : s'.pendingApprovals = s.pendingApprovals
  pendingQuestions : s'.pendingQuestions = s.pendingQuestions
  creationIntents : s'.creationIntents = s.creationIntents
  repositoryPreparations : s'.repositoryPreparations = s.repositoryPreparations
  capsuleGenerating : s'.capsuleGenerating = s.capsuleGenerating
  effects : ∀ e ∈ effs, e.forbidden = false

theorem Admitted.standsStill (admitted : Admitted s ev s' effs) : StandsStill s effs s' := by
  have allowed : ∀ e ∈ effs, e.forbidden = false := by
    intro e mem
    rcases admitted.origin mem with traffic | addressed | closes
    · cases e <;> first | rfl | cases traffic
    · cases e <;> first | rfl | cases addressed
    · cases e <;> first | rfl | cases closes
  have frozen := admitted.frozen
  rw [frozen]
  exact ⟨rfl, rfl, rfl, rfl, rfl, rfl, rfl, allowed⟩

/-! ## The shutdown as a whole -/

structure ShutdownStep (s : State D) (ev : Event D) (effs : List (Effect D)) (s' : State D) :
    Prop where
  released : ∀ id, .releaseFrames id ∈ effs →
    ev = .shutdownSaveBarrierSucceeded id ∧ (currentShutdown s id).isSome = true
  terminated : .terminateRuntime ∈ effs → ∃ id outcome, ev = .shutdownCleanupFinished id outcome ∧
      (currentShutdown s id).isSome = true
  stale : ∀ id, ev.reportsOn = some id → currentShutdown s id = none → s' = s ∧ effs = []
  concluded : ∀ id tx, ev.concludes = some id → currentShutdown s id = some tx →
    s'.shutdown = none ∧ effs.filterMap Effect.waiter = tx.waiters
  atRest : s.lifecycle = .quiescing → StandsStill s effs s'

theorem Step.shutdownStep (calm : env.StaysOpen) (step : Step env s (ev, effs) s') : ShutdownStep s ev effs s' := by
  refine ⟨fun id => step.releaseFrames calm, step.terminateRuntime calm, fun id => step.stale,
    fun id tx => step.concluded, ?_⟩
  intro quiescing
  rcases Step.cases step with ⟨running, _⟩ | ⟨_, admitted⟩
  · cases quiescing.symm.trans running
  · exact admitted.standsStill

/-- Over every run the numbers of the transactions increase, the runtime is terminated at most once
and the daemon quiesces ever after, and every client that asked for a shutdown in time has been
answered by the end of the transaction or still waits for it; and every step does about the
shutdown only what it may. -/
theorem shutdown_transaction_safe (calm : env.StaysOpen) {cfg : Config}
    {labels : List (Event D × List (Effect D))} (run : HostRun env cfg labels s) :
    (labels.flatMap fun label => label.2.filterMap Effect.commits).Pairwise (· < ·) ∧
    (labels.map fun label => label.2.countP Effect.terminates).sum ≤ 1 ∧
    ((∃ label ∈ labels, .terminateRuntime ∈ label.2) → s.lifecycle = .quiescing) ∧
    (∀ w, ((labels.map shutdownEntry).flatMap Closing.Entry.answered).count w +
      s.book.phase.waiters.count w = (Closing.askedInTime (labels.map shutdownEntry)).count w) ∧
    ∀ ev effs s', Step env s (ev, effs) s' → ShutdownStep s ev effs s' := by
  have book := Run.simulate State.book shutdownEntry (fun _ _ _ step => Step.move calm step) run
  have ends := Closing.ends_eq book
  rw [map_map] at ends
  refine ⟨?_, ?_, ?_, Closing.answered_or_waiting book, fun ev effs s' => Step.shutdownStep calm⟩
  · have increasing := (Closing.opens_increasing book).1
    rwa [flatMap_map] at increasing
  · exact le_of_eq_of_le ends (Bool.toNat_le _)
  · rintro ⟨label, inRun, terminates⟩
    have counted : 0 < label.2.countP Effect.terminates := countP_pos_iff.mpr ⟨_, terminates, rfl⟩
    have ended : 0 < (labels.map (Closing.Entry.ends ∘ shutdownEntry)).sum :=
      List.sum_pos_iff_exists_pos_nat.mpr ⟨_, mem_map_of_mem inRun, counted⟩
    rw [ends] at ended
    cases phase : s.lifecycle with
    | quiescing => rfl
    | running =>
      rw [book_running phase] at ended
      cases ended

/-- A shutdown whose first attempt could not be saved. -/
theorem retried_shutdown_is_safe : ∃ (labels : List (Event Unit × List (Effect Unit))) (s : State Unit),
      HostRun Env.inert {} labels s ∧ (labels.flatMap fun label => label.2.filterMap Effect.commits) = [1, 2] ∧
      (labels.flatMap fun label => label.2.filterMap Effect.commits).Pairwise (· < ·) ∧
      (labels.map fun label => label.2.countP Effect.terminates).sum ≤ 1 ∧ s.lifecycle = .quiescing ∧
      ∀ w, ((labels.map shutdownEntry).flatMap Closing.Entry.answered).count w +
        s.book.phase.waiters.count w = (Closing.askedInTime (labels.map shutdownEntry)).count w := by
  have run := replay_hostRun Env.inert {}
    [('a', .event 1 "q" (.shutdown (.ok ()))), ('b', .event 2 "r" (.shutdown (.ok ()))),
      ('c', .shutdownSaveBarrierFailed 1 "disk full"), ('d', .event 1 "s" (.shutdown (.ok ()))),
      ('e', .shutdownSaveBarrierSucceeded 2), ('f', .shutdownCleanupFinished 2 .completed)] rfl
  obtain ⟨increasing, once, after, answered, _⟩ := shutdown_transaction_safe Env.inert_staysOpen run
  refine ⟨_, _, run, rfl, increasing, once, after ?_, answered⟩
  exact ⟨_, getLast_mem (cons_ne_nil _ _), getLast_mem (cons_ne_nil _ _)⟩

end AgentGrid.Host
