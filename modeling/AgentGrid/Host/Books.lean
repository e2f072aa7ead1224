import AgentGrid.Host.Steps

/-!
# The books on the side

Besides the session graph and the requests the daemon keeps three books: the surface
subscriptions of its clients, the repository preparations, and the roster of jobs of
the workers.  Few reducers write into each.  Here every step is sorted by what it
writes; drivers may register jobs in almost any step, so the roster is followed job by
job.
-/

namespace AgentGrid.Host

open AgentGrid.Lib List Go Effect

variable {D : Type}

/-! ## Vocabulary -/

/-- The effect starts or stops the relay of a surface. -/
def Effect.relays : Effect D → Bool
  | .surfaceSubscribeStart .. | .surfaceSubscribeStop .. => true
  | _ => false

def Effect.job : Effect D → Option (JobID × JobInput D)
  | .startJob id input => some (id, input)
  | _ => none

def Effect.unbooked (e : Effect D) : Bool := !e.relays && e.job.isNone

/-- The jobs a list of effects hands to the workers, in order. -/
def startedJobs (effs : List (Effect D)) : List (JobID × JobInput D) := effs.filterMap Effect.job

/-- The jobs the reducer waits for, and the sessions it waits for a capsule of. -/
structure Roster where
  jobs : GoMap JobID JobMeta
  nextJobID : JobID
  capsules : GoMap SessionID String

def State.roster (s : State D) : Roster := ⟨s.jobs, s.nextJobID, s.capsuleGenerating⟩

def Roster.register (r : Roster) (job : JobMeta) : Roster :=
  { r with jobs := r.jobs.set (r.nextJobID + 1) job, nextJobID := r.nextJobID + 1 }

/-- Jobs are registered one by one, each under the next id: a driver's for its frame, or a capsule
for a session that is not waiting for one. -/
inductive Hired (env : Env D) : Roster → List (JobID × JobInput D) → Roster → Prop where
  | nothing {r : Roster} : Hired env r [] r
  | driver {r r' : Roster} {job : JobMeta} {id : JobID} {input : JobInput D}
      {jobs : List (JobID × JobInput D)} (emitted : env.Emits (.startJob id input))
      (rest : Hired env (r.register job) jobs r') : Hired env r ((r.nextJobID + 1, input) :: jobs) r'
  | capsule {r r' : Roster} {input : CapsuleJobInput} {fid : FrameID} {now : Time}
      {jobs : List (JobID × JobInput D)} (idle : r.capsules.get? input.sessionID = none)
      (rest : Hired env
        { r.register ⟨input.sessionID, fid, now⟩ with
          capsules := r.capsules.set input.sessionID input.sourceDigest } jobs r') :
      Hired env r ((r.nextJobID + 1, .capsule input) :: jobs) r'

structure Books where
  surfaces : GoMap ConnID (GoMap SurfaceSubscription SurfaceGeometry)
  preparations : GoMap PreparationID RepositoryPreparation
  intents : GoMap CreationIntentID CreationIntent
  roster : Roster

def State.books (s : State D) : Books :=
  ⟨s.surfaceSubs, s.repositoryPreparations, s.creationIntents, s.roster⟩

/-- The surfaces and the preparations are left alone, and the jobs that are registered are those
the effects hand out. -/
structure Booked (env : Env D) (s : State D) (effs : List (Effect D)) (s' : State D) : Prop where
  surfaces : s'.surfaceSubs = s.surfaceSubs
  preparations : s'.repositoryPreparations = s.repositoryPreparations
  intents : s'.creationIntents = s.creationIntents
  hired : Hired env s.roster (startedJobs effs) s'.roster
  relays : ∀ e ∈ effs, e.relays = true → env.Emits e

abbrev BookedBy (env : Env D) (s : State D) (r : Reduced D) : Prop := Booked env s r.2 r.1

variable {env : Env D} {d : Draw} {s s' t u : State D} {ev : Event D}
  {effs more : List (Effect D)}

theorem startedJobs_append (effs more : List (Effect D)) :
    startedJobs (effs ++ more) = startedJobs effs ++ startedJobs more :=
  filterMap_append

theorem Hired.trans {r r' r'' : Roster} {jobs later : List (JobID × JobInput D)}
    (first : Hired env r jobs r') (second : Hired env r' later r'') : Hired env r (jobs ++ later) r'' := by
  induction first with
  | nothing => exact second
  | driver emitted _ ih => exact .driver emitted (ih second)
  | capsule idle _ ih => exact .capsule idle (ih second)

theorem Effect.unbooked_iff {e : Effect D} : e.unbooked = true ↔ e.relays = false ∧ e.job = none := by
  simp [Effect.unbooked]

theorem startedJobs_of_unbooked (quiet : ∀ e ∈ effs, e.unbooked = true) : startedJobs effs = [] :=
  filterMap_eq_nil_iff.mpr fun e mem => (unbooked_iff.mp (quiet e mem)).2

theorem unbooked_of_all (quiet : effs.all Effect.unbooked = true) : ∀ e ∈ effs, e.unbooked = true :=
  all_eq_true.mp quiet

theorem unbooked_of_settles (settling : ∀ e ∈ effs, e.settles = true) : ∀ e ∈ effs, e.unbooked = true := by
  intro e mem
  have settles := settling e mem
  cases e <;> first | rfl | cases settles

theorem unbooked_append (first : ∀ e ∈ effs, e.unbooked = true)
    (second : ∀ e ∈ more, e.unbooked = true) : ∀ e ∈ effs ++ more, e.unbooked = true := by
  intro e mem
  exact (mem_append.mp mem).elim (first e) (second e)

namespace Booked

theorem quiet (same : s'.books = s.books) (quiet : ∀ e ∈ effs, e.unbooked = true) : Booked env s effs s' := by
  obtain ⟨surfaces, preparations, intents, roster⟩ := Books.mk.inj same
  refine ⟨surfaces, preparations, intents, ?_, ?_⟩
  · rw [startedJobs_of_unbooked quiet, roster]
    exact .nothing
  · intro e mem relays
    rw [(unbooked_iff.mp (quiet e mem)).1] at relays
    cases relays

theorem still (same : s'.books = s.books) (each : effs.all Effect.unbooked = true) : Booked env s effs s' :=
  .quiet same (unbooked_of_all each)

theorem trans (first : Booked env s effs t) (second : Booked env t more u) : Booked env s (effs ++ more) u := by
  refine ⟨second.surfaces.trans first.surfaces, second.preparations.trans first.preparations,
    second.intents.trans first.intents, ?_, ?_⟩
  · rw [startedJobs_append]
    exact first.hired.trans second.hired
  · intro e mem relays
    rcases mem_append.mp mem with early | late
    · exact first.relays e early relays
    · exact second.relays e late relays

theorem widen {all : List (Effect D)} (booked : Booked env s effs s') (jobs : startedJobs all = startedJobs effs)
    (within : ∀ e ∈ all, e ∈ effs ∨ e.unbooked = true) : Booked env s all s' := by
  refine ⟨booked.surfaces, booked.preparations, booked.intents, ?_, ?_⟩
  · rw [jobs]
    exact booked.hired
  · intro e mem relays
    rcases within e mem with held | unbooked
    · exact booked.relays e held relays
    · rw [(unbooked_iff.mp unbooked).1] at relays
      cases relays

theorem followed (booked : Booked env s effs t) (same : u.books = t.books)
    (quiet : ∀ e ∈ more, e.unbooked = true) : Booked env s (effs ++ more) u :=
  booked.trans (.quiet same quiet)

theorem moved (booked : Booked env s effs t) (same : u.books = t.books) : Booked env s effs u := by
  have both := booked.trans (show Booked env t [] u from .still same rfl)
  rwa [append_nil] at both

theorem preceded (same : t.books = s.books) (booked : Booked env t effs u) : Booked env s effs u :=
  Booked.trans (show Booked env s [] t from .still same rfl) booked

theorem refl (s : State D) : Booked env s [] s := .still rfl rfl

end Booked

/-! ## Running a driver -/

variable {sid : SessionID} {fid : FrameID}

theorem postProcessEffect_booked {raw : Effect D} (emitted : env.Emits raw) :
    Booked env s [(postProcessEffect s sid fid raw).1] (postProcessEffect s sid fid raw).2 := by
  cases raw with
  | startJob => exact ⟨rfl, rfl, rfl, .driver emitted .nothing, by simp [Effect.relays]⟩
  | surfaceSubscribeStart | surfaceSubscribeStop => exact ⟨rfl, rfl, rfl, .nothing, by simpa using fun _ => emitted⟩
  | _ => exact .still rfl rfl

variable {raws : List (Effect D)}

theorem postProcessEffects_booked (emitted : ∀ raw ∈ raws, env.Emits raw)
    (posted : postProcessEffects sid fid s raws = (s', effs)) : Booked env s effs s' := by
  induction raws generalizing s effs with
  | nil =>
    cases posted
    exact .refl _
  | cons raw rest ih =>
    cases posted
    exact Booked.trans (postProcessEffect_booked (emitted raw mem_cons_self))
      (ih (fun r mem => emitted r (mem_cons_of_mem _ mem)) rfl)

theorem postProcessEffects_jobless (jobless : startedJobs raws = [])
    (posted : postProcessEffects sid fid s raws = (s', effs)) : startedJobs effs = [] := by
  induction raws generalizing s effs with
  | nil =>
    cases posted
    rfl
  | cons raw rest ih =>
    cases posted
    cases raw with
    | startJob => cases jobless
    | _ =>
      show startedJobs (postProcessEffects sid fid s rest).2 = []
      exact ih jobless rfl

variable {sess : Session D} {i : Nat} {frame : SessionFrame D}
  {result : DriverState D × List (Effect D)}

theorem storeDriverStep_posts (stored : storeDriverStep s sid fid sess i frame result = .ok (s', effs)) :
    ∃ sessions, postProcessEffects sid fid { s with sessions := sessions } result.2 = (s', effs) := by
  obtain ⟨frames, _, posted⟩ := bind_eq_ok.mp stored
  exact ⟨_, Except.ok.inj posted⟩

theorem storeDriverStep_booked (emitted : ∀ raw ∈ result.2, env.Emits raw)
    (stored : storeDriverStep s sid fid sess i frame result = .ok (s', effs)) : Booked env s effs s' := by
  obtain ⟨sessions, posted⟩ := storeDriverStep_posts stored
  exact .preceded (t := { s with sessions := sessions }) rfl (postProcessEffects_booked emitted posted)

variable {dev : DriverEvent D}

theorem stepDriver_booked (stepped : stepDriver env d s fid dev = .ok (some (s', effs))) : Booked env s effs s' := by
  obtain ⟨_, _, _, _, drv, _, _, _, _, driver, stored⟩ := stepDriver_runs stepped
  exact storeDriverStep_booked (fun raw mem => Env.Emits.step driver mem) stored

variable {r : Option (Reduced D)}

theorem stepDriver_getD_booked (stepped : stepDriver env d s fid dev = .ok r) : BookedBy env s (r.getD (s, [])) := by
  cases r with
  | none => exact .refl s
  | some => exact stepDriver_booked stepped

theorem bootstrapDriverSessionStart_booked (booted : bootstrapDriverSessionStart env d s fid = .ok r) :
    BookedBy env s (r.getD (s, [])) := by
  cases r with
  | none => exact .refl s
  | some =>
    revert booted
    fun_cases bootstrapDriverSessionStart env d s fid <;> intro booted <;> try cases booted
    obtain ⟨frame, _, rest⟩ := bind_eq_ok.mp booted
    split at rest
    · cases rest
    rename_i driver
    split at rest
    · cases rest
    rename_i boot
    obtain ⟨pair', stored, returned⟩ := bind_eq_ok.mp rest
    cases returned
    exact storeDriverStep_booked (fun raw mem => Env.Emits.bootstrap driver boot mem) stored

theorem Pushed.unbooked {k : Nat} {g g' : Graph} {pushed : List (Effect D)} (resolved : Pushed d k g raws g' pushed) :
    startedJobs pushed = startedJobs raws ∧ ∀ e ∈ pushed, e ∈ raws ∨ e.unbooked = true := by
  induction resolved with
  | nil => exact ⟨rfl, by simp⟩
  | @pass _ _ _ e raws effs _ ih =>
    constructor
    · rw [startedJobs, startedJobs, filterMap_cons, filterMap_cons, ← startedJobs, ← startedJobs, ih.1]
    · intro x mem
      rcases mem_cons.mp mem with rfl | later
      · exact .inl mem_cons_self
      · exact (ih.2 x later).imp (mem_cons_of_mem _) id
  | skip _ ih => exact ⟨ih.1, fun x mem => (ih.2 x mem).imp (mem_cons_of_mem _) id⟩
  | push _ _ ih =>
    refine ⟨ih.1, ?_⟩
    intro x mem
    rcases mem_cons.mp mem with rfl | later
    · exact .inr rfl
    · exact (ih.2 x later).imp (mem_cons_of_mem _) id

theorem resolvePush_booked (booked : Booked env s raws t) :
    BookedBy env s (resolvePushDriverEffects env d 0 t raws) := by
  cases resolved : resolvePushDriverEffects env d 0 t raws with
  | mk after =>
    obtain ⟨rest, graph⟩ := resolvePushDriverEffects_spec resolved
    have same : after.books = t.books := by
      rw [rest]
      rfl
    exact (booked.moved same).widen graph.unbooked.1 graph.unbooked.2

variable {makeEv : Nat → Session D → Bool → DriverEvent D} {scan : ActiveScan D}

theorem stepActiveSession_booked {scan' : ActiveScan D} (before : Booked env s scan.effects scan.state)
    (passed : stepActiveSession env d makeEv scan sid = .ok scan') : Booked env s scan'.effects scan'.state := by
  revert passed
  fun_cases stepActiveSession env d makeEv scan sid <;> intro passed
  case case4 =>
    obtain ⟨r, stepped, rest⟩ := bind_eq_ok.mp passed
    cases r with
    | none =>
      cases rest
      exact before
    | some =>
      cases rest
      exact before.trans (stepDriver_booked stepped)
  all_goals
    cases passed
    exact before

theorem stepActiveSessions_booked (scanned : stepActiveSessions env d s makeEv = .ok scan) :
    Booked env s scan.effects scan.state :=
  foldlM_invariant (fun _ _ _ before passed => stepActiveSession_booked before passed) (.refl s) scanned

/-! ## Capsules -/

theorem maybeEnqueueOneCapsule_booked {next : State D} {eff : Effect D}
    (enqueued : maybeEnqueueOneCapsule env s sid sess = some (next, eff)) : Booked env s [eff] next := by
  revert enqueued
  fun_cases maybeEnqueueOneCapsule env s sid sess <;> rintro ⟨⟩
  rename_i idle _ _ _ _ _ _ _ _ _ _ _
  refine ⟨rfl, rfl, rfl, .capsule ?_ .nothing, forall_mem_singleton.mpr Bool.noConfusion⟩
  exact Option.not_isSome_iff_eq_none.mp idle

theorem enqueueCapsules_booked (tickN : UInt64) (l : List (SessionID × Session D)) (s : State D) :
    BookedBy env s (enqueueCapsules env tickN s l) := by
  induction l generalizing s with
  | nil => exact .refl s
  | cons entry rest ih =>
    obtain ⟨sid, sess⟩ := entry
    unfold enqueueCapsules
    split
    · cases enqueued : maybeEnqueueOneCapsule env s sid sess with
      | none => exact ih s
      | some pair => exact (maybeEnqueueOneCapsule_booked enqueued).trans (ih pair.1)
    · exact ih s

theorem maybeEnqueueResumeCapsules_booked (n : UInt64) : BookedBy env s (maybeEnqueueResumeCapsules env d s n) := by
  unfold maybeEnqueueResumeCapsules
  split
  · exact enqueueCapsules_booked n _ s
  · exact .refl s

/-! ## Session commands -/

section Sessions

variable {connID : ConnID} {reqID : String}

theorem reduceCreateSession_booked {p : CreateSessionParams} :
    BookedBy env s (reduceCreateSession env d s connID reqID p) := by
  fun_cases reduceCreateSession env d s connID reqID p <;> exact .still rfl rfl

theorem reducePushDriver_booked {p : PushDriverParams} :
    BookedBy env s (reducePushDriver env d s connID reqID p) := by
  fun_cases reducePushDriver env d s connID reqID p
  all_goals try exact .still rfl rfl
  rename_i attempt
  obtain ⟨_, _, _, _, kept, _, effects⟩ := pushDriverInternal_spec attempt
  rw [BookedBy, effects]
  refine .still ?_ rfl
  rw [kept]
  rfl

variable {sid : SessionID}

theorem reduceForkSession_booked : BookedBy env s (reduceForkSession env d s connID reqID sid) := by
  fun_cases reduceForkSession env d s connID reqID sid
  all_goals try exact .still rfl rfl
  unfold buildForkSession spawnForkSession
  dsimp only
  split <;> exact .still rfl rfl

theorem teardownAll_unbooked (frames : List (SessionFrame D)) (kill : Bool) :
    ∀ e ∈ teardownAll frames kill, e.unbooked = true := by
  intro e mem
  obtain ⟨frame, _, held⟩ := mem_flatMap.mp mem
  have each : (frameTeardownEffects frame.id kill : List (Effect D)).all Effect.unbooked = true := by
    cases kill <;> rfl
  exact unbooked_of_all each e held

theorem reduceStopSession_booked : BookedBy env s (reduceStopSession s connID reqID sid) := by
  unfold reduceStopSession
  split
  · exact .still rfl rfl
  · exact .quiet rfl (unbooked_append
      (unbooked_append (unbooked_of_all rfl) (teardownAll_unbooked _ true)) (unbooked_of_all rfl))

theorem reduceSetHeadFrame_booked {fid : FrameID} : BookedBy env s (reduceSetHeadFrame s connID reqID sid fid) := by
  fun_cases reduceSetHeadFrame s connID reqID sid fid <;> exact .still rfl rfl

variable {p : SessionMessagesParams}

theorem reduceListSessionMessages_booked : BookedBy env s (reduceListSessionMessages s connID reqID p) := by
  fun_cases reduceListSessionMessages s connID reqID p <;> exact .still rfl rfl

theorem reduceReadSessionMessages_booked : BookedBy env s (reduceReadSessionMessages s connID reqID p) := by
  fun_cases reduceReadSessionMessages s connID reqID p
  all_goals try exact .still rfl rfl
  refine .quiet rfl (unbooked_append (unbooked_of_all rfl) ?_)
  split <;> exact unbooked_of_all rfl

theorem reduceFlagResumeCapsule_booked {flagged : Bool} :
    BookedBy env s (reduceFlagResumeCapsule s connID reqID sid flagged) := by
  fun_cases reduceFlagResumeCapsule s connID reqID sid flagged
  all_goals try exact .still rfl rfl
  refine .quiet rfl (unbooked_append (unbooked_of_all rfl) ?_)
  split <;> exact unbooked_of_all rfl

theorem reduceRepositoryPreparationEvent_booked {id : PreparationID} :
    BookedBy env s (reduceRepositoryPreparationEvent s connID reqID id) := by
  unfold reduceRepositoryPreparationEvent
  split <;> exact .still rfl rfl

theorem reduceShutdown_booked : BookedBy env s (reduceShutdown s connID reqID) := by
  unfold reduceShutdown
  cases s.lifecycle <;> exact .still rfl rfl

theorem onSession_booked (each : effs.all Effect.unbooked = true) :
    BookedBy env s (onSession s connID reqID sid effs) := by
  unfold onSession
  split
  · exact .still rfl rfl
  · exact .still rfl each

end Sessions

/-! ## Requests and evictions -/

theorem RequestsOnly.books (only : RequestsOnly s t) : t.books = s.books := by
  rw [only.rest]
  rfl

variable {connID : ConnID} {reqID : String}

theorem commitApproval_booked {id : String} {change : ApprovalRequest → ApprovalRequest}
    {reply : ApprovalRequest → Effect D} (replies : ∀ r, (reply r).unbooked = true) :
    BookedBy env s (approvals.commit d s connID reqID id change reply) :=
  .quiet (RequestsOnly.ofApprovals (approvals_lawful.commit_touches d s _ _ _ _ _)).books
    (RequestKind.commit_forall (P := fun e => e.unbooked = true) (fun _ _ _ => rfl) rfl replies
      (fun _ => rfl) id change)

theorem commitQuestion_booked {id : String} {change : QuestionRequest → QuestionRequest}
    {reply : QuestionRequest → Effect D} (replies : ∀ r, (reply r).unbooked = true) :
    BookedBy env s (questions.commit d s connID reqID id change reply) :=
  .quiet (RequestsOnly.ofQuestions (questions_lawful.commit_touches d s _ _ _ _ _)).books
    (RequestKind.commit_forall (P := fun e => e.unbooked = true) (fun _ _ _ => rfl) rfl replies
      (fun _ => rfl) id change)

theorem reduceApprovalRespond_booked {e : EvApprovalRespond} : BookedBy env s (reduceApprovalRespond d s e) := by
  fun_cases reduceApprovalRespond d s e <;> first | exact .still rfl rfl | exact commitApproval_booked fun _ => rfl

theorem reduceApprovalCancel_booked {e : EvApprovalCancel} : BookedBy env s (reduceApprovalCancel d s e) := by
  fun_cases reduceApprovalCancel d s e
  · exact .still rfl rfl
  · exact commitApproval_booked fun _ => rfl

theorem reduceQuestionRespond_booked {e : EvQuestionRespond} : BookedBy env s (reduceQuestionRespond d s e) := by
  unfold reduceQuestionRespond
  split
  · exact .still rfl rfl
  · exact commitQuestion_booked fun _ => rfl

theorem reduceQuestionCancel_booked {e : EvQuestionCancel} : BookedBy env s (reduceQuestionCancel d s e) := by
  unfold reduceQuestionCancel
  split
  · exact .still rfl rfl
  · exact commitQuestion_booked fun _ => rfl

variable {e : EvSubsystem D}

theorem reduceHumanInput_booked : BookedBy env s (reduceHumanInput d s e) :=
  .quiet (reduceHumanInput_requestsOnly d s e).books (unbooked_of_settles (reduceHumanInput_filed d s e).settles)

variable {now : Time}

theorem expirePendingApprovals_booked : BookedBy env s (expirePendingApprovals d s now) :=
  .quiet (RequestsOnly.ofApprovals (approvals_lawful.expirePending_touches d s now)).books
    (unbooked_of_settles (expirePending_settles d s now).1)

theorem expirePendingQuestions_booked : BookedBy env s (expirePendingQuestions d s now) :=
  .quiet (RequestsOnly.ofQuestions (questions_lawful.expirePending_touches d s now)).books
    (unbooked_of_settles (expirePending_settles d s now).2)

variable {kill : Bool} {disposition : RootDisposition}

theorem evictRootFrame_booked : BookedBy env s (evictRootFrame d s sid sess kill disposition) := by
  refine .quiet ?_ ?_
  · rw [(evictRootFrame_requestsOnly d s sid sess kill disposition).books]
    cases disposition <;> rfl
  · exact unbooked_append (unbooked_append (unbooked_append
      (unbooked_of_settles (cancelForSession_settles d _ sid).1)
      (unbooked_of_settles (cancelForSession_settles d _ sid).2)) (teardownAll_unbooked _ kill))
      (unbooked_of_all rfl)

theorem storeChild_booked {rest : Session D} {removedID : FrameID} :
    BookedBy env s (storeChild d s sid rest fid removedID kill) := by
  refine .quiet (storeChild_requestsOnly d s sid rest fid removedID kill).books ?_
  refine unbooked_append (unbooked_append (unbooked_append
    (unbooked_of_settles (cancelForFrame_settles d _ fid).1) (unbooked_of_all ?_))
    (unbooked_of_settles (cancelForFrame_settles d _ fid).2)) (unbooked_of_all rfl)
  cases kill <;> rfl

theorem evictFrame_booked (evicted : evictFrame d s fid kill disposition = .ok r) :
    BookedBy env s (r.getD (s, [])) := by
  rcases evictFrame_cases evicted with ⟨_, rfl⟩ | ⟨_, _, _, rfl⟩ | ⟨_, _, _, _, _, _, _, rfl⟩
  · exact .refl s
  · exact evictRootFrame_booked
  · exact storeChild_booked

theorem evicts_booked (evicts : ev.evicts = some (fid, kill, disposition))
    (reduced : reduceRunning env d s ev = .ok (s', effs)) : Booked env s effs s' := by
  obtain ⟨r, evicted, rfl, rfl⟩ := reduceRunning_evicts evicts reduced
  refine (evictFrame_booked evicted).followed rfl ?_
  unfold Event.failureReply
  split
  · split <;> exact unbooked_of_all rfl
  · exact unbooked_of_all rfl

/-! ## Frames and their drivers -/

theorem okRespTo_unbooked : ∀ e ∈ (okRespTo connID reqID : List (Effect D)), e.unbooked = true := by
  unfold okRespTo
  split <;> exact unbooked_of_all rfl

theorem reduceDriverHook_booked {e : EvDriverEvent}
    (reduced : reduceDriverHook env d s e = .ok (s', effs)) : Booked env s effs s' := by
  revert reduced
  fun_cases reduceDriverHook env d s e <;> intro reduced
  case case3 =>
    obtain ⟨r, stepped, rest⟩ := bind_eq_ok.mp reduced
    cases r <;> cases rest
    · exact .still rfl rfl
    · exact ((resolvePush_booked (stepDriver_booked stepped)).followed rfl
        (unbooked_of_all rfl)).followed rfl okRespTo_unbooked
  all_goals
    cases reduced
    exact .still rfl rfl

theorem retarget_books {targetID : TargetID} (targeted : retarget s sid sess i targetID = .ok t) :
    t.books = s.books := by
  obtain ⟨frame, _, rest⟩ := bind_eq_ok.mp targeted
  split at rest
  · obtain ⟨frames, _, returned⟩ := bind_eq_ok.mp rest
    cases returned
    rfl
  · cases rest
    rfl

theorem reduceSubsystem_booked (reduced : reduceSubsystem env d s e = .ok (s', effs)) : Booked env s effs s' := by
  revert reduced
  fun_cases reduceSubsystem env d s e <;> intro reduced
  case case3 =>
    obtain ⟨targeted, moved, reduced⟩ := bind_eq_ok.mp reduced
    obtain ⟨r, stepped, rest⟩ := bind_eq_ok.mp reduced
    cases r <;> cases rest
    · exact .still (retarget_books moved) rfl
    have pushed := resolvePush_booked (d := d) (Booked.preceded (retarget_books moved) (stepDriver_booked stepped))
    have asked := pushed.trans (reduceHumanInput_booked (d := d) (e := e))
    refine ((asked.followed rfl (unbooked_of_all rfl)).followed rfl okRespTo_unbooked).moved ?_
    split <;> rfl
  all_goals
    cases reduced
    exact .still rfl rfl

theorem reduceFileChanged_booked {path : String}
    (reduced : reduceFileChanged env d s fid path = .ok (s', effs)) : Booked env s effs s' := by
  revert reduced
  fun_cases reduceFileChanged env d s fid path <;> intro reduced
  · cases reduced
    exact .refl s
  obtain ⟨r, stepped, rest⟩ := bind_eq_ok.mp reduced
  cases r with
  | none =>
    cases rest
    exact .refl s
  | some =>
    dsimp only at rest
    split at rest <;> cases rest
    · exact stepDriver_booked stepped
    · exact (stepDriver_booked stepped).followed rfl (unbooked_of_all rfl)

theorem appendMissing_booked (booked : Booked env s effs s') :
    Booked env s (appendMissingSessionRefreshEffects effs) s' := by
  refine (booked.followed rfl ?_).followed rfl ?_ <;> split <;> exact unbooked_of_all rfl

theorem logAndStep_booked {line : String}
    (reduced : logAndStep env d s fid line dev = .ok (s', effs)) : Booked env s effs s' := by
  obtain ⟨r, stepped, rest⟩ := bind_eq_ok.mp reduced
  cases rest
  exact appendMissing_booked (Booked.trans (show Booked env s [.eventLogAppend fid line] s from .still rfl rfl)
      (stepDriver_getD_booked stepped))

theorem reduceFrameOsc_booked {e : EvFrameOsc}
    (reduced : reduceFrameOsc env d s e = .ok (s', effs)) : Booked env s effs s' := by
  revert reduced
  fun_cases reduceFrameOsc env d s e <;> intro reduced
  case case2 | case4 => exact logAndStep_booked reduced
  all_goals
    cases reduced
    exact .still rfl rfl

theorem reduceFramePrompt_booked {e : EvFramePrompt}
    (reduced : reduceFramePrompt env d s e = .ok (s', effs)) : Booked env s effs s' := by
  unfold reduceFramePrompt at reduced
  dsimp only at reduced
  split at reduced
  · cases reduced
    exact .still rfl rfl
  · exact Booked.preceded (t := { s with now := e.now }) rfl (logAndStep_booked reduced)

theorem reduceTick_booked {n : UInt64} (reduced : reduceTick env d s now n = .ok (s', effs)) :
    Booked env s effs s' := by
  obtain ⟨scan, scanned, rest⟩ := bind_eq_ok.mp reduced
  cases rest
  have ticked : Booked env s scan.effects scan.state :=
    Booked.preceded (t := { s with now := now }) rfl (stepActiveSessions_booked scanned)
  have capsules := (ticked.followed rfl
    (show ∀ e ∈ (if n % 5 == 0 then [.reconcileWindows] else [] : List (Effect D)),
      e.unbooked = true by split <;> exact unbooked_of_all rfl)).trans
    (maybeEnqueueResumeCapsules_booked (d := d) n)
  refine ((capsules.trans expirePendingApprovals_booked).trans expirePendingQuestions_booked).followed rfl ?_
  split <;> exact unbooked_of_all rfl

theorem reduceFrameCommandExited_booked {exitCode : Int}
    (reduced : reduceFrameCommandExited env d s fid exitCode = .ok (s', effs)) : Booked env s effs s' := by
  unfold reduceFrameCommandExited at reduced
  split at reduced
  · cases reduced
    exact .refl s
  split at reduced
  · obtain ⟨r, evicted, rest⟩ := bind_eq_ok.mp reduced
    cases r <;> cases rest <;> exact evictFrame_booked evicted
  obtain ⟨frame, _, reduced⟩ := bind_eq_ok.mp reduced
  split at reduced
  · cases reduced
    exact .still rfl rfl
  obtain ⟨r, stepped, rest⟩ := bind_eq_ok.mp reduced
  cases rest
  exact (stepDriver_getD_booked stepped).followed rfl (unbooked_of_all rfl)

/-! ## The steps that write into a book themselves -/

variable {job : JobMeta} {err : Option String}

theorem reduceCapsuleJobResult_booked {result : CapsuleJobResult}
    (reduced : reduceCapsuleJobResult s job result err = (s', effs)) :
    Booked env { s with capsuleGenerating := s.capsuleGenerating.delete job.sessionID } effs s' := by
  revert reduced
  fun_cases reduceCapsuleJobResult s job result err <;> intro reduced <;>
    obtain ⟨rfl, rfl⟩ := Prod.mk.inj reduced <;> exact .still rfl rfl

/-- A driver returns the effect when it learns of its worktree. -/
def Env.EmitsOnWorktree (env : Env D) (e : Effect D) : Prop :=
  ∃ command drv ds ctx dir name, env.getDriver command = some drv ∧
    e ∈ (drv.step ds ctx (.worktreeResolved dir name)).2

theorem resolveWorktree_booked {e : EvFrameSpawned} (resolved : resolveWorktree env d s e = .ok t) :
    ∃ lost, Booked env s lost t ∧ ((∀ x, env.EmitsOnWorktree x → x.job = none) → startedJobs lost = []) := by
  unfold resolveWorktree at resolved
  split at resolved
  · cases resolved
    exact ⟨[], .refl s, fun _ => rfl⟩
  obtain ⟨r, stepped, returned⟩ := bind_eq_ok.mp resolved
  cases returned
  refine ⟨(r.getD (s, [])).2, stepDriver_getD_booked stepped, fun jobless => ?_⟩
  cases r with
  | none => rfl
  | some =>
    obtain ⟨_, _, _, frame, drv, ds, ctx, _, _, driver, stored⟩ := stepDriver_runs stepped
    obtain ⟨_, posted⟩ := storeDriverStep_posts stored
    exact postProcessEffects_jobless (filterMap_eq_nil_iff.mpr fun x mem =>
        jobless x ⟨frame.command, drv, ds, ctx, _, _, driver, mem⟩) posted

theorem recordSubsystem_books {sess' : Session D} {subsystemID : SubsystemID}
    (recorded : recordSubsystem s sid sess i subsystemID = .ok (t, sess')) : t.books = s.books := by
  obtain ⟨frame, _, rest⟩ := bind_eq_ok.mp recorded
  split at rest
  · obtain ⟨frames, _, returned⟩ := bind_eq_ok.mp rest
    cases returned
    rfl
  · cases rest
    rfl

theorem bootstrapRoot_booked (booted : bootstrapRoot env d s fid i = .ok (t, effs)) : Booked env s effs t := by
  unfold bootstrapRoot at booted
  split at booted
  · obtain ⟨r, done, returned⟩ := bind_eq_ok.mp booted
    have booked := bootstrapDriverSessionStart_booked done
    rwa [Except.ok.inj returned] at booked
  · cases booted
    exact .refl s

theorem reduceFrameSpawned_booked {e : EvFrameSpawned} (reduced : reduceFrameSpawned env d s e = .ok (s', effs)) :
    ∃ lost mid, Booked env s lost mid ∧ Booked env mid effs s' ∧
      ((∀ x, env.EmitsOnWorktree x → x.job = none) → startedJobs lost = []) := by
  revert reduced
  fun_cases reduceFrameSpawned env d s e <;> intro reduced
  case case3 =>
    obtain ⟨⟨recorded, sess⟩, stored, reduced⟩ := bind_eq_ok.mp reduced
    obtain ⟨moved, resolved, reduced⟩ := bind_eq_ok.mp reduced
    obtain ⟨⟨next, boot⟩, booted, reduced⟩ := bind_eq_ok.mp reduced
    obtain ⟨frame, _, returned⟩ := bind_eq_ok.mp reduced
    cases returned
    obtain ⟨lost, booked, jobless⟩ := resolveWorktree_booked resolved
    refine ⟨lost, moved, booked.preceded (recordSubsystem_books stored),
      (bootstrapRoot_booked booted).followed rfl ?_, jobless⟩
    unfold spawnedEffects
    split <;> exact unbooked_of_all rfl
  all_goals
    cases reduced
    exact ⟨[], s, .refl s, .refl s, fun _ => rfl⟩

theorem Prepared.aside {e : EvRepository} {r : Reduced D} (prepared : Prepared d s e r) :
    r.1.surfaceSubs = s.surfaceSubs ∧ r.1.roster = s.roster ∧ ∀ x ∈ r.2, x.unbooked = true := by
  have unbooked : ∀ x ∈ r.2, x.unbooked = true := by
    intro x mem
    rcases prepared.effects x mem with known | known <;> cases x <;> first | rfl | cases known
  cases prepared with
  | answered | created | moved | published => exact ⟨rfl, rfl, unbooked⟩

/-- Nothing but the table of surfaces is written to, and no job is handed out. -/
structure SurfacesOnly (s : State D) (effs : List (Effect D)) (s' : State D) : Prop where
  preparations : s'.repositoryPreparations = s.repositoryPreparations
  intents : s'.creationIntents = s.creationIntents
  roster : s'.roster = s.roster
  jobless : startedJobs effs = []

theorem reduceSurfaceSubscribe_surfacesOnly {e : EvSurfaceSubscribe} :
    SurfacesOnly s (reduceSurfaceSubscribe s e).2 (reduceSurfaceSubscribe s e).1 := by
  fun_cases reduceSurfaceSubscribe s e <;> exact ⟨rfl, rfl, rfl, rfl⟩

theorem reduceSurfaceUnsubscribe_surfacesOnly {e : EvSurfaceUnsubscribe} :
    SurfacesOnly s (reduceSurfaceUnsubscribe s e).2 (reduceSurfaceUnsubscribe s e).1 := by
  unfold reduceSurfaceUnsubscribe
  dsimp only
  split
  · exact ⟨rfl, rfl, rfl, rfl⟩
  refine ⟨rfl, rfl, rfl, ?_⟩
  by_cases told : e.reqID = ""
  · simp [startedJobs, told, Effect.job]
  · simp [startedJobs, told, okResp, Effect.job]

theorem reduceConnClosed_surfacesOnly :
    SurfacesOnly s (reduceConnClosed d s connID).2 (reduceConnClosed d s connID).1 := by
  refine ⟨rfl, rfl, rfl, filterMap_eq_nil_iff.mpr fun x mem => ?_⟩
  obtain ⟨_, _, rfl⟩ := mem_map.mp mem
  rfl

/-! ## Steps -/

inductive Booking (env : Env D) (d : Draw) (s : State D) (ev : Event D) :
    State D → List (Effect D) → Prop where
  | routine {s' : State D} {effs : List (Effect D)} (booked : Booked env s effs s') : Booking env d s ev s' effs
  | subscribe {e : EvSurfaceSubscribe} (asked : ev = .surfaceSubscribe e)
      (running : s.lifecycle = .running) :
      Booking env d s ev (reduceSurfaceSubscribe s e).1 (reduceSurfaceSubscribe s e).2
  | unsubscribe {e : EvSurfaceUnsubscribe} (asked : ev = .surfaceUnsubscribe e) :
      Booking env d s ev (reduceSurfaceUnsubscribe s e).1 (reduceSurfaceUnsubscribe s e).2
  | closed {connID : ConnID} (asked : ev = .connClosed connID) :
      Booking env d s ev (reduceConnClosed d s connID).1 (reduceConnClosed d s connID).2
  | repository {e : EvRepository} {s' : State D} {effs : List (Effect D)}
      (asked : ev = .repository e) (prepared : Prepared d s e (s', effs)) : Booking env d s ev s' effs
  | creation {connID : ConnID} {reqID : String} {p : RepositoryCreateParams} {e : EvRepository}
      {s' : State D} {effs : List (Effect D)}
      (asked : ev = .event connID reqID (.createRepositorySession (.ok p)))
      (kind : e.kind = .create) (prepared : Prepared d s e (s', effs)) : Booking env d s ev s' effs
  | capsuleDone {id : JobID} {result : CapsuleJobResult} {err : Option String} {job : JobMeta}
      {s' : State D} {effs : List (Effect D)} (asked : ev = .jobResult id (.capsule result) err)
      (running : s.lifecycle = .running) (found : s.jobs.get? id = some job)
      (booked : Booked env
        { s with jobs := s.jobs.delete id, capsuleGenerating := s.capsuleGenerating.delete job.sessionID } effs s') :
      Booking env d s ev s' effs
  | jobDone {id : JobID} {value : D} {err : Option String} {job : JobMeta} {s' : State D}
      {effs : List (Effect D)} (asked : ev = .jobResult id (.driver value) err)
      (running : s.lifecycle = .running) (found : s.jobs.get? id = some job)
      (booked : Booked env { s with jobs := s.jobs.delete id } effs s') : Booking env d s ev s' effs
  | spawned {e : EvFrameSpawned} {lost : List (Effect D)} {mid s' : State D}
      {effs : List (Effect D)} (asked : ev = .frameSpawned e) (unreported : Booked env s lost mid)
      (booked : Booked env mid effs s')
      (jobless : (∀ x, env.EmitsOnWorktree x → x.job = none) → startedJobs lost = []) : Booking env d s ev s' effs

theorem decoded_booked {α : Type} {payload : Payload α} {handler : α → Reduced D}
    (reduced : decoded s connID reqID payload handler = .ok (s', effs))
    (goesOn : ∀ p, payload = .ok p → BookedBy env s (handler p)) : Booked env s effs s' := by
  rcases decoded_cases reduced with ⟨message, rfl, rfl⟩ | ⟨p, accepted, handled⟩
  · exact .still rfl rfl
  simpa only [handled] using goesOn p accepted

theorem reduceEvent_booking {call : CommandEvent} (reduced : reduceEvent env d s connID reqID call = .ok (s', effs)) :
    Booking env d s (.event connID reqID call) s' effs := by
  cases call with
  | createSession => exact .routine (decoded_booked reduced fun _ _ => reduceCreateSession_booked)
  | pushDriver => exact .routine (decoded_booked reduced fun _ _ => reducePushDriver_booked)
  | forkSession => exact .routine (decoded_booked reduced fun _ _ => reduceForkSession_booked)
  | stopSession => exact .routine (decoded_booked reduced fun _ _ => reduceStopSession_booked)
  | setHeadFrame => exact .routine (decoded_booked reduced fun _ _ => reduceSetHeadFrame_booked)
  | shutdown => exact .routine (decoded_booked reduced fun _ _ => reduceShutdown_booked)
  | listSessions | listResumeCapsules => exact .routine (decoded_booked reduced fun _ _ => .still rfl rfl)
  | listSessionMessages => exact .routine (decoded_booked reduced fun _ _ => reduceListSessionMessages_booked)
  | readSessionMessages => exact .routine (decoded_booked reduced fun _ _ => reduceReadSessionMessages_booked)
  | createRepositorySession =>
    rcases decoded_cases reduced with ⟨message, rfl, rfl⟩ | ⟨p, rfl, handled⟩
    · exact .routine (.still rfl rfl)
    have prepared : Prepared d s _ (reduceRepositoryCreateEvent d s connID reqID p) :=
      reduceRepositoryCreate_prepared (by rfl)
    rw [handled] at prepared
    exact .creation rfl rfl prepared
  | getRepositoryPreparation =>
    exact .routine (decoded_booked reduced fun _ _ => reduceRepositoryPreparationEvent_booked)
  | flagResumeCapsule => exact .routine (decoded_booked reduced fun _ _ => reduceFlagResumeCapsule_booked)
  | unregistered => cases reduced

/-- The state in which a registered job's result is taken up. -/
def State.relieved (s : State D) (id : JobID) (job : JobMeta) : JobResult D → State D
  | .capsule _ => { s with jobs := s.jobs.delete id, capsuleGenerating := s.capsuleGenerating.delete job.sessionID }
  | .driver _ => { s with jobs := s.jobs.delete id }

theorem reduceJobResult_booked {id : JobID} {result : JobResult D} (found : s.jobs.get? id = some job)
    (reduced : reduceJobResult env d s id result err = .ok (s', effs)) :
    Booked env (s.relieved id job result) effs s' := by
  unfold reduceJobResult at reduced
  simp only [found] at reduced
  cases result with
  | capsule => exact reduceCapsuleJobResult_booked (Except.ok.inj reduced)
  | driver =>
    obtain ⟨r, stepped, rest⟩ := bind_eq_ok.mp reduced
    cases r with
    | none =>
      cases rest
      exact .refl _
    | some =>
      cases rest
      exact (stepDriver_booked stepped).followed rfl (unbooked_of_all rfl)

theorem reduceJobResult_booking {id : JobID} {result : JobResult D} (running : s.lifecycle = .running)
    (reduced : reduceJobResult env d s id result err = .ok (s', effs)) :
    Booking env d s (.jobResult id result err) s' effs := by
  cases found : s.jobs.get? id with
  | none =>
    unfold reduceJobResult at reduced
    simp only [found] at reduced
    cases reduced
    exact .routine (.refl s)
  | some =>
    have booked := reduceJobResult_booked found reduced
    cases result with
    | capsule => exact .capsuleDone rfl running found booked
    | driver => exact .jobDone rfl running found booked

variable {id : Nat}

theorem reduceShutdownSaveSucceeded_booked : BookedBy env s (reduceShutdownSaveSucceeded s id) := by
  unfold reduceShutdownSaveSucceeded
  split <;> exact .still rfl rfl

theorem reduceShutdownSaveFailed_booked {err : String} : BookedBy env s (reduceShutdownSaveFailed s id err) := by
  unfold reduceShutdownSaveFailed
  split
  · exact .still rfl rfl
  refine .quiet rfl (unbooked_append ?_ (unbooked_of_all rfl))
  intro e mem
  obtain ⟨waiter, _, rfl⟩ := mem_map.mp mem
  rfl

theorem reduceShutdownCleanupFinished_booked {outcome : ShutdownCleanupOutcome} :
    BookedBy env s (reduceShutdownCleanupFinished s id outcome) := by
  unfold reduceShutdownCleanupFinished
  split
  · exact .still rfl rfl
  refine .quiet rfl (unbooked_append ?_ (unbooked_of_all rfl))
  intro e mem
  obtain ⟨waiter, _, rfl⟩ := mem_map.mp mem
  cases outcome <;> rfl

theorem reduceRunning_booking (running : s.lifecycle = .running)
    (reduced : reduceRunning env d s ev = .ok (s', effs)) : Booking env d s ev s' effs := by
  have returned : ∀ {r}, .ok r = reduceRunning env d s ev →
      Booking env d s ev r.1 r.2 → Booking env d s ev s' effs := by
    intro r same booking
    cases same.trans reduced
    exact booking
  have still : ∀ {r}, .ok r = reduceRunning env d s ev → Booked env s r.2 r.1 → Booking env d s ev s' effs :=
    fun same booked => returned same (.routine booked)
  cases ev with
  | event => exact reduceEvent_booking reduced
  | driverEvent => exact .routine (reduceDriverHook_booked reduced)
  | subsystem => exact .routine (reduceSubsystem_booked reduced)
  | frameSpawned =>
    obtain ⟨lost, mid, unreported, booked, jobless⟩ := reduceFrameSpawned_booked reduced
    exact .spawned rfl unreported booked jobless
  | spawnFailed | frameVanished => exact .routine (evicts_booked rfl reduced)
  | frameCommandExited => exact .routine (reduceFrameCommandExited_booked reduced)
  | tick => exact .routine (reduceTick_booked reduced)
  | jobResult => exact reduceJobResult_booking running reduced
  | fileChanged => exact .routine (reduceFileChanged_booked reduced)
  | frameOsc => exact .routine (reduceFrameOsc_booked reduced)
  | framePrompt => exact .routine (reduceFramePrompt_booked reduced)
  | shutdownSaveBarrierSucceeded => exact still rfl reduceShutdownSaveSucceeded_booked
  | shutdownSaveBarrierFailed => exact still rfl reduceShutdownSaveFailed_booked
  | shutdownCleanupFinished => exact still rfl reduceShutdownCleanupFinished_booked
  | connOpened =>
    refine still rfl ?_
    unfold reduceConnOpened
    split <;> exact .still rfl rfl
  | connClosed => exact returned rfl (.closed rfl)
  | subscribe | unsubscribe | driverList => exact still rfl (.still rfl rfl)
  | surfaceReadText | surfaceSendText | surfaceSendKey | surfaceWriteRaw | surfaceResize =>
    exact still rfl (onSession_booked rfl)
  | surfaceSubscribe => exact returned rfl (.subscribe rfl running)
  | surfaceUnsubscribe => exact returned rfl (.unsubscribe rfl)
  | approvalRespond => exact still rfl reduceApprovalRespond_booked
  | approvalCancel => exact still rfl reduceApprovalCancel_booked
  | questionRespond => exact still rfl reduceQuestionRespond_booked
  | questionCancel => exact still rfl reduceQuestionCancel_booked
  | repository =>
    refine .repository rfl ?_
    rw [← Except.ok.inj reduced]
    exact reduceRepository_prepared

theorem unavailableTo_unbooked : ∀ e ∈ (unavailableTo connID reqID : List (Effect D)), e.unbooked = true := by
  unfold unavailableTo
  split <;> exact unbooked_of_all rfl

theorem reduceQuiescing_booking (reduced : reduceQuiescing env d s ev = .ok (s', effs)) :
    Booking env d s ev s' effs := by
  have returned : ∀ {r}, .ok r = reduceQuiescing env d s ev →
      Booking env d s ev r.1 r.2 → Booking env d s ev s' effs := by
    intro r same booking
    cases same.trans reduced
    exact booking
  have still : ∀ {r}, .ok r = reduceQuiescing env d s ev → Booked env s r.2 r.1 → Booking env d s ev s' effs :=
    fun same booked => returned same (.routine booked)
  cases ev with
  | event connID reqID call =>
    cases served : call.servedQuiescing with
    | true =>
      rw [reduceQuiescing, served, if_pos rfl] at reduced
      exact reduceEvent_booking reduced
    | false =>
      refine still (r := (s, [unavailable connID reqID])) ?_ (.still rfl rfl)
      rw [reduceQuiescing, served, if_neg Bool.false_ne_true]
  | shutdownSaveBarrierSucceeded => exact still rfl reduceShutdownSaveSucceeded_booked
  | shutdownSaveBarrierFailed => exact still rfl reduceShutdownSaveFailed_booked
  | shutdownCleanupFinished => exact still rfl reduceShutdownCleanupFinished_booked
  | connOpened =>
    refine still rfl ?_
    unfold reduceConnOpened
    split <;> exact .still rfl rfl
  | connClosed => exact returned rfl (.closed rfl)
  | surfaceUnsubscribe => exact returned rfl (.unsubscribe rfl)
  | surfaceReadText => exact still rfl (onSession_booked rfl)
  | driverEvent | subsystem => exact still rfl (.quiet rfl unavailableTo_unbooked)
  | repository => cases reduced
  | _ => exact still rfl (.still rfl rfl)

theorem Step.booking (step : Step env s (ev, effs) s') : ∃ d : Draw, d.Fresh s ∧ Booking env d s ev s' effs := by
  obtain ⟨d, fresh, reduced⟩ := step
  unfold reduce at reduced
  cases phase : s.lifecycle with
  | running =>
    rw [phase] at reduced
    exact ⟨d, fresh, reduceRunning_booking phase reduced⟩
  | quiescing =>
    rw [phase] at reduced
    exact ⟨d, fresh, reduceQuiescing_booking reduced⟩

end AgentGrid.Host
