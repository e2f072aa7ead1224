import AgentGrid.Orchestrator.Claim
import AgentGrid.Orchestrator.Dispatch

/-!
# What the reducer does to a claim

Every event is, on the claim of each single issue, a sequence of moves.  An event that an
effect gave rise to consumes what the effect stood for: an effect that waits or dispatches is
replaced by those that the reducer returns.
-/

namespace AgentGrid.Orchestrator

open AgentGrid.Lib Relation List Option GoMap

attribute [local simp] get?_delete get?_set

/-- The effect is about to arm or to resolve the retry of an issue. -/
@[simp] def Effect.waitsFor (id : IssueID) : Effect → Bool
  | .retryFetch issueID _ _ => decide (issueID = id)
  | .armRetryTimer issueID _ _ _ => decide (issueID = id)
  | _ => false

/-- The effect is about to validate or to spawn an issue. -/
@[simp] def Effect.dispatches (id : IssueID) : Effect → Bool
  | .revalidate issue _ => decide (issue.id = id)
  | .spawn issue _ => decide (issue.id = id)
  | _ => false

namespace State

/-- The claim on an issue, where effects are under way and more is waiting elsewhere. -/
@[simp] def claimOn (s : State) (id : IssueID) (effs : List Effect) (waits dispatches : Nat) : Claim :=
  { running := (s.running.get? id).isSome, claimed := (s.claimed.get? id).isSome
    retrying := (s.retryAttempts.get? id).isSome, waits := waits + effs.countP (Effect.waitsFor id)
    dispatches := dispatches + effs.countP (Effect.dispatches id) }

theorem claimOn_append (s : State) (id : IssueID) (effs rest : List Effect) (waits dispatches : Nat) :
    s.claimOn id (effs ++ rest) waits dispatches = s.claimOn id effs (waits + rest.countP (Effect.waitsFor id))
        (dispatches + rest.countP (Effect.dispatches id)) := by
  simp only [claimOn, countP_append, Claim.mk.injEq, true_and]
  omega

end State

/-- Retry entries are stored under the issue they name, or were there before. -/
def State.KeepsNames (s s' : State) : Prop :=
  ∀ id entry, s'.retryAttempts.get? id = some entry → entry.issueID = id ∨ s.retryAttempts.get? id = some entry

/-- On the claim of every issue, effects give way to others through allowed moves. -/
structure Reduces (allowed : MoveKind → Prop) (s : State) (own : List Effect)
    (r : Reduced) : Prop where
  moves : ∀ id waits dispatches,
    Moves allowed (s.claimOn id own waits dispatches) (r.1.claimOn id r.2 waits dispatches)
  names : s.KeepsNames r.1

namespace State.KeepsNames

variable {s s' s'' : State}

theorem of_eq (same : s'.retryAttempts = s.retryAttempts) : s.KeepsNames s' := by
  intro id entry found
  rw [same] at found
  exact .inr found

theorem of_delete {id : IssueID} (gone : s'.retryAttempts = s.retryAttempts.delete id) : s.KeepsNames s' := by
  intro id' entry found
  rw [gone] at found
  exact .inr (get?_of_delete found).2

theorem of_set {entry : RetryEntry}
    (stored : s'.retryAttempts = s.retryAttempts.set entry.issueID entry) : s.KeepsNames s' := by
  intro id' entry' found
  rw [stored] at found
  rcases get?_of_set found with ⟨rfl, rfl⟩ | before
  · exact .inl rfl
  · exact .inr before

theorem trans (first : s.KeepsNames s') (second : s'.KeepsNames s'') : s.KeepsNames s'' := by
  intro id entry found
  rcases second id entry found with named | before
  · exact .inl named
  · exact first id entry before

end State.KeepsNames

namespace Reduces

variable {allowed other : MoveKind → Prop} {s : State} {own : List Effect} {r : Reduced}

theorem nothing (s : State) : Reduces allowed s [] (s, []) := ⟨fun _ _ _ => .refl, .of_eq rfl⟩

theorem single (id : IssueID) {k : MoveKind} (ok : allowed k) (names : s.KeepsNames r.1)
    (moved : ∀ waits dispatches, Move (s.claimOn id own waits dispatches) k (r.1.claimOn id r.2 waits dispatches))
    (kept : ∀ id' waits dispatches, id' ≠ id →
      s.claimOn id' own waits dispatches = r.1.claimOn id' r.2 waits dispatches) : Reduces allowed s own r := by
  refine ⟨fun id' waits dispatches => ?_, names⟩
  by_cases same : id' = id
  · subst same
    exact .one ok (moved waits dispatches)
  · rw [kept id' waits dispatches same]
    exact .refl

theorem mono (reduces : Reduces allowed s own r) (weaker : ∀ k, allowed k → other k) : Reduces other s own r :=
  ⟨fun id waits dispatches => (reduces.moves id waits dispatches).mono weaker, reduces.names⟩

theorem followed {later : Reduced} (first : Reduces allowed s own r) (second : Reduces allowed r.1 [] later) :
    Reduces allowed s own (later.1, r.2 ++ later.2) := by
  refine ⟨fun id waits dispatches => ?_, first.names.trans second.names⟩
  refine (first.moves id waits dispatches).trans ?_
  have rest := second.moves id (waits + r.2.countP (Effect.waitsFor id))
    (dispatches + r.2.countP (Effect.dispatches id))
  rw [← State.claimOn_append] at rest
  have swapped : later.1.claimOn id (r.2 ++ later.2) waits dispatches =
      later.1.claimOn id later.2 (waits + r.2.countP (Effect.waitsFor id))
        (dispatches + r.2.countP (Effect.dispatches id)) := by
    simp only [State.claimOn, countP_append, Claim.mk.injEq, true_and]
    omega
  rwa [swapped]

end Reduces

/-! ## Transitions -/

theorem releaseClaim_books (s : State) (id : IssueID) : (releaseClaim s id).running = s.running.delete id ∧
      (releaseClaim s id).claimed = s.claimed.delete id ∧
      (releaseClaim s id).retryAttempts = s.retryAttempts.delete id := by
  have usage : (closeUsage s id).running = s.running ∧ (closeUsage s id).claimed = s.claimed ∧
      (closeUsage s id).retryAttempts = s.retryAttempts := by
    unfold closeUsage
    cases s.usage.get? id <;> exact ⟨rfl, rfl, rfl⟩
  have runtime : ∀ t, (closeRuntime t id).running = t.running ∧ (closeRuntime t id).claimed = t.claimed ∧
      (closeRuntime t id).retryAttempts = t.retryAttempts := by
    intro t
    unfold closeRuntime
    cases t.runtime.get? id <;> exact ⟨rfl, rfl, rfl⟩
  obtain ⟨running, claimed, retries⟩ := runtime (closeUsage s id)
  simp only [releaseClaim, running, claimed, retries, usage, and_self]

section Events

variable (lower : String → String) (s : State) (cfg : Config) (now : Time)

variable (issue : Issue) (id : IssueID) (identifier : String) (attempt : Int) (issues : List Issue)

theorem reconcileKillRetry_moves (cause reason : String) :
    Reduces (· = .stop) s [] (reconcileKillRetry s id attempt cause reason cfg now) := by
  unfold reconcileKillRetry workerExitAbnormal
  cases held : s.running.get? id with
  | none => exact .nothing s
  | some =>
    refine .single id rfl (.of_set rfl) (fun waits dispatches => ?_) fun id' waits dispatches other => ?_
    · simpa [held] using Move.stop
    · simp [other, other.symm]

theorem reduceWorkerExit_moves (err : Option String) (attempt : Int) :
    Reduces (· = .stop) s [] (reduceWorkerExit s id err attempt cfg now) := by
  unfold reduceWorkerExit workerExitNormal workerExitAbnormal
  cases held : s.running.get? id with
  | none => cases err <;> exact .nothing s
  | some =>
    refine .single id rfl (by cases err <;> exact .of_set rfl) (fun waits dispatches => ?_)
      fun id' waits dispatches other => ?_
    · cases err <;>
        simpa [held] using Move.stop
    · cases err <;>
        simp [other, other.symm]

theorem reduceSpawnFailed_moves (err : String) : Reduces (· = .fail) s [.spawn issue attempt]
      (reduceSpawnFailed s issue attempt err cfg now) := by
  obtain ⟨running, claimed, retries⟩ := releaseClaim_books s issue.id
  refine .single issue.id rfl ((State.KeepsNames.of_delete retries).trans (.of_set rfl))
    (fun waits dispatches => ?_) fun id' waits dispatches other => ?_
  · simpa [running, claimed] using Move.fail
  · simp [running, claimed, retries, other, other.symm]

theorem markRunning_moves (session : LiveSession) :
    Reduces (· = .start) s [.spawn issue attempt] (markRunning s issue attempt session, []) := by
  refine .single issue.id rfl (.of_eq rfl) (fun waits dispatches => ?_) fun id' waits dispatches other => ?_
  · simpa [markRunning] using Move.start
  · simp [markRunning, other, other.symm]

theorem reduceRevalidated_moves (fresh : Option Issue) : Reduces (· = .abandon) s [.revalidate issue attempt]
      (reduceRevalidated lower s issue attempt fresh cfg) := by
  have released : Reduces (· = .abandon) s [.revalidate issue attempt] (releaseClaim s issue.id, []) := by
    obtain ⟨running, claimed, retries⟩ := releaseClaim_books s issue.id
    refine .single issue.id rfl (.of_delete retries) (fun waits dispatches => ?_)
      fun id' waits dispatches other => ?_
    · simpa [running, claimed, retries] using Move.abandon
    · simp [running, claimed, retries, other, other.symm]
  unfold reduceRevalidated
  cases fresh with
  | none => exact released
  | some found =>
    by_cases active : workable lower cfg found.state
    · simp only [active, if_true]
      exact ⟨fun _ _ _ => .refl, .of_eq rfl⟩
    · simp only [active]
      exact released

/-- The retry of an issue finds it active, and a slot for it. -/
def retryFindsSlot (issueID : IssueID) (issues : List Issue) : Bool :=
  (findIssue issues issueID).any fun found =>
    workable lower cfg found.state && retryReclaimHasSlot lower s cfg issueID found.state

theorem claimFromRetry_eq : claimFromRetry s id =
      if (!(s.retryAttempts.get? id).isSome || (s.running.get? id).isSome || !(s.claimed.get? id).isSome) then none
      else some { s with retryAttempts := s.retryAttempts.delete id } := by
  unfold claimFromRetry
  cases s.retryAttempts.get? id <;> cases s.running.get? id <;> cases s.claimed.get? id <;> simp

theorem claimFromRetry_moves (found : Issue) (named : found.id = id) {claimed : State}
    (taken : claimFromRetry s id = some claimed) :
    Reduces (· = .redispatch) s [.retryFetch id identifier attempt] (claimed, [.spawn found attempt]) := by
  rw [claimFromRetry_eq] at taken
  split at taken
  · cases taken
  rename_i claimable
  cases taken
  simp only [Bool.or_eq_true, Bool.not_eq_true', not_or, Bool.not_eq_false, Bool.not_eq_true] at claimable
  refine .single id rfl (.of_delete rfl) (fun waits dispatches => ?_) fun id' waits dispatches other => ?_
  · simpa [claimable, named] using Move.redispatch
  · simp [other, other.symm, named]

theorem claimFromRetry_refused_moves (refused : claimFromRetry s id = none) :
    Reduces (· = .refuse) s [.retryFetch id identifier attempt] (s, []) := by
  rw [claimFromRetry_eq] at refused
  split at refused
  · rename_i unclaimable
    refine .single id rfl (.of_eq rfl) (fun waits dispatches => ?_) fun id' waits dispatches other => ?_
    · simpa using Move.refuse unclaimable
    · simp [other.symm]
  · cases refused

/-- The moves of a retry; it is refused on a condition. -/
def MoveKind.ofRetry (refused : Prop) : MoveKind → Prop
  | .requeue => True
  | .drop => True
  | .redispatch => True
  | .refuse => refused
  | _ => False

variable {fetchErr : Option String}

/-- A retry is armed again, given up, refused, or dispatched. -/
theorem reduceRetryResolved_rule {P : Reduced → Prop}
    (again : ∀ cause delay, P (armRetry s (retryEntry id identifier (attempt + 1) cause) delay now))
    (dropped : P (releaseClaim s id, []))
    (refused : fetchErr = none → retryFindsSlot lower s cfg id issues = true → claimFromRetry s id = none → P (s, []))
    (claims : ∀ {found claimed}, findIssue issues id = some found →
      retryReclaimHasSlot lower s cfg id found.state = true → claimFromRetry s id = some claimed →
      P (claimed, [.spawn found attempt])) :
    P (reduceRetryResolved lower s id identifier attempt issues fetchErr cfg now) := by
  unfold reduceRetryResolved
  cases fetchErr with
  | some => exact again _ _
  | none =>
    cases listed : findIssue issues id with
    | none => exact dropped
    | some found =>
      by_cases active : workable lower cfg found.state
      · by_cases slot : retryReclaimHasSlot lower s cfg id found.state
        · cases taken : claimFromRetry s id with
          | none => simpa [active, slot] using refused rfl (by simp [retryFindsSlot, listed, active, slot]) taken
          | some => simpa [active, slot] using claims listed slot taken
        · simpa [active, slot] using again errNoSlots _
      · simpa [active] using dropped

theorem reduceRetryResolved_moves (fetchErr : Option String) : Reduces (MoveKind.ofRetry (fetchErr = none ∧
        retryFindsSlot lower s cfg id issues = true ∧ claimFromRetry s id = none))
      s [.retryFetch id identifier attempt]
      (reduceRetryResolved lower s id identifier attempt issues fetchErr cfg now) := by
  refine reduceRetryResolved_rule lower s cfg now id identifier attempt issues (fun cause delay => ?_) ?_
    (fun fetched finds taken => ?_) fun listed _ taken => ?_
  · refine .single id (show MoveKind.ofRetry _ .requeue from trivial) (.of_set rfl) (fun waits dispatches => ?_)
      fun id' waits dispatches other => ?_
    · simpa [retryEntry] using Move.requeue
    · simp [retryEntry, other, other.symm]
  · obtain ⟨running, claimed, retries⟩ := releaseClaim_books s id
    refine .single id (show MoveKind.ofRetry _ .drop from trivial) (.of_delete retries) (fun waits dispatches => ?_)
      fun id' waits dispatches other => ?_
    · simpa [running, claimed, retries] using Move.drop
    · simp [running, claimed, retries, other, other.symm]
  · exact (claimFromRetry_refused_moves s id identifier attempt taken).mono
      (by rintro _ rfl; exact ⟨fetched, finds, taken⟩)
  · exact (claimFromRetry_moves s id identifier attempt _ (by simpa using find?_some listed) taken).mono
      (by rintro _ rfl; exact trivial)

/-! ### Reconciliation -/

/-- What is done about one running issue: nothing, its run is stopped and retried, ended, or told
what the tracker now says. -/
inductive Reconciled (byID : GoMap IssueID Issue) : Reduced → Prop where
  | nothing : Reconciled byID (s, [])
  | retried {run : RunAttempt} (held : s.running.get? id = some run) (cause reason : String) :
      Reconciled byID (reconcileKillRetry s id run.attempt cause reason cfg now)
  | finished {run : RunAttempt} {iss : Issue} (held : s.running.get? id = some run)
      (known : byID.get? id = some iss) :
      Reconciled byID (releaseClaim s id, [.killWorker id "terminal", .removeWorkspace run.issue.identifier])
  | updated {run : RunAttempt} {iss : Issue} (held : s.running.get? id = some run)
      (known : byID.get? id = some iss) : Reconciled byID (updateIssueSnapshot s id iss, [])

theorem stallOne_reconciled : Reconciled s cfg now id ∅ (stallOne cfg now s id) := by
  unfold stallOne
  cases held : s.running.get? id with
  | none => exact .nothing
  | some =>
    dsimp only
    split
    · exact .retried held errStall "stall"
    · exact .nothing

theorem refreshOne_reconciled (byID : GoMap IssueID Issue) :
    Reconciled s cfg now id byID (refreshOne lower byID cfg now s id) := by
  fun_cases refreshOne lower byID cfg now s id
  · exact .nothing
  · exact .retried ‹_› errNotInRefresh "not-found"
  · exact .finished ‹_› ‹_›
  · exact .updated ‹_› ‹_›
  · exact .retried ‹_› errLeftActiveStates "non-active"

section Sweeps

variable {P : State → Reduced → Prop} (nothing : ∀ s, P s (s, []))
  (followed : ∀ {s r later}, P s r → P r.1 later → P s (later.1, r.2 ++ later.2))

include nothing followed

theorem sweep_rule {α : Type} {f : State → α → Reduced} (each : ∀ s a, P s (f s a)) (items : List α) :
    P s (sweep f items s) := by
  induction items generalizing s with
  | nil => exact nothing s
  | cons a _ ih => exact followed (each s a) (ih (f s a).1)

theorem reduceStall_rule (each : ∀ {s id r}, Reconciled s cfg now id ∅ r → P s r) : P s (reduceStall s cfg now) := by
  unfold reduceStall
  split
  · exact nothing s
  · exact sweep_rule s nothing followed (fun t id => each (stallOne_reconciled t cfg now id)) _

theorem reduceTrackerRefreshed_rule (each : ∀ {s id r}, Reconciled s cfg now id
      (issues.foldl (fun m iss => m.set iss.id iss) (∅ : GoMap IssueID Issue)) r → P s r)
    (requestedIDs : List IssueID) : P s (reduceTrackerRefreshed lower s requestedIDs issues cfg now) :=
  sweep_rule s nothing followed (fun t id => each (refreshOne_reconciled lower t cfg now id _)) _

end Sweeps

theorem updateRun_isSome (f : RunAttempt → RunAttempt) (id' : IssueID) :
    ((updateRun s id f).running.get? id').isSome = (s.running.get? id').isSome := by
  unfold updateRun
  cases held : s.running.get? id with
  | none => rfl
  | some =>
    by_cases same : id' = id
    · simp [same, held]
    · simp [same]

variable {s cfg now id} in
theorem Reconciled.moves {byID : GoMap IssueID Issue} {r : Reduced} (done : Reconciled s cfg now id byID r) :
    Reduces (fun k => k = .stop ∨ k = .finish ∧ (byID.get? id).isSome) s [] r := by
  cases done with
  | nothing => exact .nothing s
  | retried => exact (reconcileKillRetry_moves s cfg now id _ _ _).mono fun _ => .inl
  | finished held known =>
    obtain ⟨running, claimed, retries⟩ := releaseClaim_books s id
    refine .single id (.inr ⟨rfl, by simp [known]⟩) (.of_delete retries) (fun waits dispatches => ?_)
      fun id' waits dispatches other => ?_
    · simpa [running, claimed, retries, held] using Move.finish
    · simp [running, claimed, retries, other]
  | @updated _ iss held =>
    have books : (updateIssueSnapshot s id iss).claimed = s.claimed ∧
        (updateIssueSnapshot s id iss).retryAttempts = s.retryAttempts := by
      simp [updateIssueSnapshot, updateRun, held]
    refine ⟨fun id' waits dispatches => ?_, .of_eq books.2⟩
    have kept : (updateIssueSnapshot s id iss).claimOn id' [] waits dispatches =
        s.claimOn id' [] waits dispatches := by
      unfold State.claimOn
      rw [books.1, books.2, updateIssueSnapshot, updateRun_isSome]
    rw [kept]
    exact .refl

theorem reduceTrackerRefreshed_moves (requestedIDs : List IssueID) (issues : List Issue) :
    Reduces (fun k => k = .stop ∨ k = .finish) s [] (reduceTrackerRefreshed lower s requestedIDs issues cfg now) :=
  reduceTrackerRefreshed_rule lower s cfg now issues .nothing .followed
    (fun done => done.moves.mono fun _ => .imp_right And.left) requestedIDs

theorem reduceTick_moves (configValid : Bool) : Reduces (· = .stop) s [] (reduceTick s configValid cfg now) := by
  have polls : ∀ t, Reduces (· = .stop) t [] (t, pollEffects t configValid) := by
    intro t
    refine ⟨fun id waits dispatches => ?_, .of_eq rfl⟩
    have silent : t.claimOn id (pollEffects t configValid) waits dispatches = t.claimOn id [] waits dispatches := by
      unfold State.claimOn pollEffects
      split <;> cases configValid <;> simp
    rw [silent]
    exact .refl
  have stalls : Reduces (· = .stop) s [] (reduceStall s cfg now) :=
    reduceStall_rule s cfg now .nothing .followed fun done => done.moves.mono (by simp)
  exact stalls.followed (polls _)

/-! ### Candidates -/

theorem claim_moves (iss : Issue) (unqueued : s.retryAttempts.get? iss.id = none)
    {claimed : State} (taken : claim s iss = some claimed) :
    Reduces (· = .claim) s [] (claimed, [.revalidate iss 0]) := by
  obtain ⟨⟨unclaimed, idle⟩, rfl⟩ := claim_eq_some.mp taken
  refine .single iss.id rfl (.of_delete rfl) (fun waits dispatches => ?_) fun id' waits dispatches other => ?_
  · simpa [unclaimed, idle, unqueued] using Move.claim
  · simp [other, other.symm]

variable {lower s cfg} in
theorem Pass.moves {issues chosen : List Issue} {s' : State} {avail : Int} {used : String → Int}
    (pass : Pass lower cfg issues s avail used chosen s')
    (unqueued : ∀ iss ∈ issues, s.retryAttempts.get? iss.id = none) :
    Reduces (· = .claim) s [] (s', chosen.map (.revalidate · 0)) := by
  induction pass with
  | stop => exact .nothing _
  | skip _ _ ih => exact ih (forall_mem_cons.mp unqueued).2
  | take _ _ taken _ ih =>
    obtain ⟨own, others⟩ := forall_mem_cons.mp unqueued
    refine (claim_moves _ _ own taken).followed (ih fun other mem => ?_)
    obtain rfl := (claim_eq_some.mp taken).2
    simp [others other mem]

theorem reduceCandidates_moves (cands : List Issue) :
    Reduces (· = .claim) s [] (reduceCandidates lower s cands cfg) := by
  obtain ⟨chosen, pass, effects⟩ := reduceCandidates_pass lower cfg s cands
  have moves := pass.moves fun iss mem => (eligible_new (mem_eligibles.mp mem).2).2.2
  rwa [← effects] at moves

end Events

/-! ## Activity -/

/-- The state differs in what it notes of its runs, not in which there are. -/
structure State.Steady (s s' : State) : Prop where
  running : ∀ id, (s'.running.get? id).map RunAttempt.issue = (s.running.get? id).map RunAttempt.issue
  claimed : s'.claimed = s.claimed
  retries : s'.retryAttempts = s.retryAttempts

namespace State.Steady

variable {s s' s'' : State} {id : IssueID} {run : RunAttempt}

theorem refl (s : State) : Steady s s := ⟨fun _ => rfl, rfl, rfl⟩

theorem trans (first : Steady s s') (second : Steady s' s'') : Steady s s'' :=
  ⟨fun id => (second.running id).trans (first.running id), second.claimed.trans first.claimed,
    second.retries.trans first.retries⟩

theorem noted (held : s.running.get? id = some run) {run' : RunAttempt}
    (running : s'.running = s.running.set id run') (same : run'.issue = run.issue)
    (claimed : s'.claimed = s.claimed) (retries : s'.retryAttempts = s.retryAttempts) : Steady s s' := by
  refine ⟨fun id' => ?_, claimed, retries⟩
  rw [running, get?_set]
  by_cases this : id' = id
  · rw [if_pos this, this, held, map_some, map_some, same]
  · rw [if_neg this]

theorem updateRun (s : State) (id : IssueID) {f : RunAttempt → RunAttempt}
    (same : ∀ run, (f run).issue = run.issue) : Steady s (updateRun s id f) := by
  unfold Orchestrator.updateRun
  cases held : s.running.get? id with
  | none => exact refl s
  | some run => exact noted held rfl (same run) rfl rfl

theorem recordUsage (s : State) (id : IssueID) (u : Usage) : Steady s (recordUsage s id u) := by
  unfold Orchestrator.recordUsage
  cases held : s.running.get? id with
  | none => exact refl s
  | some => exact noted held rfl rfl rfl rfl

theorem addRuntime (s : State) (id : IssueID) (d : Duration) : Steady s (addRuntime s id d) := by
  unfold Orchestrator.addRuntime
  cases held : s.running.get? id with
  | none => exact refl s
  | some =>
    dsimp only
    split
    · exact refl s
    · exact noted held rfl rfl rfl rfl

theorem updateCodexActivity (s : State) (id : IssueID) (event message : String) (ts : Time) :
    Steady s (updateCodexActivity s id event message ts) :=
  updateRun s id fun _ => rfl

theorem recordRateLimit (s : State) (id : IssueID) (rl : RateLimitSnapshot) : Steady s (recordRateLimit s id rl) :=
  updateRun s id fun _ => rfl

theorem incrementTurnCount (s : State) (id : IssueID) : Steady s (incrementTurnCount s id) :=
  updateRun s id fun _ => rfl

theorem reduceCodexActivity (s : State) (e : EvCodexActivity) : Steady s (reduceCodexActivity s e) := by
  have optional : ∀ {α} {o : Option α} {f : State → α → State} (t : State),
      (∀ t a, Steady t (f t a)) → Steady t (o.elim t (f t)) := by
    intro α o f t each
    cases o with
    | none => exact refl t
    | some a => exact each t a
  unfold Orchestrator.reduceCodexActivity
  refine (updateCodexActivity s e.issueID e.event e.message e.timestamp).trans ?_
  refine (optional (o := e.usage) _ fun t => recordUsage t e.issueID).trans ?_
  refine (optional (o := e.rateLimit) _ fun t => recordRateLimit t e.issueID).trans ?_
  refine (optional (o := e.turnDuration) _ fun t => addRuntime t e.issueID).trans ?_
  split
  · exact incrementTurnCount _ e.issueID
  · exact refl _

theorem isSome (steady : Steady s s') (id : IssueID) :
    (s'.running.get? id).isSome = (s.running.get? id).isSome := by rw [← isSome_map, steady.running id, isSome_map]

theorem claimOn (steady : Steady s s') (id : IssueID) (effs : List Effect) (waits dispatches : Nat) :
    s'.claimOn id effs waits dispatches = s.claimOn id effs waits dispatches := by
  unfold State.claimOn
  rw [steady.isSome, steady.claimed, steady.retries]

end State.Steady

end AgentGrid.Orchestrator
