import AgentGrid.Orchestrator.Moves

/-!
# The identifiers of issues

A tracker gives every issue an identifier, under which its workspace is kept.  Every run, and
every issue about to be validated or spawned, has an identifier that the tracker gave it.  The
identifiers that ids may have are a parameter.
-/

namespace AgentGrid.Orchestrator

open AgentGrid.Lib List GoMap

variable (names : IssueID → String → Prop)

/-- The issue has an identifier that its id may have. -/
def Issue.Named (issue : Issue) : Prop := names issue.id issue.identifier

/-- Every run is of an issue with an identifier that its id may have. -/
def State.Named (s : State) : Prop :=
  ∀ id run, s.running.get? id = some run → names id run.issue.identifier

/-- The issue to be dispatched, if the effect dispatches one, is named. -/
@[simp] def Effect.Named : Effect → Prop
  | .revalidate issue _ => issue.Named names
  | .spawn issue _ => issue.Named names
  | _ => True

def Event.Named : Event → Prop
  | .candidatesFetched issues => ∀ issue ∈ issues, issue.Named names
  | .trackerRefreshed _ issues => ∀ issue ∈ issues, issue.Named names
  | .revalidated issue _ _ => issue.Named names
  | .retryResolved _ _ _ issues _ => ∀ issue ∈ issues, issue.Named names
  | .spawned issue _ _ => issue.Named names
  | _ => True

/-- Names are kept, and the effects names what they dispatch. -/
structure NamesKept (s : State) (r : Reduced) : Prop where
  runs : s.Named names → r.1.Named names
  effs : ∀ e ∈ r.2, e.Named names

variable {names} {s s' : State} {id : IssueID}

namespace State.Named

section

variable (named : s.Named names)

include named

theorem of_eq (same : s'.running = s.running) : s'.Named names := by
  intro id run held
  rw [same] at held
  exact named id run held

theorem of_delete (gone : s'.running = s.running.delete id) : s'.Named names := by
  intro id' run held
  rw [gone] at held
  exact named id' run (get?_of_delete held).2

theorem of_set {run : RunAttempt}
    (stored : s'.running = s.running.set id run) (own : names id run.issue.identifier) : s'.Named names := by
  intro id' run' held
  rw [stored] at held
  rcases get?_of_set held with ⟨rfl, rfl⟩ | before
  · exact own
  · exact named id' run' before

theorem updateRun {f : RunAttempt → RunAttempt}
    (own : ∀ run, s.running.get? id = some run → names id (f run).issue.identifier) :
    (updateRun s id f).Named names := by
  unfold Orchestrator.updateRun
  cases held : s.running.get? id with
  | none => exact named
  | some run => exact named.of_set rfl (own run held)

theorem releaseClaim (id : IssueID) : (releaseClaim s id).Named names :=
  named.of_delete (releaseClaim_books s id).1

theorem recordUsage (id : IssueID) (u : Usage) : (recordUsage s id u).Named names := by
  unfold Orchestrator.recordUsage
  cases held : s.running.get? id with
  | none => exact named
  | some run => exact named.of_set rfl (named id run held)

theorem addRuntime (id : IssueID) (d : Duration) : (addRuntime s id d).Named names := by
  unfold Orchestrator.addRuntime
  cases held : s.running.get? id with
  | none => exact named
  | some run =>
    dsimp only
    split
    · exact named
    · exact named.of_set rfl (named id run held)

theorem reduceCodexActivity (e : EvCodexActivity) : (reduceCodexActivity s e).Named names := by
  have active : (updateCodexActivity s e.issueID e.event e.message e.timestamp).Named names :=
    named.updateRun fun run held => named e.issueID run held
  unfold Orchestrator.reduceCodexActivity
  dsimp only
  generalize updateCodexActivity s e.issueID e.event e.message e.timestamp = t at active
  have used : (e.usage.elim t (Orchestrator.recordUsage t e.issueID)).Named names := by
    cases e.usage with
    | none => exact active
    | some u => exact active.recordUsage e.issueID u
  generalize e.usage.elim t (Orchestrator.recordUsage t e.issueID) = t at used
  have limited : (e.rateLimit.elim t (recordRateLimit t e.issueID)).Named names := by
    cases e.rateLimit with
    | none => exact used
    | some => exact used.updateRun fun run held => used e.issueID run held
  generalize e.rateLimit.elim t (recordRateLimit t e.issueID) = t at limited
  have timed : (e.turnDuration.elim t (Orchestrator.addRuntime t e.issueID)).Named names := by
    cases e.turnDuration with
    | none => exact limited
    | some d => exact limited.addRuntime e.issueID d
  generalize e.turnDuration.elim t (Orchestrator.addRuntime t e.issueID) = t at timed
  split
  · exact timed.updateRun fun run held => timed e.issueID run held
  · exact timed

end

end State.Named

namespace NamesKept

variable {r later : Reduced}

theorem nothing (s : State) : NamesKept names s (s, []) :=
  ⟨fun named => named, forall_mem_nil _⟩

theorem followed (first : NamesKept names s r) (second : NamesKept names r.1 later) :
    NamesKept names s (later.1, r.2 ++ later.2) :=
  ⟨fun named => second.runs (first.runs named), forall_mem_append.mpr ⟨first.effs, second.effs⟩⟩

theorem retried (gone : s'.running = s.running.delete id) (entry : RetryEntry) (delay : Duration)
    (now : Time) : NamesKept names s (armRetry s' entry delay now) :=
  ⟨fun named => named.of_delete gone, by simp⟩

theorem released (s : State) (id : IssueID) : NamesKept names s (releaseClaim s id, []) :=
  ⟨fun named => named.releaseClaim id, forall_mem_nil _⟩

end NamesKept

section Events

variable (lower : String → String) (s : State) (cfg : Config) (now : Time)

theorem reconcileKillRetry_named (id : IssueID) (attempt : Int) (cause reason : String) :
    NamesKept names s (reconcileKillRetry s id attempt cause reason cfg now) := by
  unfold reconcileKillRetry workerExitAbnormal
  cases s.running.get? id with
  | none => exact .nothing s
  | some =>
    refine ⟨fun named => named.of_delete rfl, ?_⟩
    simp

variable {s cfg now} in
theorem Reconciled.named {byID : GoMap IssueID Issue} {r : Reduced} (done : Reconciled s cfg now id byID r)
    (known : ∀ iss, byID.get? id = some iss → names id iss.identifier) : NamesKept names s r := by
  cases done with
  | nothing => exact .nothing s
  | retried => exact reconcileKillRetry_named s cfg now id _ _ _
  | finished => exact ⟨fun named => named.releaseClaim id, by simp⟩
  | updated _ found => exact ⟨fun named => named.updateRun fun _ _ => known _ found, forall_mem_nil _⟩

theorem reduceTick_named (configValid : Bool) : NamesKept names s (reduceTick s configValid cfg now) := by
  have polls : ∀ t, NamesKept names t (t, pollEffects t configValid) := by
    intro t
    refine ⟨fun named => named, ?_⟩
    unfold pollEffects
    split <;> cases configValid <;> simp
  exact (reduceStall_rule s cfg now .nothing .followed fun done => done.named nofun).followed (polls _)

variable {issues : List Issue}

theorem get?_byID {m : GoMap IssueID Issue} {iss : Issue}
    (found : (issues.foldl (fun m iss => m.set iss.id iss) m).get? id = some iss) :
    (iss ∈ issues ∧ iss.id = id) ∨ m.get? id = some iss := by
  induction issues generalizing m with
  | nil => exact .inr found
  | cons first rest ih =>
    rcases ih found with ⟨mem, own⟩ | before
    · exact .inl ⟨mem_cons_of_mem _ mem, own⟩
    rcases get?_of_set before with ⟨rfl, rfl⟩ | before
    · exact .inl ⟨mem_cons_self, rfl⟩
    · exact .inr before

theorem byID_named (known : ∀ issue ∈ issues, issue.Named names) (id : IssueID) (iss : Issue)
    (found : (issues.foldl (fun m iss => m.set iss.id iss) (∅ : GoMap IssueID Issue)).get? id =
      some iss) : names id iss.identifier := by
  rcases get?_byID found with ⟨mem, rfl⟩ | before
  · exact known iss mem
  · cases before

theorem reduceTrackerRefreshed_named (requestedIDs : List IssueID) (known : ∀ issue ∈ issues, issue.Named names) :
    NamesKept names s (reduceTrackerRefreshed lower s requestedIDs issues cfg now) :=
  reduceTrackerRefreshed_rule lower s cfg now issues .nothing .followed
    (fun done => done.named (byID_named known _)) requestedIDs

theorem reduceCandidates_named (known : ∀ issue ∈ issues, issue.Named names) :
    NamesKept names s (reduceCandidates lower s issues cfg) := by
  obtain ⟨chosen, pass, effects⟩ := reduceCandidates_pass lower cfg s issues
  refine ⟨fun named => named.of_eq pass.running, ?_⟩
  rw [effects]
  exact forall_mem_map.mpr fun x mem => known x (mem_eligibles.mp (pass.sublist.subset mem)).1

theorem reduceRetryResolved_named (id : IssueID) (identifier : String) (attempt : Int)
    (known : ∀ issue ∈ issues, issue.Named names) (fetchErr : Option String) :
    NamesKept names s (reduceRetryResolved lower s id identifier attempt issues fetchErr cfg now) := by
  refine reduceRetryResolved_rule lower s cfg now id identifier attempt issues
    (fun _ _ => ⟨fun named => named.of_eq rfl, by simp⟩) (.released s id) (fun _ _ _ => .nothing s)
    fun found _ claimed => ⟨fun named => named.of_eq ?_, by simpa using known _ (mem_of_find?_eq_some found)⟩
  rw [claimFromRetry_eq] at claimed
  split at claimed <;> cases claimed
  rfl

theorem reduceWorkerExit_named (id : IssueID) (err : Option String) (attempt : Int) :
    NamesKept names s (reduceWorkerExit s id err attempt cfg now) := by
  unfold reduceWorkerExit workerExitNormal workerExitAbnormal
  cases err <;> cases s.running.get? id
  · exact .nothing s
  · exact .retried rfl _ _ _
  · exact .nothing s
  · exact .retried rfl _ _ _

theorem reduce_named {ev : Event} (known : ev.Named names) : NamesKept names s (reduce lower s ev cfg now) := by
  cases ev with
  | tick configValid => exact reduceTick_named s cfg now configValid
  | candidatesFetched => exact reduceCandidates_named lower s cfg known
  | trackerRefreshed requestedIDs => exact reduceTrackerRefreshed_named lower s cfg now requestedIDs known
  | revalidated issue attempt fresh =>
    unfold reduce reduceRevalidated
    cases fresh with
    | none => exact .released s issue.id
    | some =>
      dsimp only
      split
      · exact ⟨fun named => named, forall_mem_singleton.mpr known⟩
      · exact .released s issue.id
  | retryDue => exact ⟨fun named => named, by simp [reduce]⟩
  | retryResolved issueID identifier attempt issues fetchErr =>
    exact reduceRetryResolved_named lower s cfg now issueID identifier attempt known fetchErr
  | spawned => exact ⟨fun named => named.of_set rfl known, forall_mem_nil _⟩
  | spawnFailed issue => exact .retried (releaseClaim_books s issue.id).1 _ _ _
  | workerExit issueID err attempt => exact reduceWorkerExit_named s cfg now issueID err attempt
  | codexActivity e => exact ⟨fun named => named.reduceCodexActivity e, forall_mem_nil _⟩

end Events

end AgentGrid.Orchestrator
