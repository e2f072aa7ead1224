import AgentGrid.Orchestrator.Names
import AgentGrid.Orchestrator.Workers

/-!
# One authority over an issue and its workspace

A spawn or the removal of a workspace follows a kill in the same run of the scheduler, but a
kill only asks the worker to go.  If both wait for the killed workers they concern, a spawn finds
no live worker of its issue, and a removal, where every issue has a workspace of its own, none of
its workspace.
-/

namespace AgentGrid.Orchestrator

open AgentGrid.Lib List

/-- `sanitizeKey`: the directory of a workspace under the root. -/
def sanitizeKey (s : String) : String :=
  s.map fun r =>
    if ('A' ≤ r ∧ r ≤ 'Z') ∨ ('a' ≤ r ∧ r ≤ 'z') ∨ ('0' ≤ r ∧ r ≤ '9') then r
    else if r = '.' ∨ r = '_' ∨ r = '-' then r
    else '_'

@[simp] def Effect.removes : Effect → Bool
  | .removeWorkspace _ => true
  | _ => false

theorem Effect.removes_of_serves {e : Effect} (serves : e.serves = true) : e.removes = false := by
  cases e with
  | removeWorkspace => cases serves
  | _ => rfl

/-! ## Removals -/

section Removals

variable (names : IssueID → String → Prop)

/-- A workspace is removed when the run of its issue has ended and no kill of it is left. -/
inductive Cleared (s : State) : List Effect → Prop where
  | nil : Cleared s []
  | remove {id : IssueID} {identifier : String} {rest : List Effect} (own : names id identifier)
      (idle : s.runs id = false) (killed : rest.countP (Effect.kills id) = 0) :
      Cleared s rest → Cleared s (.removeWorkspace identifier :: rest)
  | other {e : Effect} {rest : List Effect} (kept : e.removes = false) : Cleared s rest → Cleared s (e :: rest)

/-- No workspace is removed, or that of an issue whose run has just ended, after its kill. -/
def Clears (r : Reduced) : Prop :=
  (∀ e ∈ r.2, e.removes = false) ∨
    ∃ id reason identifier, r.2 = [.killWorker id reason, .removeWorkspace identifier] ∧
      names id identifier ∧ r.1.runs id = false

variable {names} {s : State} {rest : List Effect}

namespace Cleared

theorem append {effs : List Effect} (kept : ∀ e ∈ effs, e.removes = false)
    (later : Cleared names s rest) : Cleared names s (effs ++ rest) := by
  induction effs with
  | nil => exact later
  | cons e effs ih =>
    obtain ⟨first, others⟩ := forall_mem_cons.mp kept
    exact .other first (ih others)

theorem of_kept {effs : List Effect} (kept : ∀ e ∈ effs, e.removes = false) : Cleared names s effs := by
  simpa only [append_nil] using Cleared.append kept .nil

theorem tail {e : Effect} (cleared : Cleared names s (e :: rest)) : Cleared names s rest := by
  cases cleared with
  | remove _ _ _ later => exact later
  | other _ later => exact later

theorem sweep {α : Type} {f : State → α → Reduced} (culls : ∀ s a, Culls s (f s a))
    (keeps : ∀ s a, NamesKept names s (f s a)) (clears : ∀ s a, s.Named names → Clears names (f s a))
    (unkilled : ∀ id, rest.countP (Effect.kills id) = 0) (kept : ∀ e ∈ rest, e.removes = false)
    (items : List α) (s : State) (named : s.Named names) :
    Cleared names (sweep f items s).1 ((sweep f items s).2 ++ rest) := by
  induction items generalizing s with
  | nil => exact of_kept kept
  | cons a items ih =>
    have later := ih (f s a).1 ((keeps s a).runs named)
    rw [Orchestrator.sweep, append_assoc]
    rcases clears s a named with unremoved | ⟨id, reason, identifier, effs, own, stopped⟩
    · exact later.append unremoved
    obtain ⟨idle, killed⟩ := (sweep_rule (f s a).1 .nothing .followed culls items).idle stopped
    have gone : ((Orchestrator.sweep f items (f s a).1).2 ++ rest).countP (Effect.kills id) =
        0 := by rw [countP_append, killed, unkilled]
    rw [effs]
    exact .other rfl (.remove own idle gone later)

end Cleared

end Removals

section Events

variable {names : IssueID → String → Prop} (lower : String → String) (s : State) (cfg : Config)
  (now : Time)

theorem reconcileKillRetry_clears (id : IssueID) (attempt : Int) (cause reason : String) :
    Clears names (reconcileKillRetry s id attempt cause reason cfg now) := by
  unfold reconcileKillRetry workerExitAbnormal
  refine .inl ?_
  cases s.running.get? id with
  | none => exact fun _ mem => absurd mem not_mem_nil
  | some => simp

variable {s cfg now} in
theorem Reconciled.clears {id : IssueID} {byID : GoMap IssueID Issue} {r : Reduced}
    (done : Reconciled s cfg now id byID r) (named : s.Named names) : Clears names r := by
  cases done with
  | nothing | updated => exact .inl fun _ mem => absurd mem not_mem_nil
  | retried => exact reconcileKillRetry_clears s cfg now id _ _ _
  | finished held =>
    refine .inr ⟨id, "terminal", _, rfl, named id _ held, ?_⟩
    simp [(releaseClaim_books s id).1]

theorem reduceTick_cleared (configValid : Bool) (named : s.Named names) :
    Cleared names (reduceTick s configValid cfg now).1 (reduceTick s configValid cfg now).2 := by
  have unkilled : ∀ t id, (pollEffects t configValid).countP (Effect.kills id) = 0 := by
    intro t id
    unfold pollEffects
    split <;> cases configValid <;> rfl
  have kept : ∀ t, ∀ e ∈ pollEffects t configValid, e.removes = false := by
    intro t
    unfold pollEffects
    split <;> cases configValid <;> simp
  unfold reduceTick reduceStall
  split
  · exact .of_kept (kept s)
  refine .sweep (fun t id => (stallOne_reconciled t cfg now id).culls)
    (fun t id => (stallOne_reconciled t cfg now id).named nofun)
    (fun t id named => (stallOne_reconciled t cfg now id).clears named) (unkilled _) (kept _) (sortedRunningIDs s)
    s named

end Events

/-! ## Runs -/

def Label.Named (names : IssueID → String → Prop) : Label → Prop
  | .exec answer _ =>
    (∀ issues, answer.candidates = .ok issues → ∀ issue ∈ issues, issue.Named names) ∧
      ∀ issues, answer.refreshed = some issues → ∀ issue ∈ issues, issue.Named names
  | _ => True

namespace Shell

variable {names : IssueID → String → Prop} {lower : String → String} {w w' : Shell} {a : Label}

/-- Runs, dispatches and live workers are of issues with identifiers that their ids may have. -/
structure Named (names : IssueID → String → Prop) (w : Shell) : Prop where
  runs : w.cur.Named names
  effs : ∀ e ∈ w.todo, e.Named names
  live : ∀ u ∈ w.live, u.issue.Named names

theorem Named.step (named : w.Named names) (ev : Event) (known : ev.Named names) (now : Time) :
    (w.step lower ev now).Named names := by
  have kept := reduce_named lower w.cur w.cfg now known
  exact ⟨kept.runs named.runs, forall_mem_append.mpr ⟨kept.effs, named.effs⟩, named.live⟩

variable {answer : Answer} {now : Time} {e : Effect}

theorem exec_named (named : w.Named names) (known : (Label.exec answer now).Named names) (own : e.Named names) :
    (w.exec lower answer now e).Named names := by
  cases e with
  | fetchCandidates =>
    unfold exec execFetchCandidates
    cases answered : answer.candidates with
    | error => exact named
    | ok cands => exact named.step (.candidatesFetched cands) (known.1 cands answered) now
  | refreshTracker ids =>
    unfold exec execRefreshTracker
    cases answered : answer.refreshed with
    | none => exact named
    | some issues => exact named.step (.trackerRefreshed ids issues) (known.2 issues answered) now
  | revalidate issue attempt => exact named.step (.revalidated issue attempt _) own now
  | retryFetch issueID identifier attempt =>
    unfold exec execRetryFetch
    cases answered : answer.candidates with
    | error err =>
      exact named.step (.retryResolved issueID identifier attempt [] (some err))
        (fun _ mem => absurd mem not_mem_nil) now
    | ok cands => exact named.step (.retryResolved issueID identifier attempt cands none) (known.1 cands answered) now
  | spawn issue attempt =>
    unfold exec execSpawn
    cases answer.spawned with
    | error err => exact named.step (.spawnFailed issue attempt err) trivial now
    | ok session =>
      have hired : (w.hire issue attempt).Named names :=
        ⟨named.runs, named.effs, forall_mem_append.mpr ⟨named.live, forall_mem_singleton.mpr own⟩⟩
      exact hired.step (.spawned issue attempt session) own now
  | _ => exact ⟨named.runs, named.effs, named.live⟩

theorem postpone_running (w : Shell) (id : IssueID) (now : Time) :
    (w.postpone id now).cur.running = w.cur.running := by
  unfold postpone
  cases w.cur.retryAttempts.get? id <;> rfl

theorem Taken.named (taken : Taken lower w a w') (known : a.Named names) (named : w.Named names) :
    w'.Named names := by
  obtain ⟨runs, effs, live⟩ := named
  cases taken with
  | @tick reload now idle =>
    refine Named.step ?_ (.tick reload.isSome) trivial now
    exact ⟨runs, effs, live⟩
  | @retryFire i reload now req idle held =>
    unfold handleRetryFire
    dsimp only
    split
    · refine Named.step ?_ (.retryDue req.issueID req.identifier req.attempt) trivial now
      exact ⟨runs, effs, live⟩
    · rw [postpone_eq]
      exact ⟨runs.of_eq (postpone_running _ _ _), effs, live⟩
  | @workerDone i reload now e idle held =>
    refine Named.step ?_ (.workerExit e.worker.issue.id e.err e.worker.attempt) trivial now
    exact ⟨runs, effs, live⟩
  | @codexActivity activity now idle => exact Named.step ⟨runs, effs, live⟩ (.codexActivity activity) trivial now
  | exec next =>
    rw [next] at effs
    obtain ⟨own, later⟩ := forall_mem_cons.mp effs
    exact exec_named ⟨runs, later, live⟩ known own
  | fire => exact ⟨runs, effs, live⟩
  | @exit i err worker held =>
    have left : ∀ u ∈ w.live.eraseIdx i, u.issue.Named names := fun u mem => live u (mem_of_mem_eraseIdx mem)
    unfold sendWorkerExit
    split <;> exact ⟨runs, effs, left⟩

variable {rest : List Effect}

theorem exec_cleared (agenda : Agenda (e :: rest)) (named : w.cur.Named names)
    (known : (Label.exec answer now).Named names) (cleared : Cleared names w.cur (e :: rest)) :
    Cleared names ({ w with todo := rest }.exec lower answer now e).cur
      ({ w with todo := rest }.exec lower answer now e).todo := by
  have dispatches (unstopping : e.reconciles = false) (unrefreshing : ∀ ids, e ≠ .refreshTracker ids) :
      Cleared names ({ w with todo := rest }.exec lower answer now e).cur
        ({ w with todo := rest }.exec lower answer now e).todo :=
    .of_kept fun f mem => Effect.removes_of_serves (exec_dispatches agenda unstopping unrefreshing f mem)
  cases e with
  | refreshTracker ids =>
    have last := agenda.of_refreshTracker
    unfold exec execRefreshTracker
    cases answered : answer.refreshed with
    | none => exact cleared.tail
    | some issues =>
      refine Cleared.sweep (fun t id => (refreshOne_reconciled lower t w.cfg now id _).culls)
        (fun t id => (refreshOne_reconciled lower t w.cfg now id _).named (byID_named (known.2 issues answered) _))
        (fun t id named => (refreshOne_reconciled lower t w.cfg now id _).clears named) ?_ ?_
        (sortedIDs ids) w.cur named
      · rcases last with rfl | rfl <;> exact fun _ => rfl
      · rcases last with rfl | rfl <;> simp
  | killWorker | removeWorkspace | armRetryTimer => exact cleared.tail
  | _ => exact dispatches rfl nofun

theorem Taken.cleared (taken : Taken lower w a w') (agenda : Agenda w.todo)
    (known : a.Named names) (named : w.cur.Named names) (cleared : Cleared names w.cur w.todo) :
    Cleared names w'.cur w'.todo := by
  cases taken with
  | @tick reload now idle =>
    have ticked := reduceTick_cleared w.cur (w.reloadConfig reload) now reload.isSome named
    unfold Shell.tick step
    dsimp only
    rwa [idle, append_nil]
  | @retryFire i reload now req idle held =>
    unfold handleRetryFire
    dsimp only
    split
    · rw [step, idle]
      exact .other rfl .nil
    · rw [postpone_eq]
      exact idle ▸ .nil
  | workerDone idle =>
    unfold handleWorkerDone step
    dsimp only
    rw [idle, append_nil]
    exact .of_kept fun e mem => Effect.removes_of_serves (reduceWorkerExit_emits _ _ _ _ _ _ e mem)
  | codexActivity idle =>
    rw [step, idle]
    exact .nil
  | exec next =>
    rw [next] at agenda cleared
    exact exec_cleared agenda named known cleared
  | fire => exact cleared
  | exit =>
    unfold sendWorkerExit
    split <;> exact cleared

/-- A spawn waits for the killed workers of its issue, and the removal of a workspace for those
that are live in it. -/
def quiesced (w : Shell) (a : Label) : Bool :=
  w.settled a && match a, w.todo with
    | .exec _ _, .removeWorkspace identifier :: _ =>
      w.live.all fun u => !decide (sanitizeKey u.issue.identifier = sanitizeKey identifier) || !decide (u ∈ w.killed)
    | _, _ => true

variable {identifier : String}

theorem quiesced_remove (quiesced : w.quiesced (.exec answer now) = true)
    (next : w.todo = .removeWorkspace identifier :: rest) :
    ∀ u ∈ w.live, sanitizeKey u.issue.identifier = sanitizeKey identifier → u ∉ w.killed := by
  intro u mem own
  have each := quiesced
  simp only [Shell.quiesced, next, Bool.and_eq_true, all_eq_true, Bool.or_eq_true,
    Bool.not_eq_true', decide_eq_false_iff_not] at each
  exact (each.2 u mem).resolve_left fun other => other own

theorem Staffed.removed (staffed : Staffed w) (cleared : Cleared names w.cur w.todo)
    (next : w.todo = .removeWorkspace identifier :: rest) :
    ∃ id, names id identifier ∧ ∀ u ∈ w.live, u.issue.id = id → u ∈ w.killed := by
  rw [next] at cleared
  cases cleared with
  | @remove id _ _ named idle killed later =>
    refine ⟨id, named, fun u mem own => ?_⟩
    have vacant : (w.post id).tenant = none := by simp only [post, tenant, idle, Bool.false_eq_true, if_false]
    have unordered : (w.post id).orders = 0 := by
      simp only [post, next, countP_cons, killed]
      rfl
    have around : u ∈ (w.post id).around := mem_filter.mpr ⟨mem_append_left _ mem, decide_eq_true own⟩
    rcases (staffed.single id).vacant vacant u around with dismissed | ⟨ordered, _⟩
    · exact dismissed
    · exact absurd unordered (Nat.ne_of_gt ordered)
  | other kept => cases kept

end Shell

/-- Runs, dispatches and workers are of issues as the tracker names them, and a removal follows the
kill of its issue. -/
theorem named_of_run {lower : String → String} {cfg : Config} {labels : List Label} {w : Shell}
    {names : IssueID → String → Prop} (run : Run (fun w a w' => Shell.Step lower w a w' ∧ a.Named names)
      (Shell.new cfg) labels w) : w.Named names ∧ Cleared names w.cur w.todo := by
  have kept : w.Ledger ∧ w.Named names ∧ Cleared names w.cur w.todo := by
    refine run.invariant (fun w => w.Ledger ∧ w.Named names ∧ Cleared names w.cur w.todo)
      ⟨.new cfg, ⟨fun _ _ held => (by cases held), fun _ mem => absurd mem not_mem_nil,
        fun _ mem => absurd mem not_mem_nil⟩, .nil⟩ ?_
    rintro w a w' ⟨ledger, named, cleared⟩ ⟨step, known⟩
    exact ⟨step.taken.ledger ledger, step.taken.named known named,
      step.taken.cleared ledger.agenda known named.runs cleared⟩
  exact kept.2

/-- Spawns and removals that wait for the killed workers they concern find no live worker of
their issue or their workspace. -/
theorem single_authority {lower : String → String} {cfg : Config} {labels : List Label} {w : Shell}
    (run : Run (fun w a w' => Shell.Step lower w a w' ∧ w.quiesced a = true) (Shell.new cfg)
      labels w) {answer : Answer} {now : Time} (quiesced : w.quiesced (.exec answer now) = true) :
    (∀ issue attempt rest, w.todo = .spawn issue attempt :: rest → ∀ u ∈ w.live, u.issue.id ≠ issue.id) ∧
    ∀ names : IssueID → String → Prop,
      (∀ id id' x x', names id x → names id' x' → sanitizeKey x = sanitizeKey x' → id = id') →
      (∀ a ∈ labels, a.Named names) → ∀ identifier rest, w.todo = .removeWorkspace identifier :: rest →
        ∀ u ∈ w.live, sanitizeKey u.issue.identifier ≠ sanitizeKey identifier := by
  have settled : ∀ {w : Shell} {a}, w.quiesced a = true → w.settled a = true :=
    fun met => (Bool.and_eq_true_iff.mp met).1
  obtain ⟨ledger, staffed⟩ := staffed_of_run (run.mono fun _ _ _ step => ⟨step.1, settled step.2⟩)
  refine ⟨fun issue attempt rest next u mem same => ?_,
    fun names distinct named identifier rest next u mem same => ?_⟩
  · have idle : w.cur.runs issue.id = false :=
      (ledger.sound issue.id).dispatched_idle (by simp [Shell.claimOn, State.claimOn, next])
    have agenda := next ▸ ledger.agenda
    have decided : w.todo.countP (Effect.kills issue.id) = 0 := by
      rw [next]
      exact agenda.no_kills rfl (fun _ same => by cases same) issue.id
    have nobody := staffed.nobody idle decided (Shell.settled_spawn (settled quiesced) next)
    have here := nobody ▸ mem_filter.mpr ⟨mem_append_left _ mem, decide_eq_true same⟩
    cases here
  · obtain ⟨agreed, cleared⟩ : w.Named names ∧ Cleared names w.cur w.todo :=
      named_of_run ((run.restrict (fun _ a => a.Named names) fun a mem _ => named a mem).mono
        fun _ _ _ step => ⟨step.1.1, step.2⟩)
    obtain ⟨id, theirs, killed⟩ := staffed.removed cleared next
    have own := distinct _ _ _ _ (agreed.live u mem) theirs same
    exact Shell.quiesced_remove quiesced next u mem same (killed u mem own)

/-- A tick that finds the issue finished, up to the kill of its worker. -/
def Label.finish (issue : Issue) : List Label :=
  [.tick (some Config.sample) 2, .exec { refreshed := some [{ issue with state := "Done" }] } 2, .exec {} 2]

/-- A workspace is removed after the worker that was killed in it has exited. -/
theorem finished_issue_removed_after_exit :
    ∃ w labels, Run (fun w a w' => Shell.Step id w a w' ∧ w.quiesced a = true) (Shell.new Config.sample) labels w ∧
      w.todo.head? = some (.removeWorkspace "ENG-1") ∧
      ∀ u ∈ w.live, sanitizeKey u.issue.identifier ≠ sanitizeKey "ENG-1" := by
  obtain ⟨w, labels, driven, taken, next, quiesced⟩ : ∃ w labels,
      drive (Shell.advance id Shell.quiesced) (Shell.new Config.sample)
        (Label.dispatch Issue.sample (.ok {}) ++ Label.finish Issue.sample ++ [.exit 0 none]) = some (w, labels) ∧
      labels = Label.dispatch Issue.sample (.ok {}) ++ Label.finish Issue.sample ++ [.exit 0 none] ∧
      w.todo = [.removeWorkspace "ENG-1", .fetchCandidates] ∧ w.quiesced (.exec {} 2) = true :=
    ⟨_, _, rfl, rfl, rfl, rfl⟩
  have run := Shell.drive_advance driven
  refine ⟨w, labels, run, by rw [next]; rfl, ?_⟩
  refine (single_authority run quiesced).2 (fun id x => id = "1" ∧ x = "ENG-1") ?_ ?_ "ENG-1" _ next
  · rintro _ _ _ _ ⟨rfl, _⟩ ⟨rfl, _⟩ _
    rfl
  · rw [taken]
    simp [Label.finish, Label.Named, Answer.lists, Issue.sample, Issue.Named]

/-- A spawn is executed while the killed worker of its issue is live, and a workspace removed
while the killed worker in it is. -/
theorem killed_worker_outlives_claim : (∃ w labels, SchedulerRun id Config.sample labels w ∧
      ∃ issue attempt rest u, w.todo = .spawn issue attempt :: rest ∧ u ∈ w.live ∧ u.issue.id = issue.id) ∧
    ∃ w labels, SchedulerRun id Config.sample labels w ∧
      ∃ identifier rest u, w.todo = .removeWorkspace identifier :: rest ∧ u ∈ w.live ∧
        u.issue.identifier = identifier := by
  constructor
  · obtain ⟨w, labels, driven, next, here⟩ : ∃ w labels,
        drive (Shell.advance id fun _ _ => true) (Shell.new Config.sample)
          (Label.dispatch Issue.sample (.ok {}) ++ Label.orphan ++
            (Label.redispatch Issue.sample).dropLast) = some (w, labels) ∧
        w.todo = [.spawn Issue.sample 1] ∧ (⟨0, Issue.sample, 0⟩ : Worker) ∈ w.live :=
      ⟨_, _, rfl, rfl, by decide⟩
    exact ⟨w, labels, (Shell.drive_advance driven).mono fun _ _ _ step => step.1, _, _, _, _, next, here, rfl⟩
  · obtain ⟨w, labels, driven, next, here⟩ : ∃ w labels,
        drive (Shell.advance id fun _ _ => true) (Shell.new Config.sample)
          (Label.dispatch Issue.sample (.ok {}) ++ Label.finish Issue.sample) = some (w, labels) ∧
        w.todo = [.removeWorkspace "ENG-1", .fetchCandidates] ∧ (⟨0, Issue.sample, 0⟩ : Worker) ∈ w.live :=
      ⟨_, _, rfl, rfl, by decide⟩
    exact ⟨w, labels, (Shell.drive_advance driven).mono fun _ _ _ step => step.1, _, _, _, next, here, rfl⟩

end AgentGrid.Orchestrator
