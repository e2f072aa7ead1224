import AgentGrid.Lib.Tenancy
import AgentGrid.Orchestrator.Claims
import AgentGrid.Orchestrator.Reconcile

/-!
# Workers and their issues

For each issue the scheduler keeps a post: the worker of its run holds it, and the map of workers
has the handle through which it is killed.  A kill only starts the end of a worker, whose exit
comes any time later and carries the id of the issue alone.  As long as no issue is spawned while
a killed worker of it is unfinished, no exit ends the run of another worker, and every run has its
handle.
-/

namespace AgentGrid.Orchestrator

open AgentGrid.Lib List Option GoMap

namespace Shell

variable (w : Shell) (s : State) (id : IssueID)

/-- The workers that are live or whose exit has not been received. -/
def unfinished : List Worker := w.live ++ w.workerDone.map WorkerExit.worker

/-- The worker for which the run of an issue was started, while it runs. -/
def tenant : Option Worker :=
  if w.cur.runs id then w.tenants.get? id else none

def post : Post Worker where
  tenant := w.tenant id
  handle := w.workers.get? id
  orders := w.todo.countP (Effect.kills id)
  around := w.unfinished.filter fun u => decide (u.issue.id = id)
  dismissed := w.killed

/-- A spawn is executed only when the killed workers of its issue have finished. -/
def settled : Label → Bool
  | .exec _ _ =>
    w.todo.head?.all fun e =>
      match e with
      | .spawn issue _ => w.unfinished.all fun u => !decide (u.issue.id = issue.id) || !decide (u ∈ w.killed)
      | _ => true
  | _ => true

structure Staffed (w : Shell) : Prop where
  distinct : w.unfinished.Nodup
  hired : ∀ u ∈ w.unfinished, u.serial < w.nextWorker
  installed : ∀ id, w.cur.runs id = true → (w.tenants.get? id).isSome
  single : ∀ id, (w.post id).Single

variable {lower : String → String} {w w' : Shell} {a : Label}

theorem Staffed.new (cfg : Config) : Staffed (Shell.new cfg) where
  distinct := nodup_nil
  hired _ mem := absurd mem not_mem_nil
  installed _ running := by cases running
  single _ := .unheld []

theorem Staffed.carry (staffed : Staffed w) (culled : ∀ id, (w'.cur.runs id = w.cur.runs id ∧
        w'.todo.countP (Effect.kills id) = w.todo.countP (Effect.kills id)) ∨
      (w.cur.runs id = true ∧ w'.cur.runs id = false ∧
        w'.todo.countP (Effect.kills id) = w.todo.countP (Effect.kills id) + 1))
    (workers : w'.workers = w.workers) (tenants : w'.tenants = w.tenants)
    (killed : w'.killed = w.killed) (count : w'.nextWorker = w.nextWorker)
    (fewer : ∀ u ∈ w'.unfinished, u ∈ w.unfinished) (distinct : w'.unfinished.Nodup) : Staffed w' where
  distinct := distinct
  hired u mem := by
    rw [count]
    exact staffed.hired u (fewer u mem)
  installed id running := by
    rw [tenants]
    rcases culled id with ⟨same, _⟩ | ⟨_, stopped, _⟩
    · exact staffed.installed id (same.symm.trans running)
    · cases stopped.symm.trans running
  single id := by
    have around : ∀ v ∈ (w'.post id).around, v ∈ (w.post id).around := by
      intro v mem
      obtain ⟨here, own⟩ := mem_filter.mp mem
      exact mem_filter.mpr ⟨fewer v here, own⟩
    have handle : (w'.post id).handle = (w.post id).handle := by simp only [post, workers]
    have dismissed : ∀ v ∈ (w.post id).dismissed, v ∈ (w'.post id).dismissed := by
      simp only [post, killed]
      exact fun _ mem => mem
    rcases culled id with ⟨same, orders⟩ | ⟨ran, stopped, orders⟩
    · refine (staffed.single id).kept ?_ handle orders around dismissed
      simp only [post, tenant, same, tenants]
    obtain ⟨u, held⟩ := isSome_iff_exists.mp (staffed.installed id ran)
    have tenanted : (w.post id).tenant = some u := by simp only [post, tenant, ran, if_true, held]
    refine ((staffed.single id).vacate tenanted).kept ?_ handle orders around dismissed
    simp only [post, tenant, stopped, Bool.false_eq_true, if_false]

theorem Staffed.same (staffed : Staffed w) (runs : ∀ id, w'.cur.runs id = w.cur.runs id)
    (kills : ∀ id, w'.todo.countP (Effect.kills id) = w.todo.countP (Effect.kills id))
    (workers : w'.workers = w.workers) (tenants : w'.tenants = w.tenants)
    (killed : w'.killed = w.killed) (count : w'.nextWorker = w.nextWorker)
    (live : w'.live = w.live) (workerDone : w'.workerDone = w.workerDone) : Staffed w' := by
  have unfinished : w'.unfinished = w.unfinished := by
    unfold Shell.unfinished
    rw [live, workerDone]
  refine staffed.carry (fun id => .inl ⟨runs id, kills id⟩) workers tenants killed count ?_ ?_
  · rw [unfinished]
    exact fun _ mem => mem
  · rw [unfinished]
    exact staffed.distinct

variable {rest : List Effect}

theorem Staffed.culled (staffed : Staffed w) {r : State × List Effect} (culls : Culls w.cur r)
    (cur : w'.cur = r.1) (todo : w'.todo = r.2 ++ rest)
    (left : ∀ id, rest.countP (Effect.kills id) = w.todo.countP (Effect.kills id))
    (workers : w'.workers = w.workers) (tenants : w'.tenants = w.tenants)
    (killed : w'.killed = w.killed) (count : w'.nextWorker = w.nextWorker)
    (unfinished : w'.unfinished = w.unfinished) : Staffed w' := by
  refine staffed.carry (fun id => ?_) workers tenants killed count ?_ ?_
  · rw [cur, todo, countP_append, left]
    rcases culls id with ⟨same, none_killed⟩ | ⟨ran, stopped, one_killed⟩
    · exact .inl ⟨same, by rw [none_killed, Nat.zero_add]⟩
    · exact .inr ⟨ran, stopped, by rw [one_killed, Nat.add_comm]⟩
  · rw [unfinished]
    exact fun _ mem => mem
  · rw [unfinished]
    exact staffed.distinct

/-! ## Kills, hires and exits -/

theorem Staffed.kill (staffed : Staffed w) {issueID : IssueID} {reason : String}
    (next : w.todo = .killWorker issueID reason :: rest) :
    Staffed ({ w with todo := rest }.execKillWorker issueID) where
  distinct := staffed.distinct
  hired := staffed.hired
  installed := staffed.installed
  single id := by
    by_cases same : id = issueID
    · subst same
      have orders : (w.post id).orders = rest.countP (Effect.kills id) + 1 := by simp [post, next]
      refine ((staffed.single id).dismiss orders).kept rfl ?_ rfl (fun _ mem => mem) fun _ mem => mem
      exact get?_delete_self w.workers id
    refine (staffed.single id).kept rfl ?_ ?_ (fun _ mem => mem) fun _ mem => mem_append_right _ mem
    · exact get?_delete_of_ne w.workers same
    · simp [post, next, execKillWorker, Ne.symm same]

variable {i : Nat} {e : WorkerExit}

theorem received_perm (held : w.workerDone[i]? = some e) : w.unfinished.Perm
      (e.worker :: { w with workerDone := w.workerDone.eraseIdx i }.unfinished) := by
  obtain ⟨bound, rfl⟩ := List.getElem?_eq_some_iff.mp held
  have taken := ((getElem_cons_eraseIdx_perm bound).map WorkerExit.worker).symm
  exact (taken.append_left w.live).trans perm_middle

variable {u : Worker}

theorem exited_perm (held : w.live[i]? = some u) :
    w.unfinished.Perm (u :: { w with live := w.live.eraseIdx i }.unfinished) := by
  obtain ⟨bound, rfl⟩ := List.getElem?_eq_some_iff.mp held
  exact (getElem_cons_eraseIdx_perm bound).symm.append_right _

theorem reduceWorkerExit_runs (err : Option String) (attempt : Int) (cfg : Config) (now : Time)
    (id' : IssueID) : (reduceWorkerExit s id err attempt cfg now).1.runs id' =
      if id' = id then false else s.runs id' := by
  unfold reduceWorkerExit workerExitNormal workerExitAbnormal State.runs
  by_cases same : id' = id
  · subst same
    cases held : s.running.get? id' <;> cases err <;>
      simp [held]
  · cases s.running.get? id <;> cases err <;>
      simp [get?_delete, same]

variable {id : IssueID}

theorem reduceWorkerExit_frame {id' : IssueID} (other : id' ≠ id) (err : Option String)
    (attempt : Int) (cfg : Config) (now : Time) :
    (reduceWorkerExit s id err attempt cfg now).1.running.get? id' = s.running.get? id' ∧
      (reduceWorkerExit s id err attempt cfg now).1.retryAttempts.get? id' = s.retryAttempts.get? id' ∧
      ∀ eff ∈ (reduceWorkerExit s id err attempt cfg now).2, eff.waitsFor id' = false := by
  unfold reduceWorkerExit workerExitNormal workerExitAbnormal
  cases s.running.get? id <;> cases err <;>
    simp [get?_delete, get?_set, other, other.symm]

theorem handleWorkerDone_runs (w : Shell) (e : WorkerExit) (reload : Option Config) (now : Time)
    (id : IssueID) : (w.handleWorkerDone lower e reload now).cur.runs id =
      if id = e.worker.issue.id then false else w.cur.runs id :=
  reduceWorkerExit_runs w.cur e.worker.issue.id e.err e.worker.attempt (w.reloadConfig reload) now id

theorem Staffed.receive (staffed : Staffed w) (idle : w.todo = [])
    (held : w.workerDone[i]? = some e) (reload : Option Config) (now : Time) : Staffed
      ({ w with workerDone := w.workerDone.eraseIdx i }.handleWorkerDone lower e reload now) := by
  have perm := received_perm held
  have distinct := nodup_cons.mp (perm.nodup_iff.mp staffed.distinct)
  have here := perm.mem_iff.mpr mem_cons_self
  have before : ∀ u ∈ { w with workerDone := w.workerDone.eraseIdx i }.unfinished,
      u ∈ w.unfinished ∧ u ≠ e.worker := by
    intro u mem
    refine ⟨perm.mem_iff.mpr (mem_cons_of_mem _ mem), ?_⟩
    rintro rfl
    exact distinct.1 mem
  have orders : ∀ id, ((reduceWorkerExit w.cur e.worker.issue.id e.err e.worker.attempt
      (w.reloadConfig reload) now).2 ++ w.todo).countP (Effect.kills id) = 0 := by
    intro id
    rw [idle, append_nil]
    exact countP_kills_of_serves (reduceWorkerExit_emits _ _ _ _ _ _) id
  have decided : ∀ id, w.todo.countP (Effect.kills id) = 0 := by simp [idle]
  refine ⟨distinct.2, fun u mem => staffed.hired u (before u mem).1, fun id running => ?_, fun id => ?_⟩
  · refine staffed.installed id ?_
    rw [handleWorkerDone_runs] at running
    split at running
    · cases running
    · exact running
  · by_cases same : id = e.worker.issue.id
    · subst same
      have resigned := (staffed.single e.worker.issue.id).resign (decided _)
        (mem_filter.mpr ⟨here, decide_eq_true rfl⟩)
        ({ w with workerDone := w.workerDone.eraseIdx i }.unfinished.filter
          fun u => decide (u.issue.id = e.worker.issue.id))
        fun v mem => by
          obtain ⟨around, own⟩ := mem_filter.mp mem
          exact ⟨mem_filter.mpr ⟨(before v around).1, own⟩, (before v around).2⟩
      refine resigned.kept ?_ (get?_delete_self _ _) (orders _) (fun _ mem => mem) fun _ mem => mem
      exact if_neg (by rw [handleWorkerDone_runs, if_pos rfl]; exact Bool.false_ne_true)
    · refine (staffed.single id).kept ?_ (get?_delete_of_ne _ same) ?_ ?_ fun _ mem => mem
      · simp only [post, tenant, handleWorkerDone_runs, if_neg same]
        rfl
      · exact (orders id).trans (decided id).symm
      · intro v mem
        obtain ⟨around, own⟩ := mem_filter.mp mem
        exact mem_filter.mpr ⟨(before v around).1, own⟩

theorem markRunning_runs (issue : Issue) (attempt : Int) (session : LiveSession) (id : IssueID) :
    (markRunning s issue attempt session).runs id = if id = issue.id then true else s.runs id := by
  rw [markRunning, State.runs, get?_set]
  split <;> rfl

theorem hired_perm (w : Shell) (issue : Issue) (attempt : Int) :
    (w.hire issue attempt).unfinished.Perm (w.newWorker issue attempt :: w.unfinished) := by
  rw [unfinished, hire, append_assoc]
  exact perm_middle

theorem Staffed.nobody (staffed : Staffed w) (idle : w.cur.runs id = false)
    (decided : w.todo.countP (Effect.kills id) = 0) (gone : ∀ u ∈ w.unfinished, u.issue.id = id → u ∉ w.killed) :
    w.unfinished.filter (fun u => decide (u.issue.id = id)) = [] := by
  have vacant : (w.post id).tenant = none := by simp only [post, tenant, idle, Bool.false_eq_true, if_false]
  refine (staffed.single id).nobody vacant decided fun v mem => ?_
  obtain ⟨here, own⟩ := mem_filter.mp mem
  exact gone v here (of_decide_eq_true own)

variable {issue : Issue} {attempt : Int}

theorem Staffed.hire (staffed : Staffed w) {session : LiveSession} (now : Time)
    (idle : w.cur.runs issue.id = false) (decided : w.todo.countP (Effect.kills issue.id) = 0)
    (gone : ∀ u ∈ w.unfinished, u.issue.id = issue.id → u ∉ w.killed) :
    Staffed ((w.hire issue attempt).step lower (.spawned issue attempt session) now) := by
  have nobody := staffed.nobody idle decided gone
  have perm := w.hired_perm issue attempt
  have runs := markRunning_runs w.cur issue attempt session
  refine ⟨?_, fun u mem => ?_, fun id running => ?_, fun id => ?_⟩
  · refine perm.nodup_iff.mpr (nodup_cons.mpr ⟨fun mem => ?_, staffed.distinct⟩)
    exact Nat.lt_irrefl _ (staffed.hired _ mem)
  · rcases mem_cons.mp (perm.mem_iff.mp mem) with rfl | before
    · exact Nat.lt_succ_self _
    · exact Nat.lt_succ_of_lt (staffed.hired u before)
  · by_cases same : id = issue.id
    · subst same
      exact isSome_iff_exists.mpr ⟨_, get?_set_self _ _ _⟩
    · have ran := (runs id).symm.trans running
      rw [if_neg same] at ran
      exact (congrArg Option.isSome (get?_set_of_ne _ same _)).trans (staffed.installed id ran)
  · by_cases same : id = issue.id
    · subst same
      refine (Post.Single.appoint (w.newWorker issue attempt) w.killed).kept ?_
        (get?_set_self _ _ _) decided ?_ fun _ mem => mem
      · have ran : ((w.hire issue attempt).step lower (.spawned issue attempt session) now).cur.runs
            issue.id = true := (runs issue.id).trans (if_pos rfl)
        have named : ((w.hire issue attempt).step lower (.spawned issue attempt session)
            now).tenants.get? issue.id = some (w.newWorker issue attempt) :=
          get?_set_self _ _ _
        simp only [post, tenant, ran, named, if_true]
      · intro v mem
        obtain ⟨around, own⟩ := mem_filter.mp mem
        rcases mem_cons.mp (perm.mem_iff.mp around) with rfl | before
        · exact mem_singleton_self _
        · have none_left := nobody ▸ mem_filter.mpr ⟨before, own⟩
          cases none_left
    · refine (staffed.single id).kept ?_ (get?_set_of_ne _ same _) rfl ?_ fun _ mem => mem
      · have ran : ((w.hire issue attempt).step lower (.spawned issue attempt session) now).cur.runs
            id = w.cur.runs id := (runs id).trans (if_neg same)
        have kept : ((w.hire issue attempt).step lower (.spawned issue attempt session)
            now).tenants.get? id = w.tenants.get? id := get?_set_of_ne _ same _
        simp only [post, tenant, ran, kept]
      · intro v mem
        obtain ⟨around, own⟩ := mem_filter.mp mem
        rcases mem_cons.mp (perm.mem_iff.mp around) with rfl | before
        · exact absurd (of_decide_eq_true own).symm same
        · exact mem_filter.mpr ⟨before, own⟩

/-! ## Runs -/

theorem Taken.runs_eq (taken : Taken lower w a w') (ledger : Ledger w) (starts : ¬ Starts w a)
    (stops : ¬ Stops w a) (id : IssueID) : w'.cur.runs id = w.cur.runs id := by
  have moves : Moves (fun k => k ≠ .start ∧ k ≠ .stop ∧ k ≠ .finish) (w.claimOn id) (w'.claimOn id) := by
    refine ((taken.advances ledger).moves id).mono fun k permits => ⟨?_, ?_, ?_⟩
    · rintro rfl
      exact starts permits
    · rintro rfl
      exact stops permits
    · rintro rfl
      exact stops permits
  exact moves.running_eq (ledger.sound id)

theorem Staffed.leave (staffed : Staffed w) (held : w.live[i]? = some u) (err : Option String) :
    Staffed ({ w with live := w.live.eraseIdx i }.sendWorkerExit ⟨u, err⟩) := by
  have perm := exited_perm held
  have distinct := perm.nodup_iff.mp staffed.distinct
  unfold sendWorkerExit
  split
  · have sent : ({ w with
        live := w.live.eraseIdx i, workerDone := w.workerDone ++ [(⟨u, err⟩ : WorkerExit)] }.unfinished).Perm
        (u :: { w with live := w.live.eraseIdx i }.unfinished) := by
      rw [unfinished, map_append, ← append_assoc]
      exact perm_append_singleton _ _
    refine staffed.carry (fun id => .inl ⟨rfl, rfl⟩) rfl rfl rfl rfl (fun v mem => ?_) ?_
    · exact perm.mem_iff.mpr (sent.mem_iff.mp mem)
    · exact sent.nodup_iff.mpr distinct
  refine staffed.carry (fun id => .inl ⟨rfl, rfl⟩) rfl rfl rfl rfl (fun v mem => ?_) ?_
  · exact perm.mem_iff.mpr (mem_cons_of_mem _ mem)
  · exact (nodup_cons.mp distinct).2

variable {answer : Answer} {now : Time}

theorem settled_spawn (settled : w.settled (.exec answer now) = true) (next : w.todo = .spawn issue attempt :: rest) :
    ∀ u ∈ w.unfinished, u.issue.id = issue.id → u ∉ w.killed := by
  intro u mem own
  have each := settled
  simp only [Shell.settled, next, head?_cons, all_some, List.all_eq_true,
    Bool.or_eq_true, Bool.not_eq_true', decide_eq_false_iff_not] at each
  exact (each u mem).resolve_left fun other => other own

theorem exec_staffed (ledger : Ledger w) (staffed : Staffed w)
    (settled : w.settled (.exec answer now) = true) {e : Effect} (next : w.todo = e :: rest) :
    Staffed ({ w with todo := rest }.exec lower answer now e) := by
  have taken : Taken lower w (.exec answer now) ({ w with todo := rest }.exec lower answer now e) := .exec next
  have agenda := next ▸ ledger.agenda
  have kills : e.reconciles = false → (∀ ids, e ≠ .refreshTracker ids) → ∀ id,
      ({ w with todo := rest }.exec lower answer now e).todo.countP (Effect.kills id) =
        w.todo.countP (Effect.kills id) := by
    intro unstopping unrefreshing id
    rw [next, agenda.no_kills unstopping unrefreshing id]
    exact countP_kills_of_serves (exec_dispatches agenda unstopping unrefreshing) id
  have runs : (∀ issue attempt, e ≠ .spawn issue attempt) → (∀ ids, e ≠ .refreshTracker ids) →
      ∀ id, ({ w with todo := rest }.exec lower answer now e).cur.runs id = w.cur.runs id := by
    intro unspawning unrefreshing
    refine taken.runs_eq ledger ?_ ?_
    · rintro ⟨_, _, issue, attempt, _, _, _, next', _⟩
      exact unspawning issue attempt (List.cons.inj (next.symm.trans next')).1
    · rintro ⟨ids, _, next'⟩
      exact unrefreshing ids (List.cons.inj (next.symm.trans next')).1
  cases e with
  | fetchCandidates =>
    refine staffed.same (runs nofun nofun) (kills rfl nofun) ?_ ?_ ?_ ?_ ?_ ?_ <;>
      (unfold exec execFetchCandidates; cases answer.candidates <;> rfl)
  | refreshTracker ids =>
    unfold exec execRefreshTracker
    cases answer.refreshed with
    | none => exact staffed.same (fun _ => rfl) (fun _ => by rw [next]; rfl) rfl rfl rfl rfl rfl rfl
    | some issues =>
      exact staffed.culled (reduceTrackerRefreshed_culls lower w.cur w.cfg now ids issues) rfl
        rfl (fun _ => by rw [next]; rfl) rfl rfl rfl rfl rfl
  | revalidate => exact staffed.same (runs nofun nofun) (kills rfl nofun) rfl rfl rfl rfl rfl rfl
  | retryFetch =>
    refine staffed.same (runs nofun nofun) (kills rfl nofun) ?_ ?_ ?_ ?_ ?_ ?_ <;>
      (unfold exec execRetryFetch; cases answer.candidates <;> rfl)
  | spawn issue =>
    have waiting : Staffed { w with todo := rest } :=
      staffed.same (fun _ => rfl) (fun _ => by rw [next]; rfl) rfl rfl rfl rfl rfl rfl
    cases answered : answer.spawned with
    | error =>
      have going := taken.runs_eq ledger
        (by rintro ⟨_, _, _, _, _, _, ⟨⟩, _, started⟩; cases answered.symm.trans started)
        (by rintro ⟨ids, _, next'⟩; cases next.symm.trans next')
      refine staffed.same going (kills rfl nofun) ?_ ?_ ?_ ?_ ?_ ?_ <;>
        (unfold exec execSpawn; rw [answered]; rfl)
    | ok =>
      have idle : w.cur.runs issue.id = false := (ledger.sound issue.id).dispatched_idle (by simp [next])
      have decided := agenda.no_kills rfl nofun issue.id
      have gone := settled_spawn settled next
      rw [exec, execSpawn, answered]
      exact waiting.hire now idle decided gone
  | killWorker => exact staffed.kill next
  | removeWorkspace | armRetryTimer | cancelRetryTimer =>
    exact staffed.same (fun _ => rfl) (fun _ => by rw [next]; rfl) rfl rfl rfl rfl rfl rfl

theorem Taken.staffed (taken : Taken lower w a w') (settled : w.settled a = true)
    (ledger : Ledger w) (staffed : Staffed w) : Staffed w' := by
  have runs := taken.runs_eq ledger
  cases taken with
  | @tick reload now idle =>
    exact staffed.culled (reduceTick_culls w.cur (w.reloadConfig reload) now reload.isSome) rfl
      rfl (fun _ => rfl) rfl rfl rfl rfl rfl
  | @retryFire i reload now req idle held =>
    have going := runs (by rintro ⟨_, _, _, _, _, _, ⟨⟩, _⟩) id
    unfold handleRetryFire at going ⊢
    dsimp only at going ⊢
    split at going
    · rename_i valid
      rw [if_pos valid]
      refine staffed.same going (fun _ => rfl) rfl rfl rfl rfl rfl rfl
    rename_i invalid
    rw [if_neg invalid]
    rw [postpone_eq] at going ⊢
    exact staffed.same going (fun _ => rfl) rfl rfl rfl rfl rfl rfl
  | workerDone idle held => exact staffed.receive idle held _ _
  | @codexActivity activity now idle =>
    exact staffed.same (State.Steady.reduceCodexActivity w.cur activity).isSome (fun _ => rfl)
      rfl rfl rfl rfl rfl rfl
  | exec next => exact exec_staffed ledger staffed settled next
  | fire => exact staffed.same (fun _ => rfl) (fun _ => rfl) rfl rfl rfl rfl rfl rfl
  | @exit i err worker held => exact staffed.leave held err

end Shell

/-- In a run whose spawns wait for the killed workers of their issues, every issue has one
worker at a time. -/
theorem staffed_of_run {lower : String → String} {cfg : Config} {labels : List Label} {w : Shell}
    (run : Run (fun w a w' => Shell.Step lower w a w' ∧ w.settled a = true) (Shell.new cfg)
      labels w) : w.Ledger ∧ w.Staffed :=
  run.invariant (fun w => w.Ledger ∧ w.Staffed) ⟨.new cfg, .new cfg⟩
    fun _ _ _ kept step => ⟨step.1.taken.ledger kept.1, step.1.taken.staffed step.2 kept.1 kept.2⟩

/-- Folding a worker's exit touches no attempt and no handle of another worker, and every run
keeps the handle through which its worker is killed. -/
theorem exit_ends_own_attempt {lower : String → String} {cfg : Config} {labels : List Label}
    {w : Shell} (run : Run (fun w a w' => Shell.Step lower w a w' ∧ w.settled a = true)
      (Shell.new cfg) labels w) : (∀ i e reload now w', w.workerDone[i]? = some e →
      Shell.Step lower w (.workerDone i reload now) w' → ∀ id u, u ≠ e.worker → (w.tenant id = some u →
          w'.cur.running.get? id = w.cur.running.get? id ∧
            w'.cur.retryAttempts.get? id = w.cur.retryAttempts.get? id ∧ ∀ eff ∈ w'.todo, eff.waitsFor id = false) ∧
        (w.workers.get? id = some u → w'.workers.get? id = some u)) ∧
    ∀ id, w.cur.runs id = true → ∃ u, w.tenant id = some u ∧ w.workers.get? id = some u := by
  obtain ⟨ledger, staffed⟩ := staffed_of_run run
  refine ⟨fun i e reload now w' held step id u other => ?_, fun id running => ?_⟩
  · cases step.taken with
    | workerDone idle held' =>
      obtain rfl := some.inj (held.symm.trans held')
      by_cases own : id = e.worker.issue.id
      · have single := staffed.single id
        have here : e.worker ∈ (w.post id).around :=
          mem_filter.mpr ⟨(Shell.received_perm held).mem_iff.mpr mem_cons_self, decide_eq_true own.symm⟩
        have apart : w.tenant id ≠ some u := fun tenant => other (single.eq_tenant tenant here).symm
        refine ⟨fun tenant => absurd tenant apart, fun handle => ?_⟩
        cases tenant : w.tenant id with
        | some t =>
          have named := (single.held t tenant).1
          rw [show (w.post id).handle = some u from handle] at named
          exact absurd (tenant.trans named.symm) apart
        | none =>
          have dropped := single.dropped tenant (by simp [Shell.post, idle])
          rw [show (w.post id).handle = some u from handle] at dropped
          cases dropped
      obtain ⟨running, retries, effs⟩ := Shell.reduceWorkerExit_frame w.cur own e.err
        e.worker.attempt (w.reloadConfig reload) now
      refine ⟨fun _ => ⟨running, retries, fun eff mem => ?_⟩, fun handle => ?_⟩
      · refine effs eff ?_
        have emitted : eff ∈ (reduceWorkerExit w.cur e.worker.issue.id e.err e.worker.attempt
            (w.reloadConfig reload) now).2 ++ w.todo := mem
        rwa [idle, append_nil] at emitted
      · exact (get?_delete_of_ne w.workers own).trans handle
  · obtain ⟨u, installed⟩ := isSome_iff_exists.mp (staffed.installed id running)
    have tenant : w.tenant id = some u := by simp only [Shell.tenant, running, if_true, installed]
    exact ⟨u, tenant, ((staffed.single id).held u tenant).1⟩

/-- A tick that finds the issue gone from the tracker: its worker is killed and the issue queued. -/
def Label.orphan : List Label :=
  [.tick (some Config.sample) 2, .exec { refreshed := some [] } 2, .exec {} 2, .exec {} 2, .exec (.lists []) 2]

/-- The backoff of a queued issue passes and the tracker lists it again, up to its spawn. -/
def Label.redispatch (issue : Issue) : List Label :=
  [.fire 0, .retryFire 0 (some Config.sample) 3, .exec (.lists [issue]) 3, .exec { spawned := .ok {} } 3]

/-- An issue redispatched after its killed worker has finished keeps its new worker killable. -/
theorem redispatched_after_exit_keeps_handle :
    ∃ w labels, Run (fun w a w' => Shell.Step id w a w' ∧ w.settled a = true) (Shell.new Config.sample) labels w ∧
      ∃ u, u.serial = 1 ∧ w.tenant "1" = some u ∧ w.workers.get? "1" = some u := by
  obtain ⟨w, labels, driven, running, serial⟩ : ∃ w labels,
      drive (Shell.advance id Shell.settled) (Shell.new Config.sample)
        (Label.dispatch Issue.sample (.ok {}) ++ Label.orphan ++
          [.exit 0 none, .workerDone 0 (some Config.sample) 2] ++ Label.redispatch Issue.sample) = some (w, labels) ∧
      w.cur.runs "1" = true ∧ (w.tenant "1").map Worker.serial = some 1 :=
    ⟨_, _, rfl, rfl, rfl⟩
  have run := Shell.drive_advance driven
  obtain ⟨u, tenant, handle⟩ := (exit_ends_own_attempt run).2 "1" running
  rw [tenant] at serial
  exact ⟨w, labels, run, u, some.inj serial, tenant, handle⟩

/-- The late exit of a killed worker removes the run and the handle of the worker that replaced
it and queues the issue, while that worker is live and was never killed. -/
theorem late_exit_ends_next_attempt : ∃ w labels u e w', SchedulerRun id Config.sample labels w ∧
      w.workerDone[0]? = some e ∧ u ≠ e.worker ∧ u ∈ w.live ∧ u ∉ w.killed ∧
      w.tenant "1" = some u ∧ w.workers.get? "1" = some u ∧
      Shell.Step id w (.workerDone 0 (some Config.sample) 4) w' ∧
      w'.cur.running.get? "1" = none ∧ w'.workers.get? "1" = none ∧
      (w'.cur.retryAttempts.get? "1").isSome ∧ u ∈ w'.live ∧ u ∉ w'.killed := by
  obtain ⟨w, labels, driven, rest⟩ : ∃ w labels, drive (Shell.advance id fun _ _ => true) (Shell.new Config.sample)
        (Label.dispatch Issue.sample (.ok {}) ++ Label.orphan ++
          Label.redispatch Issue.sample ++ [.exit 0 none]) = some (w, labels) ∧
      ∃ u e w', w.workerDone[0]? = some e ∧ u ≠ e.worker ∧ u ∈ w.live ∧ u ∉ w.killed ∧
        w.tenant "1" = some u ∧ w.workers.get? "1" = some u ∧
        w.apply id (.workerDone 0 (some Config.sample) 4) = some w' ∧
        w'.cur.running.get? "1" = none ∧ w'.workers.get? "1" = none ∧
        (w'.cur.retryAttempts.get? "1").isSome = true ∧ u ∈ w'.live ∧ u ∉ w'.killed :=
    ⟨_, _, rfl, ⟨1, Issue.sample, 1⟩, _, _, rfl, by decide, by decide, by decide, rfl, rfl, rfl,
      rfl, rfl, rfl, by decide, by decide⟩
  obtain ⟨u, e, w', facts⟩ := rest
  exact ⟨w, labels, u, e, w', (Shell.drive_advance driven).mono fun _ _ _ step => step.1, facts⟩

end AgentGrid.Orchestrator
