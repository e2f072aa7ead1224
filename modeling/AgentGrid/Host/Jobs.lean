import AgentGrid.Host.Books
import AgentGrid.Lib.Tickets

/-!
# Jobs and workers

The reducer registers a job before the worker pool has heard of it, the pool runs it, and
the result comes back as an event.  The reducer and the pool form one system: the register
is the desk of a ticket office, the jobs are the tickets on the floor, on their way through
the effects of a reduction, the queue, the workers and the results.
-/

namespace AgentGrid.Host

open AgentGrid.Lib List Option Function GoMap Env

variable {D : Type} {env : Env D} {d : Draw} {s s' : State D} {ev : Event D}
  {effs : List (Effect D)}

/-! ## The pool -/

structure Finished (D : Type) where
  job : JobID × JobInput D
  result : JobResult D
  err : Option String

/-- The worker pool: the queue and the results are bounded channels of the same size. -/
structure Pool (D : Type) where
  (queue running : List (JobID × JobInput D) := [])
  results : List (Finished D) := []

def Pool.capacity : Nat := 64

/-- `Submit`: a job that finds the queue full is dropped. -/
def Pool.submit (pool : Pool D) (job : JobID × JobInput D) : Pool D :=
  if pool.queue.length < Pool.capacity then { pool with queue := pool.queue ++ [job] } else pool

/-- The runner of a capsule job answers with a capsule, every other one with a driver's result. -/
def JobInput.answeredBy : JobInput D → JobResult D → Bool
  | .capsule _, .capsule _ | .driver _, .driver _ => true
  | _, _ => false

/-- What the workers do of themselves: take the first job of the queue, or finish a job when there
is room for its result. -/
inductive Pool.Works (workers : Nat) : Pool D → Pool D → Prop where
  | take {pool : Pool D} {job : JobID × JobInput D} {rest : List (JobID × JobInput D)}
      (first : pool.queue = job :: rest) (idle : pool.running.length < workers) :
      Works workers pool { pool with queue := rest, running := job :: pool.running }
  | finish {pool : Pool D} {job : JobID × JobInput D} {before after : List (JobID × JobInput D)}
      {result : JobResult D} {err : Option String} (runs : pool.running = before ++ job :: after)
      (kind : job.2.answeredBy result = true) (room : pool.results.length < Pool.capacity) : Works workers pool
        { pool with running := before ++ after, results := pool.results ++ [⟨job, result, err⟩] }

/-- The jobs the pool has not delivered a result of. -/
def Pool.outstanding (pool : Pool D) : List (JobID × JobInput D) :=
  pool.queue ++ pool.running ++ pool.results.map Finished.job

/-! ## The reducer and the pool -/

/-- The event loop and the pool, with the effects of the last reduction that are still to be
executed. -/
structure Workshop (D : Type) where
  state : State D
  pending : List (Effect D) := []
  pool : Pool D := {}

def Event.isJobResult : Event D → Bool
  | .jobResult .. => true
  | _ => false

/-- What a step of the workshop is: a reduction with its effects, the execution of one effect, or
work in the pool. -/
inductive WorkLabel (D : Type) where
  | reduced (ev : Event D) (effs : List (Effect D))
  | executed (eff : Effect D) | worked

/-- Executing an effect submits the job it carries, if any. -/
def Pool.execute (pool : Pool D) (eff : Effect D) : Pool D :=
  match eff.job with
  | some job => pool.submit job
  | none => pool

/-- The loop takes the next event once the effects of the last one are executed; results come from
the pool only.  The workers run on their own. -/
inductive Workshop.Step (env : Env D) (workers : Nat) :
    Workshop D → WorkLabel D → Workshop D → Prop where
  | dispatch {w : Workshop D} {ev : Event D} {effs : List (Effect D)} {s' : State D}
      (done : w.pending = []) (other : ev.isJobResult = false)
      (step : Host.Step env w.state (ev, effs) s') : Step env workers w (.reduced ev effs) ⟨s', effs, w.pool⟩
  | deliver {w : Workshop D} {r : Finished D} {rest : List (Finished D)}
      {effs : List (Effect D)} {s' : State D} (done : w.pending = [])
      (first : w.pool.results = r :: rest)
      (step : Host.Step env w.state (.jobResult r.job.1 r.result r.err, effs) s') :
      Step env workers w (.reduced (.jobResult r.job.1 r.result r.err) effs)
        ⟨s', effs, { w.pool with results := rest }⟩
  | execute {w : Workshop D} {eff : Effect D} {rest : List (Effect D)}
      (next : w.pending = eff :: rest) : Step env workers w (.executed eff) ⟨w.state, rest, w.pool.execute eff⟩
  | work {w : Workshop D} {pool : Pool D} (works : w.pool.Works workers pool) :
      Step env workers w .worked { w with pool := pool }

/-- No job is submitted to a full queue and no result is delivered to a daemon that shuts down. -/
@[simp] def Workshop.careful (w : Workshop D) : WorkLabel D → Bool
  | .executed eff => eff.job.isNone || decide (w.pool.queue.length < Pool.capacity)
  | .reduced ev _ => !ev.isJobResult || decide (w.state.lifecycle = .running)
  | .worked => true

def Workshop.CarefulStep (env : Env D) (workers : Nat) (w : Workshop D) (label : WorkLabel D)
    (w' : Workshop D) : Prop :=
  w.Step env workers label w' ∧ w.careful label = true

/-! ## The register as a ticket desk -/

def Roster.desk (r : Roster) : Desk SessionID where
  next := r.nextJobID
  owner id := (r.jobs.get? id).map JobMeta.sessionID
  locked sid := (r.capsules.get? sid).isSome

def jobTicket : JobID × JobInput D → Nat × Option SessionID
  | (id, .capsule input) => (id, some input.sessionID)
  | (id, .driver _) => (id, none)

theorem jobTicket_fst (job : JobID × JobInput D) : (jobTicket job).1 = job.1 := by
  obtain ⟨id, input⟩ := job
  cases input <;> rfl

theorem map_fst_jobTicket (jobs : List (JobID × JobInput D)) :
    (jobs.map jobTicket).map Prod.fst = jobs.map Prod.fst := by
  rw [List.map_map]
  exact map_congr_left fun job _ => jobTicket_fst job

theorem Roster.owner_set (r : Roster) (id : JobID) (job : JobMeta) (n : JobID) :
    ((r.jobs.set id job).get? n).map JobMeta.sessionID =
      if n = id then some job.sessionID else (r.jobs.get? n).map JobMeta.sessionID := by
  rw [get?_set]
  split <;> rfl

theorem Roster.desk_register (r : Roster) (job : JobMeta) :
    (r.register job).desk = r.desk.issue job.sessionID none := by
  unfold Roster.desk Desk.issue
  congr 1
  · funext n
    rw [update_apply]
    exact r.owner_set _ _ _

theorem Roster.desk_register_capsule (r : Roster) (job : JobMeta) (digest : String) :
    ({ r.register job with capsules := r.capsules.set job.sessionID digest } : Roster).desk =
      r.desk.issue job.sessionID (some job.sessionID) := by
  unfold Roster.desk Desk.issue
  congr 1
  · funext n
    rw [update_apply]
    exact r.owner_set _ _ _
  · funext sid
    rw [get?_set]
    by_cases here : sid = job.sessionID
    · simp [here]
    · have other : ¬ some job.sessionID = some sid := fun same => here (some.inj same).symm
      rw [if_neg here, decide_eq_false other, Bool.false_or]

/-- The drivers start no capsule jobs; those are the reducer's own. -/
def Env.KeepsCapsules (env : Env D) : Prop :=
  ∀ id input, ¬ env.Emits (.startJob id (.capsule input))

variable {r r' : Roster} {jobs : List (JobID × JobInput D)}

theorem Hired.balanced (own : env.KeepsCapsules) (hired : Hired env r jobs r')
    {floor : List (Nat × Option SessionID)} (balanced : r.desk.Balanced floor) :
    r'.desk.Balanced (jobs.map jobTicket ++ floor) := by
  induction hired generalizing floor with
  | nothing => exact balanced
  | @driver r r' job id input jobs emitted _ ih =>
    have unlocked : jobTicket (r.nextJobID + 1, input) = (r.nextJobID + 1, none) := by
      cases input with
      | capsule capsule => exact absurd emitted (own id capsule)
      | driver => rfl
    have issued := balanced.issue job.sessionID none nofun
    rw [← Roster.desk_register] at issued
    rw [map_cons, unlocked]
    exact (ih issued).perm perm_middle
  | @capsule r r' input fid now jobs idle _ ih =>
    have free : r.desk.locked input.sessionID = false := by
      show (r.capsules.get? input.sessionID).isSome = false
      rw [idle]
      rfl
    have issued := balanced.issue input.sessionID (some input.sessionID) fun t same => some.inj same ▸ ⟨rfl, free⟩
    rw [← Roster.desk_register_capsule r ⟨input.sessionID, fid, now⟩ input.sourceDigest] at issued
    rw [map_cons]
    exact (ih issued).perm perm_middle

theorem Hired.roster_eq (hired : Hired env r [] r') : r' = r := by
  cases hired
  rfl

/-! ## Steps -/

/-- Every job that is under way, from the effects that are to be executed to the results. -/
def Workshop.floor (w : Workshop D) : List (Nat × Option SessionID) :=
  (startedJobs w.pending ++ w.pool.outstanding).map jobTicket

def Workshop.Balanced (w : Workshop D) : Prop := w.state.roster.desk.Balanced w.floor

theorem SurfacesOnly.hired (confined : SurfacesOnly s effs s') (env : Env D) :
    Hired env s.roster (startedJobs effs) s'.roster := by
  rw [confined.jobless, confined.roster]
  exact .nothing

theorem Prepared.hired {e : EvRepository} {r : Reduced D} (prepared : Prepared d s e r) (env : Env D) :
    Hired env s.roster (startedJobs r.2) r.1.roster := by
  obtain ⟨_, roster, quiet⟩ := prepared.aside
  rw [startedJobs_of_unbooked quiet, roster]
  exact .nothing

/-- A reduction of anything but a job result registers the jobs its effects hand out, except for
those of a worktree report. -/
theorem Step.hired (calm : ∀ x, env.EmitsOnWorktree x → x.job = none)
    (other : ev.isJobResult = false) (step : Step env s (ev, effs) s') :
    Hired env s.roster (startedJobs effs) s'.roster := by
  obtain ⟨d, _, booking⟩ := step.booking
  cases booking with
  | routine booked => exact booked.hired
  | subscribe => exact reduceSurfaceSubscribe_surfacesOnly.hired env
  | unsubscribe => exact reduceSurfaceUnsubscribe_surfacesOnly.hired env
  | closed => exact reduceConnClosed_surfacesOnly.hired env
  | repository _ prepared | creation _ _ prepared => exact prepared.hired env
  | capsuleDone asked | jobDone asked =>
    rw [asked] at other
    cases other
  | spawned _ unreported booked jobless =>
    have lost := unreported.hired
    rw [jobless calm] at lost
    rw [← lost.roster_eq]
    exact booked.hired

variable {result : JobResult D}

/-- A result taken up by the running daemon closes its job's entry and registers what its effects
hand out. -/
theorem Step.hired_after_result {id : JobID} {job : JobMeta} {err : Option String}
    (running : s.lifecycle = .running) (found : s.jobs.get? id = some job)
    (step : Step env s (.jobResult id result err, effs) s') :
    Hired env (s.relieved id job result).roster (startedJobs effs) s'.roster := by
  obtain ⟨d, _, reduced⟩ := step
  unfold reduce at reduced
  rw [running] at reduced
  exact (reduceJobResult_booked found reduced).hired

theorem desk_relieved {job : JobID × JobInput D} {owner : JobMeta} (kind : job.2.answeredBy result = true)
    (its : ∀ sid, (jobTicket job).2 = some sid → owner.sessionID = sid) :
    (s.relieved job.1 owner result).roster.desk = s.roster.desk.close job.1 (jobTicket job).2 := by
  obtain ⟨id, input⟩ := job
  have owners : ∀ n, ((s.jobs.delete id).get? n).map JobMeta.sessionID =
      if n = id then none else (s.jobs.get? n).map JobMeta.sessionID := by
    intro n
    rw [get?_delete]
    split <;> rfl
  cases input with
  | capsule input =>
    cases result with
    | driver => cases kind
    | capsule =>
      have mine := its _ rfl
      unfold Roster.desk Desk.close
      congr 1
      · funext n
        rw [update_apply]
        exact owners n
      · funext sid
        show ((s.capsuleGenerating.delete owner.sessionID).get? sid).isSome = _
        rw [get?_delete, mine]
        by_cases here : sid = input.sessionID
        · simp [here, jobTicket]
        have other : ¬ some input.sessionID = some sid := fun same => here (some.inj same).symm
        rw [if_neg here, jobTicket, decide_eq_false other]
        rfl
  | driver =>
    cases result with
    | capsule => cases kind
    | driver =>
      unfold Roster.desk Desk.close
      congr 1
      funext n
      rw [update_apply]
      exact owners n

variable {workers : Nat} {pool : Pool D}

theorem Pool.Works.outstanding_perm {pool' : Pool D} (works : pool.Works workers pool') :
    pool.outstanding.Perm pool'.outstanding := by
  unfold Pool.outstanding
  cases works with
  | take first =>
    rw [first]
    exact perm_middle.symm.append_right _
  | @finish job before after result err runs _ _ =>
    rw [runs, map_append, map_singleton]
    have last : ∀ l₁ l₂, (l₁ ++ job :: l₂).Perm (l₁ ++ l₂ ++ [job]) :=
      fun _ _ => perm_middle.trans (perm_append_singleton _ _).symm
    simpa only [append_assoc, cons_append] using
      last (pool.queue ++ before) (after ++ pool.results.map Finished.job)

theorem Pool.submit_outstanding (room : pool.queue.length < Pool.capacity)
    (job : JobID × JobInput D) : (job :: pool.outstanding).Perm (pool.submit job).outstanding := by
  unfold Pool.submit Pool.outstanding
  rw [if_pos room, append_assoc, append_assoc, append_assoc]
  exact perm_middle.symm

/-- Every job result in the pool is of the kind its job asks for. -/
def Pool.Answered (pool : Pool D) : Prop :=
  ∀ r ∈ pool.results, r.job.2.answeredBy r.result = true

variable {w w' : Workshop D} {label : WorkLabel D}

theorem Workshop.Step.answered (step : w.Step env workers label w') (answered : w.pool.Answered) :
    w'.pool.Answered := by
  cases step with
  | dispatch => exact answered
  | deliver _ first =>
    intro r mem
    exact answered r (first ▸ mem_cons_of_mem _ mem)
  | @execute eff rest _ =>
    intro r mem
    refine answered r ?_
    have same : (w.pool.execute eff).results = w.pool.results := by
      unfold Pool.execute Pool.submit
      split
      · split <;> rfl
      · rfl
    exact same ▸ mem
  | work works =>
    cases works with
    | take => exact answered
    | finish _ kind =>
      intro r mem
      rcases mem_append.mp mem with old | new
      · exact answered r old
      · rwa [mem_singleton.mp new]

theorem Workshop.Step.balanced (calm : ∀ x, env.EmitsOnWorktree x → x.job = none)
    (own : env.KeepsCapsules) (step : w.Step env workers label w')
    (careful : w.careful label = true) (answered : w.pool.Answered) (balanced : w.Balanced) : w'.Balanced := by
  unfold Workshop.Balanced Workshop.floor at *
  cases step with
  | dispatch done other step =>
    rw [done] at balanced
    have after := (step.hired calm other).balanced own balanced
    rwa [map_append]
  | @deliver r rest effs s' done first step =>
    have running : w.state.lifecycle = .running := by simpa [Event.isJobResult] using careful
    rw [done] at balanced
    have taken : w.state.roster.desk.Balanced (jobTicket r.job ::
          ({ w.pool with results := rest } : Pool D).outstanding.map jobTicket) := by
      refine balanced.perm ?_
      rw [← map_cons]
      refine List.Perm.map _ ?_
      rw [Pool.outstanding, first, map_cons]
      exact perm_middle
    have registered : w.state.roster.desk.owner r.job.1 ≠ none := by
      refine (taken.open_iff _).mpr ?_
      rw [map_cons, jobTicket_fst]
      exact mem_cons_self
    obtain ⟨owner, found⟩ : ∃ owner, w.state.jobs.get? r.job.1 = some owner := by
      refine ne_none_iff_exists'.mp fun none => registered ?_
      show (w.state.jobs.get? r.job.1).map JobMeta.sessionID = _
      rw [none]
      rfl
    have its : ∀ sid, (jobTicket r.job).2 = some sid → owner.sessionID = sid := by
      intro sid locks
      have held := taken.owned r.job.1 sid (by
        rw [← jobTicket_fst, ← locks]
        exact mem_cons_self)
      have known : (w.state.jobs.get? r.job.1).map JobMeta.sessionID = some sid := held
      rw [found] at known
      exact some.inj known
    have kind := answered r (first ▸ mem_cons_self)
    have closed : (w.state.roster.desk.close (jobTicket r.job).1 (jobTicket r.job).2).Balanced _ :=
      Desk.Balanced.close taken
    rw [jobTicket_fst, ← desk_relieved kind its] at closed
    have after := (step.hired_after_result running found).balanced own closed
    rwa [map_append]
  | @execute eff rest next =>
    rw [next] at balanced
    unfold Pool.execute
    cases carried : eff.job with
    | none =>
      have same : startedJobs (eff :: rest) = startedJobs rest := filterMap_cons_none carried
      rwa [same] at balanced
    | some job =>
      have room : w.pool.queue.length < Pool.capacity := by simpa [carried] using careful
      have same : startedJobs (eff :: rest) = job :: startedJobs rest := filterMap_cons_some carried
      rw [same] at balanced
      refine balanced.perm (List.Perm.map _ ?_)
      exact perm_middle.symm.trans ((Pool.submit_outstanding room job).append_left _)
  | work works => exact balanced.perm (List.Perm.map _ (works.outstanding_perm.append_left _))

/-! ## Numbers -/

/-- No registered job has a number that is still to come. -/
def Roster.Bounded (r : Roster) : Prop := ∀ id, r.jobs.get? id ≠ none → id ≤ r.nextJobID

/-- The register went on to later numbers, and those given out are among them and rise. -/
structure Numbered (r : Roster) (ids : List JobID) (r' : Roster) : Prop where
  rises : r.nextJobID ≤ r'.nextJobID
  increasing : ids.Pairwise (· < ·)
  within : ∀ id ∈ ids, r.nextJobID < id ∧ id ≤ r'.nextJobID
  bounded : r.Bounded → r'.Bounded

theorem Numbered.rest (r : Roster) : Numbered r [] r :=
  ⟨Nat.le_refl _, .nil, nofun, fun held => held⟩

variable {r'' : Roster} {ids : List JobID}

theorem Numbered.skip {lost : List JobID} (first : Numbered r lost r')
    (second : Numbered r' ids r'') : Numbered r ids r'' where
  rises := first.rises.trans second.rises
  increasing := second.increasing
  within id mem := ⟨first.rises.trans_lt (second.within id mem).1, (second.within id mem).2⟩
  bounded held := second.bounded (first.bounded held)

theorem Roster.Bounded.register (bounded : r.Bounded) (job : JobMeta) : (r.register job).Bounded := by
  intro id held
  have held' : (r.jobs.set (r.nextJobID + 1) job).get? id ≠ none := held
  rw [get?_set] at held'
  split at held'
  · rename_i here
    exact Nat.le_of_eq here
  · exact Nat.le_succ_of_le (bounded id held')

theorem Numbered.after (rest : Numbered r' ids r'') (job : JobMeta)
    (next : r'.nextJobID = r.nextJobID + 1) (jobs : r'.jobs = (r.register job).jobs) :
    Numbered r ((r.nextJobID + 1) :: ids) r'' := by
  constructor
  · exact Nat.le_trans (next ▸ Nat.le_succ _) rest.rises
  · exact pairwise_cons.mpr ⟨fun id mem => next ▸ (rest.within id mem).1, rest.increasing⟩
  · intro id mem
    rcases mem_cons.mp mem with rfl | mem
    · exact ⟨Nat.lt_succ_self _, next ▸ rest.rises⟩
    · have later := rest.within id mem
      exact ⟨Nat.lt_trans (next ▸ Nat.lt_succ_self _) later.1, later.2⟩
  · intro bounded
    refine rest.bounded ?_
    rw [Roster.Bounded, next, jobs]
    exact bounded.register job

theorem Hired.numbered (hired : Hired env r jobs r') : Numbered r (jobs.map Prod.fst) r' := by
  induction hired with
  | nothing => exact .rest _
  | driver _ _ ih => exact ih.after _ rfl rfl
  | @capsule _ _ input fid now _ _ _ ih => exact ih.after ⟨input.sessionID, fid, now⟩ rfl rfl

theorem relieved_numbered (s : State D) (id : JobID) (job : JobMeta) (result : JobResult D) :
    Numbered s.roster [] (s.relieved id job result).roster := by
  have fewer : s.roster.Bounded → (s.relieved id job result).roster.Bounded := by
    intro bounded n held
    have next : (s.relieved id job result).roster.nextJobID = s.nextJobID := by cases result <;> rfl
    have jobs : (s.relieved id job result).roster.jobs = s.jobs.delete id := by cases result <;> rfl
    rw [jobs, get?_delete] at held
    rw [next]
    split at held
    · exact absurd rfl held
    · exact bounded n held
  refine ⟨Nat.le_of_eq ?_, .nil, forall_mem_nil _, fewer⟩
  cases result <;> rfl

theorem Step.numbered (step : Step env s (ev, effs) s') :
    Numbered s.roster ((startedJobs effs).map Prod.fst) s'.roster := by
  obtain ⟨d, _, booking⟩ := step.booking
  cases booking with
  | routine booked => exact booked.hired.numbered
  | subscribe => exact (reduceSurfaceSubscribe_surfacesOnly.hired env).numbered
  | unsubscribe => exact (reduceSurfaceUnsubscribe_surfacesOnly.hired env).numbered
  | closed => exact (reduceConnClosed_surfacesOnly.hired env).numbered
  | repository _ prepared | creation _ _ prepared => exact (prepared.hired env).numbered
  | @capsuleDone id result _ job _ _ _ _ _ booked =>
    exact (relieved_numbered s id job (.capsule result)).skip booked.hired.numbered
  | @jobDone id value _ job _ _ _ _ _ booked =>
    exact (relieved_numbered s id job (.driver value)).skip booked.hired.numbered
  | spawned _ unreported booked => exact unreported.hired.numbered.skip booked.hired.numbered

/-! ## Runs -/

def Workshop.start (cfg : Config) : Workshop D := { state := State.new cfg }

/-- The numbers of the jobs a step hands to the pool. -/
def WorkLabel.started : WorkLabel D → List JobID
  | .reduced _ effs => (startedJobs effs).map Prod.fst
  | _ => []

theorem Workshop.Step.numbered (step : w.Step env workers label w') :
    Numbered w.state.roster label.started w'.state.roster := by
  cases step with
  | dispatch _ _ step => exact step.numbered
  | deliver _ _ step => exact step.numbered
  | execute | work => exact .rest _

/-- The register and the pool hold the same jobs, and a session waits for a capsule exactly when a
capsule job of it is outstanding. -/
def Workshop.Conserved (w : Workshop D) : Prop :=
  (∀ id, w.state.jobs.get? id ≠ none ↔ id ∈ w.pool.outstanding.map Prod.fst) ∧
    ∀ sid, w.state.capsuleGenerating.get? sid ≠ none ↔
      ∃ id input, (id, .capsule input) ∈ w.pool.outstanding ∧ input.sessionID = sid

theorem Workshop.Balanced.conserved (balanced : w.Balanced) (done : w.pending = []) : w.Conserved := by
  unfold Workshop.Balanced Workshop.floor at balanced
  rw [done] at balanced
  constructor
  · intro id
    have entry := balanced.open_iff id
    rw [map_fst_jobTicket] at entry
    have held : w.state.roster.desk.owner id ≠ none ↔ w.state.jobs.get? id ≠ none := map_eq_none_iff.not
    exact held.symm.trans entry
  · intro sid
    have lock := balanced.locked_iff sid
    have held : w.state.capsuleGenerating.get? sid ≠ none ↔ w.state.roster.desk.locked sid = true :=
      isSome_iff_ne_none.symm
    rw [held, lock, List.map_map]
    constructor
    · intro mem
      obtain ⟨⟨id, input⟩, out, locks⟩ := List.mem_map.mp mem
      cases input with
      | capsule input => exact ⟨id, input, out, some.inj locks⟩
      | driver => cases locks
    · rintro ⟨id, input, out, rfl⟩
      exact List.mem_map.mpr ⟨(id, .capsule input), out, rfl⟩

variable {cfg : Config} {labels : List (WorkLabel D)}

theorem Workshop.balanced_of_careful (calm : ∀ x, env.EmitsOnWorktree x → x.job = none)
    (own : env.KeepsCapsules) (run : Run (Workshop.CarefulStep env workers) (.start cfg) labels w) : w.Balanced := by
  have both := run.invariant (fun w => w.pool.Answered ∧ w.Balanced) ⟨nofun, ?_⟩ ?_
  · exact both.2
  · exact ⟨nofun, fun n => ⟨absurd rfl, nofun⟩, .nil, fun t => ⟨nofun, nofun⟩, fun t => Nat.zero_le _, nofun⟩
  · rintro w label w' ⟨answered, balanced⟩ ⟨step, careful⟩
    exact ⟨step.answered answered, step.balanced calm own careful answered balanced⟩

theorem Workshop.numbered_of_run (run : Run (Workshop.Step env workers) (.start cfg) labels w) :
    w.state.roster.Bounded ∧ (labels.flatMap WorkLabel.started).Pairwise (· < ·) ∧
      ∀ id ∈ labels.flatMap WorkLabel.started, id ≤ w.state.roster.nextJobID := by
  induction run with
  | refl => exact ⟨fun id held => absurd rfl held, .nil, nofun⟩
  | snoc _ step ih =>
    obtain ⟨bounded, rising, below⟩ := ih
    have numbered := step.numbered
    rw [flatMap_append, flatMap_singleton]
    refine ⟨numbered.bounded bounded, pairwise_append.mpr ⟨rising, numbered.increasing, ?_⟩, ?_⟩
    · intro old mem new mem'
      exact Nat.lt_of_le_of_lt (below old mem) (numbered.within new mem').1
    · intro id mem
      rcases mem_append.mp mem with old | new
      · exact Nat.le_trans (below id old) numbered.rises
      · exact (numbered.within id new).2

/-- Jobs are conserved between the reducer and the pool.  In every run the numbers handed out rise
and no registered number is still to come.  In a careful run, whenever the effects of the last
reduction are executed, the registered jobs are the outstanding ones and the sessions that wait for
a capsule are those with an outstanding capsule job. -/
theorem jobs_conserved (calm : ∀ x, env.EmitsOnWorktree x → x.job = none)
    (own : env.KeepsCapsules) (workers : Nat) (cfg : Config) :
    (∀ labels w, Run (Workshop.Step env workers) (.start cfg) labels w →
      (labels.flatMap WorkLabel.started).Pairwise (· < ·) ∧
        ∀ id, w.state.jobs.get? id ≠ none → id ≤ w.state.nextJobID) ∧
      ∀ labels w, Run (Workshop.CarefulStep env workers) (.start cfg) labels w → w.pending = [] → w.Conserved := by
  constructor
  · intro labels w run
    obtain ⟨bounded, rising, _⟩ := Workshop.numbered_of_run run
    exact ⟨rising, bounded⟩
  · intro labels w run done
    exact (Workshop.balanced_of_careful calm own run).conserved done

/-! ## Two workshops -/

/-- What the loop or a worker is told to do next; the character tags the daemon's draw. -/
inductive WorkInput (D : Type) where
  | event (tag : Char) (ev : Event D) | deliver (tag : Char) | execute | take | finish (result : JobResult D)

/-- Let the workshop do what it is told, with a single worker. -/
def Workshop.advance (env : Env D) (w : Workshop D) : WorkInput D → Option (Workshop D × WorkLabel D)
  | .event tag ev =>
    if w.pending.isEmpty && !ev.isJobResult then
      (Host.advance env w.state (tag, ev)).map fun r => (⟨r.1, r.2, w.pool⟩, .reduced ev r.2)
    else none
  | .deliver tag =>
    match w.pending, w.pool.results with
    | [], r :: rest =>
      (Host.advance env w.state (tag, .jobResult r.job.1 r.result r.err)).map fun next =>
        (⟨next.1, next.2, { w.pool with results := rest }⟩, .reduced (.jobResult r.job.1 r.result r.err) next.2)
    | _, _ => none
  | .execute =>
    match w.pending with
    | [] => none
    | eff :: rest => some (⟨w.state, rest, w.pool.execute eff⟩, .executed eff)
  | .take =>
    match w.pool.queue, w.pool.running with
    | job :: rest, [] => some ({ w with pool := { w.pool with queue := rest, running := [job] } }, .worked)
    | _, _ => none
  | .finish result =>
    match w.pool.running with
    | [job] =>
      if job.2.answeredBy result && decide (w.pool.results.length < Pool.capacity) then
        some ({ w with
              pool :=
                { w.pool with
                  running := [], results := w.pool.results ++ [⟨job, result, none⟩] } },
            .worked)
      else none
    | _ => none

theorem Workshop.advance_step {input : WorkInput D}
    (advanced : w.advance env input = some (w', label)) : w.Step env 1 label w' := by
  revert advanced
  fun_cases w.advance env input <;> intro advanced <;> try cases advanced
  case case1 ready =>
    rw [Bool.and_eq_true, List.isEmpty_iff, Bool.not_eq_true'] at ready
    obtain ⟨r, reduced, same⟩ := map_eq_some_iff.mp advanced
    cases same
    exact .dispatch ready.1 ready.2 (Host.advance_step reduced)
  case case3 results done =>
    obtain ⟨r, reduced, same⟩ := map_eq_some_iff.mp advanced
    cases same
    exact .deliver done results (Host.advance_step reduced)
  case case6.refl next => exact .execute next
  case case7.refl job rest idle queue =>
    have taken : w.pool.Works 1 { w.pool with queue := rest, running := job :: w.pool.running } :=
      .take queue (by rw [idle]; exact Nat.zero_lt_one)
    rw [idle] at taken
    exact .work taken
  case case9.refl job runs answered =>
    rw [Bool.and_eq_true, decide_eq_true_iff] at answered
    have alone : w.pool.running = [] ++ job :: [] := runs
    exact .work (.finish alone answered.1 answered.2)

/-- A driver that asks for a number of jobs at every tick. -/
def Driver.busy (n : Nat) : Driver Unit where
  name := "busy"
  newState _ := some ()
  step ds _ ev := (ds, match ev with | .tick .. => List.replicate n (.startJob 0 (.driver ())) | _ => [])
  status _ := .idle
  prepareLaunch _ _ _ _ := .ok ⟨"", {}, ()⟩

def Env.busy (n : Nat) : Env Unit where
  registry _ := some (Driver.busy n)
  sha256Hex _ := ""

variable {n : Nat}

theorem Env.busy_getDriver {command : String} {drv : Driver Unit}
    (found : (Env.busy n).getDriver command = some drv) : drv = Driver.busy n :=
  (some.inj found).symm

theorem Env.busy_calm {x : Effect Unit} (emitted : (Env.busy n).EmitsOnWorktree x) : x.job = none := by
  obtain ⟨_, drv, _, _, _, _, found, mem⟩ := emitted
  rw [busy_getDriver found] at mem
  cases mem

theorem Env.busy_keepsCapsules (n : Nat) : (Env.busy n).KeepsCapsules := by
  intro id input emitted
  cases emitted with
  | @step _ _ _ _ ev _ found mem =>
    rw [busy_getDriver found] at mem
    cases ev with
    | tick => cases eq_of_mem_replicate mem
    | _ => cases mem
  | bootstrap found boot =>
    rw [busy_getDriver found] at boot
    cases boot

/-- Drive a workshop whose driver asks for a number of jobs at every tick, through steps that pass
a check. -/
def Workshop.replay (n : Nat) (passes : Workshop Unit → WorkLabel Unit → Bool)
    (inputs : List (WorkInput Unit)) : Option (Workshop Unit × List (WorkLabel Unit)) :=
  drive (fun w input => (w.advance (Env.busy n) input).filter fun r => passes w r.2) (.start {}) inputs

theorem Workshop.replay_run (n : Nat) (passes : Workshop Unit → WorkLabel Unit → Bool)
    (inputs : List (WorkInput Unit)) (replayed : (replay n passes inputs).isSome = true) :
    Run (fun w label w' => w.Step (Env.busy n) 1 label w' ∧ passes w label = true) (.start {})
      ((replay n passes inputs).get replayed).2 ((replay n passes inputs).get replayed).1 := by
  refine drive_run ?_ (some_get replayed).symm
  intro w input w' label advanced
  obtain ⟨advanced, passed⟩ := filter_eq_some_iff.mp advanced
  exact ⟨Workshop.advance_step advanced, passed⟩

/-- A client asks for a session, the loop executes the effects and the clock ticks; the daemon
executes the jobs of the tick and the two refreshes that follow. -/
def oneTick (n : Nat) : List (WorkInput Unit) :=
  [.event 'a' (.event 1 "q" (.createSession (.ok { project := "p", command := "x" }))), .execute,
    .event 'b' (.tick 5 1)] ++ List.replicate (n + 2) .execute

/-- A driver's job is registered as long as it is outstanding. -/
theorem ticked_job_conserved : ∃ (labels : List (WorkLabel Unit)) (w : Workshop Unit),
      Run (Workshop.CarefulStep (Env.busy 1) 1) (.start {}) labels w ∧ w.Conserved ∧
        w.pool.outstanding.map Prod.fst = [1] := by
  have run := Workshop.replay_run 1 Workshop.careful (oneTick 1 ++ [.take]) rfl
  have conserved := (jobs_conserved (fun _ => busy_calm) (busy_keepsCapsules 1) 1 {}).2
  exact ⟨_, _, run, conserved _ _ run rfl, rfl⟩

/-- A result that comes back while the daemon tries to shut down is dropped: when the attempt fails
and the daemon runs on, the job stays registered for ever.  So does a job that finds the queue
full. -/
theorem dropped_job_registered : (∃ (labels : List (WorkLabel Unit)) (w : Workshop Unit),
      Run (Workshop.Step (Env.busy 1) 1) (.start {}) labels w ∧ w.state.lifecycle = .running ∧
        w.pending = [] ∧ w.state.jobs.get? 1 ≠ none ∧ w.pool.outstanding = []) ∧
      ∃ (labels : List (WorkLabel Unit)) (w : Workshop Unit),
        Run (Workshop.Step (Env.busy 65) 1) (.start {}) labels w ∧
          w.state.lifecycle = .running ∧ w.pending = [] ∧ w.state.jobs.get? 65 ≠ none ∧
          65 ∉ w.pool.outstanding.map Prod.fst := by
  have failed := Workshop.replay_run 1 (fun _ _ => true) (oneTick 1 ++ [.take, .finish (.driver ()),
      .event 'c' (.event 1 "r" (.shutdown (.ok ()))), .execute, .deliver 'd',
      .event 'e' (.shutdownSaveBarrierFailed 1 "x"), .execute, .execute]) rfl
  have full := Workshop.replay_run 65 (fun _ _ => true) (oneTick 65) rfl
  exact ⟨⟨_, _, failed.mono fun _ _ _ step => step.1, rfl, rfl, nofun, rfl⟩,
    ⟨_, _, full.mono fun _ _ _ step => step.1, rfl, rfl, by decide, by decide +kernel⟩⟩

end AgentGrid.Host
