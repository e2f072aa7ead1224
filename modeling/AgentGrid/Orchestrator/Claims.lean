import AgentGrid.Orchestrator.Agenda
import Mathlib.Data.List.Perm.Basic

/-!
# No issue is lost

Every step of the scheduler moves the claim on each issue through the moves of a claim, so in
every run the claims stay in their places: an issue that runs is claimed and not queued, and a
claimed one that does not run is queued or about to be dispatched.  A queued issue has one
timer or one fired request, unless its retry was refused: the claim of an issue whose spawn
failed is gone, and the retry that finds it active again, with a slot, neither takes it nor
lets go of it.
-/

namespace AgentGrid.Orchestrator

open AgentGrid.Lib List GoMap

namespace Shell

variable {lower : String → String} {w w' : Shell} {a : Label}

/-- The timers and the fired requests of an issue. -/
def pending (w : Shell) (id : IssueID) : Nat :=
  w.armed.countP (fun t => decide (t.2.issueID = id)) + w.retryFire.countP fun req => decide (req.issueID = id)

@[simp] def claimOn (w : Shell) (id : IssueID) : Claim := w.cur.claimOn id w.todo (w.pending id) 0

variable {id : IssueID}

theorem claimOn_congr (books : ∀ effs waits dispatches, w'.cur.claimOn id effs waits dispatches =
      w.cur.claimOn id effs waits dispatches) (waits : w'.pending id + w'.todo.countP (Effect.waitsFor id) =
      w.pending id + w.todo.countP (Effect.waitsFor id)) (dispatches : w'.todo.countP (Effect.dispatches id) =
      w.todo.countP (Effect.dispatches id)) : w'.claimOn id = w.claimOn id := by
  unfold claimOn
  rw [books]
  unfold State.claimOn
  rw [waits, dispatches]

/-! ## Timers -/

/-- A timer that the map holds for an issue is a timer of that issue. -/
structure TimersOwned (w : Shell) : Prop where
  started : ∀ t ∈ w.armed, t.1 < w.nextTimer
  held : ∀ id h, w.timers.get? id = some h → h < w.nextTimer
  owned : ∀ id h, w.timers.get? id = some h → ∀ t ∈ w.armed, t.1 = h → t.2.issueID = id

namespace TimersOwned

theorem new (cfg : Config) : TimersOwned (Shell.new cfg) :=
  ⟨forall_mem_nil _, nofun, nofun⟩

theorem fewer (timers : TimersOwned w) (armed : ∀ t ∈ w'.armed, t ∈ w.armed)
    (kept : ∀ id h, w'.timers.get? id = some h → w.timers.get? id = some h)
    (count : w'.nextTimer = w.nextTimer) : TimersOwned w' where
  started t mem := by
    rw [count]
    exact timers.started t (armed t mem)
  held id h found := by
    rw [count]
    exact timers.held id h (kept id h found)
  owned id h found t mem := timers.owned id h (kept id h found) t (armed t mem)

theorem same (timers : TimersOwned w) (armed : w'.armed = w.armed) (held : w'.timers = w.timers)
    (count : w'.nextTimer = w.nextTimer) : TimersOwned w' :=
  timers.fewer (fun _ mem => armed ▸ mem) (fun _ _ found => held ▸ found) count

theorem armTimer (timers : TimersOwned w) (req : RetryFireReq) : TimersOwned (w.armTimer req) := by
  have split : ∀ t ∈ (w.armTimer req).armed, t ∈ w.armed ∨ t = (w.nextTimer, req) := by
    intro t mem
    rcases mem_append.mp mem with before | last
    · exact .inl (mem_of_mem_filter before)
    · exact .inr (mem_singleton.mp last)
  have lookup : ∀ id h, (w.armTimer req).timers.get? id = some h →
      (id = req.issueID ∧ h = w.nextTimer) ∨ w.timers.get? id = some h := by
    intro id h found
    exact get?_of_set found
  refine ⟨fun t mem => ?_, fun id h found => ?_, fun id h found t mem same => ?_⟩
  · rcases split t mem with before | rfl
    · exact Nat.lt_succ_of_lt (timers.started t before)
    · exact Nat.lt_succ_self _
  · rcases lookup id h found with ⟨_, rfl⟩ | before
    · exact Nat.lt_succ_self _
    · exact Nat.lt_succ_of_lt (timers.held id h before)
  · rcases lookup id h found with ⟨rfl, rfl⟩ | before
    · rcases split t mem with old | rfl
      · exact absurd same (Nat.ne_of_lt (timers.started t old))
      · rfl
    · rcases split t mem with old | rfl
      · exact timers.owned id h before t old same
      · exact absurd same.symm (Nat.ne_of_lt (timers.held id h before))

end TimersOwned

theorem armTimer_pending (timers : TimersOwned w) (req : RetryFireReq)
    (unarmed : w.armed.countP (fun t => decide (t.2.issueID = req.issueID)) = 0) (id : IssueID) :
    (w.armTimer req).pending id = w.pending id + if req.issueID = id then 1 else 0 := by
  have kept : w.armed.filter (fun t => decide (w.timers.get? req.issueID ≠ some t.1)) = w.armed := by
    refine filter_eq_self.mpr fun t mem => decide_eq_true fun found => ?_
    have own := timers.owned req.issueID t.1 found t mem rfl
    exact countP_eq_zero.mp unarmed t mem (decide_eq_true own)
  unfold Shell.armTimer pending
  rw [kept, countP_append, countP_singleton]
  simp only [decide_eq_true_eq]
  omega

/-! ## Steps as moves -/

/-- The claims are in their places, and the effects and timers in order. -/
structure Ledger (w : Shell) : Prop where
  agenda : Agenda w.todo
  timers : TimersOwned w
  named : ∀ id entry, w.cur.retryAttempts.get? id = some entry → entry.issueID = id
  sound : ∀ id, (w.claimOn id).Sound

/-- A retry that finds its issue active, and a slot for it, but cannot claim it. -/
def Refuses (lower : String → String) (w : Shell) (a : Label) : Prop :=
  ∃ answer now id identifier attempt rest cands,
    a = .exec answer now ∧ w.todo = .retryFetch id identifier attempt :: rest ∧
      answer.candidates = .ok cands ∧ retryFindsSlot lower w.cur w.cfg id cands = true ∧
      claimFromRetry w.cur id = none

/-- The step executes the fetch of the candidates. -/
def Fetches (w : Shell) (a : Label) : Prop :=
  ∃ answer now rest, a = .exec answer now ∧ w.todo = .fetchCandidates :: rest

def Starts (w : Shell) (a : Label) : Prop :=
  ∃ answer now issue attempt rest session, a = .exec answer now ∧
    w.todo = .spawn issue attempt :: rest ∧ answer.spawned = .ok session

def Stops (w : Shell) : Label → Prop
  | .tick .. => True
  | .workerDone .. => True
  | .exec .. => ∃ ids rest, w.todo = .refreshTracker ids :: rest
  | _ => False

def Permits (lower : String → String) (w : Shell) (a : Label) : MoveKind → Prop
  | .claim => Fetches w a
  | .refuse => Refuses lower w a
  | .start => Starts w a
  | .stop => Stops w a
  | .finish => Stops w a
  | _ => True

theorem permits_ofRetry {k : MoveKind} {refused : Prop} (kind : k.ofRetry refused)
    (refuses : refused → Refuses lower w a) : Permits lower w a k := by
  cases k with
  | refuse => exact refuses kind
  | requeue | drop | redispatch => trivial
  | _ => cases kind

/-- A step advances the claim on every issue, and keeps retry entries under their names. -/
structure Advances (allowed : MoveKind → Prop) (w w' : Shell) : Prop where
  moves : ∀ id, Moves allowed (w.claimOn id) (w'.claimOn id)
  names : w.cur.KeepsNames w'.cur

namespace Advances

variable {allowed other : MoveKind → Prop}

theorem still (same : ∀ id, w'.claimOn id = w.claimOn id) (names : w.cur.KeepsNames w'.cur) :
    Advances allowed w w' := by
  refine ⟨fun id => ?_, names⟩
  rw [same id]
  exact .refl

theorem mono (advances : Advances allowed w w') (weaker : ∀ k, allowed k → other k) : Advances other w w' :=
  ⟨fun id => (advances.moves id).mono weaker, advances.names⟩

theorem trans {w'' : Shell} (first : Advances allowed w w') (second : Advances allowed w' w'') :
    Advances allowed w w'' :=
  ⟨fun id => (first.moves id).trans (second.moves id), first.names.trans second.names⟩

theorem step (w v : Shell) (ev : Event) {now : Time} {own : List Effect}
    (reduces : Reduces allowed v.cur own (reduce lower v.cur ev v.cfg now))
    (todo : w.todo = own ++ v.todo) (cur : w.cur = v.cur) (pending : ∀ id, w.pending id = v.pending id) :
    Advances allowed w (v.step lower ev now) := by
  refine ⟨fun id => ?_, ?_⟩
  · unfold claimOn Shell.step
    rw [todo, cur, pending, State.claimOn_append, State.claimOn_append]
    exact reduces.moves id _ _
  · rw [cur]
    exact reduces.names

end Advances

variable {answer : Answer} {now : Time} {rest : List Effect} {issueID : IssueID}
  {identifier : String} {attempt : Int}

theorem execRetryFetch_advances (next : w.todo = .retryFetch issueID identifier attempt :: rest) :
    Advances (Permits lower w (.exec answer now)) w
      ({ w with todo := rest }.execRetryFetch lower issueID identifier attempt answer now) := by
  unfold execRetryFetch
  cases answered : answer.candidates with
  | error err =>
    refine (Advances.step w { w with todo := rest } (.retryResolved issueID identifier attempt [] (some err))
      (reduceRetryResolved_moves lower w.cur w.cfg now issueID identifier attempt [] (some err))
      next rfl fun _ => rfl).mono ?_
    exact fun _ kind => permits_ofRetry kind fun refused => by cases refused.1
  | ok cands =>
    refine (Advances.step w { w with todo := rest } (.retryResolved issueID identifier attempt cands none)
      (reduceRetryResolved_moves lower w.cur w.cfg now issueID identifier attempt cands none)
      next rfl fun _ => rfl).mono ?_
    refine fun _ kind => permits_ofRetry kind fun ⟨_, finds, refused⟩ => ?_
    exact ⟨answer, now, issueID, identifier, attempt, rest, cands, rfl, next, answered, finds, refused⟩

theorem execSpawn_advances {issue : Issue} (next : w.todo = .spawn issue attempt :: rest) :
    Advances (Permits lower w (.exec answer now)) w
      ({ w with todo := rest }.execSpawn lower issue attempt answer now) := by
  unfold execSpawn
  cases answered : answer.spawned with
  | error err =>
    refine (Advances.step w { w with todo := rest } (.spawnFailed issue attempt err)
      (reduceSpawnFailed_moves w.cur w.cfg now issue attempt err) next rfl fun _ => rfl).mono ?_
    rintro _ rfl
    exact trivial
  | ok session =>
    refine (Advances.step w ({ w with todo := rest }.hire issue attempt)
      (.spawned issue attempt session) (markRunning_moves w.cur issue attempt session) next rfl
      fun _ => rfl).mono ?_
    rintro _ rfl
    exact ⟨answer, now, issue, attempt, rest, session, rfl, next, answered⟩

theorem execArm_claimOn (ledger : Ledger w) {delay : Duration}
    (next : w.todo = .armRetryTimer issueID identifier attempt delay :: rest) (id : IssueID) :
    ({ w with todo := rest }.armTimer ⟨issueID, identifier, attempt⟩).claimOn id = w.claimOn id := by
  have unarmed : w.armed.countP (fun t => decide (t.2.issueID = issueID)) = 0 := by
    have once := (ledger.sound issueID).waits_le
    simp only [claimOn, State.claimOn, pending, next, countP_cons, Effect.waitsFor, decide_true, if_true] at once
    omega
  have timers : TimersOwned { w with todo := rest } :=
    ledger.timers.fewer (fun _ mem => mem) (fun _ _ found => found) rfl
  refine claimOn_congr (fun _ _ _ => rfl) ?_ ?_
  · rw [armTimer_pending timers ⟨issueID, identifier, attempt⟩ unarmed id, next, countP_cons]
    simp only [Effect.waitsFor, decide_eq_true_eq]
    exact (Nat.add_right_comm _ _ _).trans (Nat.add_assoc _ _ _)
  · rw [next]
    rfl

variable {e : Effect}

theorem exec_advances (ledger : Ledger w) (next : w.todo = e :: rest) :
    Advances (Permits lower w (.exec answer now)) w ({ w with todo := rest }.exec lower answer now e) := by
  have silent : (∀ id, e.waitsFor id = false ∧ e.dispatches id = false) →
      ∀ id, { w with todo := rest }.claimOn id = w.claimOn id := by
    intro quiet id
    refine claimOn_congr (fun _ _ _ => rfl) ?_ ?_
    · rw [next, countP_cons, (quiet id).1]
      rfl
    · rw [next, countP_cons, (quiet id).2]
      rfl
  have folds : ∀ {allowed} {ev}, (∀ id, e.waitsFor id = false ∧ e.dispatches id = false) →
      Reduces allowed w.cur [] (reduce lower w.cur ev w.cfg now) →
      Advances allowed w ({ w with todo := rest }.step lower ev now) := by
    intro allowed ev quiet reduces
    have first : Advances allowed w { w with todo := rest } := .still (silent quiet) (.of_eq rfl)
    exact first.trans (.step _ { w with todo := rest } ev reduces rfl rfl fun _ => rfl)
  cases e with
  | fetchCandidates =>
    unfold exec execFetchCandidates
    cases answer.candidates with
    | error => exact .still (silent fun _ => ⟨rfl, rfl⟩) (.of_eq rfl)
    | ok cands =>
      refine (folds (fun _ => ⟨rfl, rfl⟩) (reduceCandidates_moves lower w.cur w.cfg cands)).mono ?_
      rintro _ rfl
      exact ⟨answer, now, rest, rfl, next⟩
  | refreshTracker ids =>
    unfold exec execRefreshTracker
    cases answer.refreshed with
    | none => exact .still (silent fun _ => ⟨rfl, rfl⟩) (.of_eq rfl)
    | some issues =>
      refine (folds (fun _ => ⟨rfl, rfl⟩) (reduceTrackerRefreshed_moves lower w.cur w.cfg now ids issues)).mono ?_
      rintro _ (rfl | rfl) <;> exact ⟨ids, rest, next⟩
  | revalidate issue attempt =>
    refine (Advances.step w { w with todo := rest } (.revalidated issue attempt _)
      (reduceRevalidated_moves lower w.cur w.cfg issue attempt _) next rfl fun _ => rfl).mono ?_
    rintro _ rfl
    exact trivial
  | retryFetch => exact execRetryFetch_advances next
  | spawn => exact execSpawn_advances next
  | killWorker | removeWorkspace => exact .still (silent fun _ => ⟨rfl, rfl⟩) (.of_eq rfl)
  | armRetryTimer => exact .still (execArm_claimOn ledger next) (.of_eq rfl)
  | cancelRetryTimer =>
    have agenda := ledger.agenda
    rw [next] at agenda
    cases agenda with
    | stopping stopping =>
      cases stopping with
      | cons stops => cases stops
    | dispatching serves => cases serves _ mem_cons_self

/-! ## Requests that have fired -/

variable {i : Nat}

theorem countP_eraseIdx {α : Type} {l : List α} {x : α} (held : l[i]? = some x) (p : α → Bool) :
    l.countP p = (l.eraseIdx i).countP p + if p x then 1 else 0 := by
  obtain ⟨bound, rfl⟩ := List.getElem?_eq_some_iff.mp held
  rw [← (getElem_cons_eraseIdx_perm bound).countP_eq, countP_cons]

variable {req : RetryFireReq}

theorem pending_receive (held : w.retryFire[i]? = some req) (id : IssueID) :
    w.pending id = { w with retryFire := w.retryFire.eraseIdx i }.pending id +
      if req.issueID = id then 1 else 0 := by
  have counted := countP_eraseIdx held fun r => decide (r.issueID = id)
  simp only [decide_eq_true_eq] at counted
  unfold pending
  rw [counted, Nat.add_assoc]

theorem fire_claimOn {t : Nat × RetryFireReq} (held : w.armed[i]? = some t) (id : IssueID) :
    { w with armed := w.armed.eraseIdx i, retryFire := w.retryFire ++ [t.2] }.claimOn id = w.claimOn id := by
  have counted := countP_eraseIdx held fun t => decide (t.2.issueID = id)
  refine claimOn_congr (fun _ _ _ => rfl) ?_ rfl
  unfold pending
  dsimp only
  rw [counted, countP_append, countP_singleton]
  omega

theorem postpone_eq (w : Shell) (issueID : IssueID) (now : Time) :
    w.postpone issueID now = { w with cur := (w.postpone issueID now).cur } := by
  unfold postpone
  cases w.cur.retryAttempts.get? issueID <;> rfl

theorem postpone_names (w : Shell) (issueID : IssueID) (now : Time) :
    w.cur.KeepsNames (w.postpone issueID now).cur := by
  unfold postpone
  cases w.cur.retryAttempts.get? issueID with
  | none => exact .of_eq rfl
  | some => exact .of_set rfl

theorem postpone_claimOn (named : ∀ id entry, w.cur.retryAttempts.get? id = some entry →
      entry.issueID = id) (issueID : IssueID) (now : Time) (id : IssueID)
    (effs : List Effect) (waits dispatches : Nat) :
    (w.postpone issueID now).cur.claimOn id effs waits dispatches = w.cur.claimOn id effs waits dispatches := by
  unfold postpone
  cases queued : w.cur.retryAttempts.get? issueID with
  | none => rfl
  | some entry =>
    have own := named issueID entry queued
    by_cases this : id = issueID
    · simp [own, this, queued]
    · simp [own, this, get?_set]

theorem postponed_claimOn (ledger : Ledger w) {v : Shell} (held : w.retryFire[i]? = some req) (taken : v = { w with
      retryFire := w.retryFire.eraseIdx i, timers := w.timers.delete req.issueID }) (id : IssueID) :
    ((v.postpone req.issueID now).armTimer req).claimOn id = w.claimOn id := by
  have received : ∀ id, w.pending id = v.pending id + if req.issueID = id then 1 else 0 := by
    subst taken
    exact pending_receive held
  have unarmed : v.armed.countP (fun t => decide (t.2.issueID = req.issueID)) = 0 := by
    have once := (ledger.sound req.issueID).waits_le
    simp only [claimOn, State.claimOn, received, if_true] at once
    simp only [pending] at once
    omega
  have books := postpone_claimOn (w := v) (by subst taken; exact ledger.named) req.issueID now id
  have timers : TimersOwned (v.postpone req.issueID now) := by
    rw [postpone_eq]
    subst taken
    exact ledger.timers.fewer (fun _ mem => mem) (fun _ _ found => (get?_of_delete found).2) rfl
  refine claimOn_congr (fun effs waits dispatches => ?_) ?_ ?_
  · rw [show ((v.postpone req.issueID now).armTimer req).cur = (v.postpone req.issueID now).cur from rfl, books]
    subst taken
    rfl
  · rw [armTimer_pending timers req (by rwa [postpone_eq]), received, postpone_eq]
    subst taken
    rfl
  · rw [postpone_eq]
    subst taken
    rfl

theorem handleRetryFire_advances {allowed : MoveKind → Prop} (ledger : Ledger w)
    (held : w.retryFire[i]? = some req) (reload : Option Config) (now : Time) :
    Advances allowed w ({ w with retryFire := w.retryFire.eraseIdx i }.handleRetryFire lower req reload now) := by
  unfold handleRetryFire
  split
  · refine .still (fun id => claimOn_congr (fun _ _ _ => rfl) ?_ rfl) (.of_eq rfl)
    rw [pending_receive held id]
    simp only [step, reduce, singleton_append, countP_cons, Effect.waitsFor, decide_eq_true_eq]
    exact (Nat.add_assoc _ _ _).symm.trans (Nat.add_right_comm _ _ _)
  · exact .still (postponed_claimOn ledger held rfl) (postpone_names _ _ _)

/-! ## Runs -/

theorem Taken.advances (taken : Taken lower w a w') (ledger : Ledger w) : Advances (Permits lower w a) w w' := by
  cases taken with
  | @tick reload now idle =>
    refine (Advances.step w { w with
      cfg := w.reloadConfig reload, lastGood := w.reloadConfig reload } (.tick reload.isSome)
      (reduceTick_moves w.cur _ now _) rfl rfl fun _ => rfl).mono ?_
    rintro _ rfl
    exact trivial
  | retryFire idle held => exact handleRetryFire_advances ledger held _ _
  | @workerDone i reload now e idle held =>
    refine (Advances.step w { w with
      workerDone := w.workerDone.eraseIdx i, workers := w.workers.delete e.worker.issue.id
      cfg := w.reloadConfig reload, lastGood := w.reloadConfig reload }
      (.workerExit e.worker.issue.id e.err e.worker.attempt)
      (reduceWorkerExit_moves w.cur _ now _ _ _) rfl rfl fun _ => rfl).mono ?_
    rintro _ rfl
    exact trivial
  | @codexActivity activity now idle =>
    have steady := State.Steady.reduceCodexActivity w.cur activity
    exact .still (fun id => steady.claimOn id w.todo _ _) (.of_eq steady.retries)
  | exec next => exact exec_advances ledger next
  | fire held => exact .still (fire_claimOn held) (.of_eq rfl)
  | @exit i err worker held =>
    unfold sendWorkerExit
    split <;> exact .still (fun _ => rfl) (.of_eq rfl)

theorem exec_timers (timers : TimersOwned w) : TimersOwned (w.exec lower answer now e) := by
  cases e with
  | fetchCandidates =>
    unfold exec execFetchCandidates
    cases answer.candidates <;> exact timers.same rfl rfl rfl
  | refreshTracker =>
    unfold exec execRefreshTracker
    cases answer.refreshed <;> exact timers.same rfl rfl rfl
  | revalidate | killWorker => exact timers.same rfl rfl rfl
  | retryFetch =>
    unfold exec execRetryFetch
    cases answer.candidates <;> exact timers.same rfl rfl rfl
  | spawn =>
    unfold exec execSpawn
    cases answer.spawned <;> exact timers.same rfl rfl rfl
  | removeWorkspace => exact timers
  | armRetryTimer => exact timers.armTimer _
  | cancelRetryTimer =>
    exact timers.fewer (fun _ mem => mem_of_mem_filter mem) (fun _ _ found => (get?_of_delete found).2) rfl

theorem Taken.timers (taken : Taken lower w a w') (timers : TimersOwned w) : TimersOwned w' := by
  cases taken with
  | tick | workerDone | codexActivity => exact timers.same rfl rfl rfl
  | @retryFire i reload now req idle held =>
    unfold handleRetryFire
    split
    · exact timers.fewer (fun _ mem => mem) (fun _ _ found => (get?_of_delete found).2) rfl
    refine TimersOwned.armTimer ?_ req
    rw [postpone_eq]
    exact timers.fewer (fun _ mem => mem) (fun _ _ found => (get?_of_delete found).2) rfl
  | exec => exact exec_timers (timers.same rfl rfl rfl)
  | fire => exact timers.fewer (fun _ mem => mem_of_mem_eraseIdx mem) (fun _ _ found => found) rfl
  | exit =>
    unfold sendWorkerExit
    split <;> exact timers.same rfl rfl rfl

theorem Ledger.new (cfg : Config) : Ledger (Shell.new cfg) where
  agenda := .nil
  timers := .new cfg
  named _ _ found := by cases found
  sound _ := .unclaimed

theorem Taken.ledger (taken : Taken lower w a w') (ledger : Ledger w) : Ledger w' where
  agenda := taken.agenda ledger.agenda
  timers := taken.timers ledger.timers
  named id entry found := by
    rcases (taken.advances ledger).names id entry found with own | before
    · exact own
    · exact ledger.named id entry before
  sound id := ((taken.advances ledger).moves id).sound (ledger.sound id)

/-! ## No issue is lost -/

/-- A retry that finds its issue active, and a slot for it, finds it claimed. -/
def reclaims (lower : String → String) (w : Shell) : Label → Bool
  | .exec answer _ =>
    w.todo.head?.all fun e =>
      match e, answer.candidates with
      | .retryFetch id _ _, .ok cands => !retryFindsSlot lower w.cur w.cfg id cands || (w.cur.claimed.get? id).isSome
      | _, _ => true
  | _ => true

theorem Ledger.not_refuses (ledger : Ledger w) (reclaimed : w.reclaims lower a = true) : ¬ Refuses lower w a := by
  rintro ⟨answer, now, id, identifier, attempt, rest, cands, rfl, next, answered, finds, refused⟩
  have claimed : (w.cur.claimed.get? id).isSome = true := by simpa [reclaims, next, answered, finds] using reclaimed
  have queued : (w.cur.running.get? id).isSome = false ∧ (w.cur.retryAttempts.get? id).isSome = true :=
    (ledger.sound id).queued (by simp [next])
  rw [claimFromRetry_eq, queued.1, queued.2, claimed] at refused
  cases refused

/-- Between two iterations, every issue that is held runs, or is queued and will be retried. -/
structure NothingLost (w : Shell) : Prop where
  running_claimed : ∀ id, (w.cur.running.get? id).isSome → (w.cur.claimed.get? id).isSome
  running_unqueued : ∀ id, (w.cur.running.get? id).isSome → w.cur.retryAttempts.get? id = none
  claimed_held : ∀ id, (w.cur.claimed.get? id).isSome →
    (w.cur.running.get? id).isSome ∨ (w.cur.retryAttempts.get? id).isSome
  queued_pending : ∀ id, (w.cur.retryAttempts.get? id).isSome → w.pending id = 1

theorem Ledger.nothingLost (ledger : Ledger w) (idle : w.todo = [])
    (awaited : ∀ id, (w.claimOn id).Awaited) : NothingLost w where
  running_claimed id running := ((ledger.sound id).of_running running).1
  running_unqueued id running := by
    have unqueued : (w.cur.retryAttempts.get? id).isSome = false := ((ledger.sound id).of_running running).2
    simpa using unqueued
  claimed_held id claimed := (ledger.sound id).of_claimed claimed (by simp [idle])
  queued_pending id queued := by
    have waits := awaited id queued
    simpa [idle] using waits

theorem Taken.awaited (taken : Taken lower w a w') (reclaimed : w.reclaims lower a = true)
    (ledger : Ledger w) (awaited : ∀ id, (w.claimOn id).Awaited) (id : IssueID) : (w'.claimOn id).Awaited := by
  have moves : Moves (· ≠ .refuse) (w.claimOn id) (w'.claimOn id) := by
    refine ((taken.advances ledger).moves id).mono ?_
    rintro k permits rfl
    exact ledger.not_refuses reclaimed permits
  exact moves.awaited (ledger.sound id) (awaited id)

theorem Ledger.stranded_run {labels : List Label} (ledger : Ledger w)
    (here : w.claimOn id = .stranded) (run : Run (Step lower) w labels w') : w'.claimOn id = .stranded := by
  have kept : w'.Ledger ∧ w'.claimOn id = .stranded := by
    refine run.invariant (fun v => v.Ledger ∧ v.claimOn id = .stranded) ⟨ledger, here⟩ ?_
    rintro v a v' ⟨ledger, here⟩ step
    have moves := (step.taken.advances ledger).moves id
    rw [here] at moves
    exact ⟨step.taken.ledger ledger, moves.stranded⟩
  exact kept.2

end Shell

theorem SchedulerRun.ledger {lower : String → String} {cfg : Config} {labels : List Label}
    {w : Shell} (run : SchedulerRun lower cfg labels w) : w.Ledger :=
  Run.invariant Shell.Ledger (.new cfg) (fun _ _ _ ledger step => step.taken.ledger ledger) run

/-- In every run whose retries find the issues they can spawn claimed, no issue is lost. -/
theorem no_issue_lost {lower : String → String} {cfg : Config} {labels : List Label} {w : Shell}
    (run : Run (fun w a w' => Shell.Step lower w a w' ∧ w.reclaims lower a = true)
      (Shell.new cfg) labels w) (idle : w.todo = []) : w.NothingLost := by
  have kept : w.Ledger ∧ ∀ id, (w.claimOn id).Awaited := by
    refine run.invariant (fun w => w.Ledger ∧ ∀ id, (w.claimOn id).Awaited) ⟨.new cfg, fun _ => nofun⟩ ?_
    rintro v a v' ⟨ledger, awaited⟩ ⟨step, reclaimed⟩
    exact ⟨step.taken.ledger ledger, step.taken.awaited reclaimed ledger awaited⟩
  exact kept.1.nothingLost idle kept.2

/-! ### A run -/

section Example

def Issue.sample : Issue :=
  { id := "1", identifier := "ENG-1", title := "Fix it", state := "Todo" }

/-- A workflow with one active state and one slot. -/
def Config.sample : Config :=
  { tracker := { activeStates := ["Todo"], terminalStates := ["Done"] }, agent := { maxConcurrentAgents := 1 } }

def Answer.lists (issues : List Issue) : Answer :=
  { candidates := .ok issues, refreshed := some issues }

/-- A tick that dispatches an issue, up to its spawn. -/
@[simp] def Label.dispatch (issue : Issue) (spawned : Except String LiveSession) : List Label :=
  [.tick (some Config.sample) 1, .exec (.lists [issue]) 1, .exec (.lists [issue]) 1, .exec { spawned := spawned } 1]

end Example

/-- A worker that exits cleanly leaves its issue claimed and queued, with one timer. -/
theorem finished_worker_awaits_retry : ∃ w labels, (Run (fun w a w' => Shell.Step id w a w' ∧ w.reclaims id a = true)
        (Shell.new Config.sample) labels w ∧ w.todo = []) ∧
      (w.cur.retryAttempts.get? "1").isSome ∧ w.pending "1" = 1 := by
  obtain ⟨w, labels, driven, idle, queued⟩ : ∃ w labels,
      drive (Shell.advance id (Shell.reclaims id)) (Shell.new Config.sample)
        (Label.dispatch Issue.sample (.ok {}) ++
          [.exit 0 none, .workerDone 0 (some Config.sample) 2, .exec {} 2]) = some (w, labels) ∧
      w.todo = [] ∧ (w.cur.retryAttempts.get? "1").isSome = true :=
    ⟨_, _, rfl, rfl, rfl⟩
  have run := Shell.drive_advance driven
  exact ⟨w, labels, ⟨run, idle⟩, queued, (no_issue_lost run idle).queued_pending "1" queued⟩

/-- A failed spawn releases the claim, the retry that finds the issue strands it, and from there
on nothing ever runs or retries it. -/
theorem failed_spawn_strands_issue : ∃ w labels, SchedulerRun id Config.sample labels w ∧ w.todo = [] ∧
      (w.cur.retryAttempts.get? "1").isSome ∧ w.pending "1" = 0 ∧ ∀ w' more, Run (Shell.Step id) w more w' →
        w'.cur.running.get? "1" = none ∧ (w'.cur.retryAttempts.get? "1").isSome := by
  obtain ⟨w, labels, driven, idle, here⟩ : ∃ w labels,
      drive (Shell.advance id fun _ _ => true) (Shell.new Config.sample)
        (Label.dispatch Issue.sample (.error "no worker") ++
          [.exec {} 1, .fire 0, .retryFire 0 (some Config.sample) 2,
            .exec (.lists [Issue.sample]) 2]) = some (w, labels) ∧
      w.todo = [] ∧ w.claimOn "1" = .stranded :=
    ⟨_, _, rfl, rfl, rfl⟩
  have run : SchedulerRun id Config.sample labels w := (Shell.drive_advance driven).mono fun _ _ _ step => step.1
  have stays : ∀ w' more, Run (Shell.Step id) w more w' → w'.claimOn "1" = .stranded :=
    fun _ _ rest => run.ledger.stranded_run here rest
  obtain ⟨_, _, queued, waits, _⟩ := Claim.mk.inj here
  refine ⟨w, labels, run, idle, queued, by simpa [idle] using waits, fun w' more rest => ?_⟩
  obtain ⟨idle, _, queued, _, _⟩ := Claim.mk.inj (stays w' more rest)
  exact ⟨by simpa using idle, queued⟩

end AgentGrid.Orchestrator
