import AgentGrid.Lib.Keys
import AgentGrid.Orchestrator.Claims

/-!
# Concurrency limits

An issue takes up a slot from its claim until nothing of it is left, and only a fetch of the
candidates claims issues: as many as there are slots.  Within one dispatch, the runs of a
state and the issues of that state still to be spawned are never more than before it, or than
the state's cap.
-/

namespace AgentGrid.Orchestrator

open AgentGrid.Lib List GoMap

/-! ## The global limit -/

def State.occupied (s : State) : Finset IssueID := s.claimed.keys ∪ s.retryAttempts.keys

/-- The issues in `Running` or in `RetryAttempts`. -/
def State.counted (s : State) : Finset IssueID := s.running.keys ∪ s.retryAttempts.keys

theorem State.mem_occupied {s : State} {id : IssueID} {effs : List Effect} {waits dispatches : Nat} :
    id ∈ s.occupied ↔ (s.claimOn id effs waits dispatches).Occupied := by
  unfold State.occupied State.claimOn Claim.Occupied
  rw [Finset.mem_union, GoMap.mem_keys, GoMap.mem_keys, Bool.or_eq_true]

theorem retryQueuedCount_eq (s : State) : retryQueuedCount s = (s.retryAttempts.keys \ s.running.keys).card := by
  rw [retryQueuedCount, ← card_filter_keys s.retryAttempts fun id => (s.running.get? id).isNone]
  congr 1
  ext id
  rw [Finset.mem_filter, Finset.mem_sdiff, GoMap.mem_keys, GoMap.mem_keys]
  cases s.running.get? id <;> simp

theorem counted_card (s : State) : s.counted.card = s.running.entries.length + retryQueuedCount s := by
  unfold State.counted
  rw [retryQueuedCount_eq, ← card_keys, ← Finset.union_sdiff_self_eq_union,
    Finset.card_union_of_disjoint Finset.disjoint_sdiff]

theorem availableGlobalSlots_eq (s : State) (cfg : Config) :
    availableGlobalSlots s cfg = max 0 (cfg.agent.maxConcurrentAgents - s.counted.card) := by
  rw [availableGlobalSlots, counted_card, Int.natCast_add]

theorem claim_occupied {s claimed : State} {iss : Issue} (taken : claim s iss = some claimed) :
    claimed.occupied.card ≤ s.occupied.card + 1 := by
  obtain ⟨_, rfl⟩ := claim_eq_some.mp taken
  refine (Finset.card_le_card ?_).trans (Finset.card_insert_le iss.id s.occupied)
  intro id mem
  simp only [State.occupied, Finset.mem_union, GoMap.mem_keys, get?_set, get?_delete, Finset.mem_insert] at mem ⊢
  by_cases same : id = iss.id
  · exact .inl same
  · rw [if_neg same, if_neg same] at mem
    exact .inr mem

theorem Pass.occupied_le {lower : String → String} {cfg : Config} {issues chosen : List Issue}
    {s s' : State} {avail : Int} {used : String → Int} (pass : Pass lower cfg issues s avail used chosen s') :
    (s'.occupied.card : Int) ≤ s.occupied.card + max 0 avail := by
  induction pass with
  | stop => omega
  | skip _ _ ih => exact ih
  | take left _ taken =>
    have one := claim_occupied taken
    omega

namespace Shell

variable {lower : String → String} {w w' : Shell} {a : Label}

theorem Ledger.occupied_eq (ledger : Ledger w) (undispatched : ∀ e ∈ w.todo, ∀ id, e.dispatches id = false) :
    w.cur.occupied = w.cur.counted := by
  ext id
  have none_out : (w.claimOn id).dispatches = 0 := by
    have none_counted : w.todo.countP (Effect.dispatches id) = 0 := countP_eq_zero.mpr fun e mem => by
        rw [undispatched e mem id]
        exact Bool.false_ne_true
    simp [none_counted]
  have place := ledger.sound id
  simp only [State.occupied, State.counted, Finset.mem_union, GoMap.mem_keys]
  constructor
  · rintro (claimed | queued)
    · exact place.of_claimed claimed none_out
    · exact .inr queued
  · rintro (running | queued)
    · exact .inl (place.of_running running).1
    · exact .inr queued

theorem Taken.occupied_subset (taken : Taken lower w a w') (ledger : Ledger w)
    (other : ¬ Fetches w a) : w'.cur.occupied ⊆ w.cur.occupied := by
  intro id mem
  have moves : Moves (· ≠ .claim) (w.claimOn id) (w'.claimOn id) := by
    refine ((taken.advances ledger).moves id).mono ?_
    rintro k permits rfl
    exact other permits
  exact State.mem_occupied.mpr (moves.occupied (ledger.sound id) (State.mem_occupied.mp mem))

theorem fetch_occupied (ledger : Ledger w) {rest : List Effect} {answer : Answer} {now : Time}
    (next : w.todo = .fetchCandidates :: rest) {limit : Int}
    (capped : w.cfg.agent.maxConcurrentAgents = limit) (within : (w.cur.occupied.card : Int) ≤ limit) :
    ((({ w with todo := rest }.execFetchCandidates lower answer now).cur.occupied.card : Nat) : Int) ≤ limit := by
  have nothing : rest = [] := by
    have agenda := ledger.agenda
    rw [next] at agenda
    exact agenda.of_fetchCandidates
  have same : w.cur.occupied = w.cur.counted := by
    refine ledger.occupied_eq fun e mem id => ?_
    rw [next, nothing, mem_singleton] at mem
    subst mem
    rfl
  unfold execFetchCandidates
  cases answer.candidates with
  | error => exact within
  | ok cands =>
    obtain ⟨_, pass, -⟩ := reduceCandidates_pass lower w.cfg w.cur cands
    have avail := availableGlobalSlots_eq w.cur w.cfg
    rw [capped, ← same] at avail
    refine le_trans pass.occupied_le ?_
    rw [avail]
    omega

/-! ### Runs with a fixed configuration -/

end Shell

/-- A reload fails or finds the configuration it had. -/
def Label.reloads (cfg : Config) : Label → Prop
  | .tick reload _ => reload = none ∨ reload = some cfg
  | .retryFire _ reload _ => reload = none ∨ reload = some cfg
  | .workerDone _ reload _ => reload = none ∨ reload = some cfg
  | _ => True

/-- The step belongs to the iteration that is under way. -/
def Label.within : Label → Prop
  | .exec .. => True
  | .fire .. => True
  | .exit .. => True
  | _ => False

namespace Shell

variable {lower : String → String} {w w' : Shell} {a : Label} {cfg : Config}

/-- The configuration in force, and the last good one. -/
def Configured (cfg : Config) (w : Shell) : Prop := w.cfg = cfg ∧ w.lastGood = cfg

theorem exec_config {answer : Answer} {now : Time} {e : Effect} :
    (w.exec lower answer now e).cfg = w.cfg ∧ (w.exec lower answer now e).lastGood = w.lastGood := by
  cases e with
  | fetchCandidates =>
    unfold exec execFetchCandidates
    cases answer.candidates <;> exact ⟨rfl, rfl⟩
  | refreshTracker =>
    unfold exec execRefreshTracker
    cases answer.refreshed <;> exact ⟨rfl, rfl⟩
  | retryFetch =>
    unfold exec execRetryFetch
    cases answer.candidates <;> exact ⟨rfl, rfl⟩
  | spawn =>
    unfold exec execSpawn
    cases answer.spawned <;> exact ⟨rfl, rfl⟩
  | _ => exact ⟨rfl, rfl⟩

theorem Taken.configured (taken : Taken lower w a w') (same : a.reloads cfg)
    (configured : Configured cfg w) : Configured cfg w' := by
  have kept : ∀ reload, reload = none ∨ reload = some cfg → w.reloadConfig reload = cfg := by
    rintro reload (rfl | rfl)
    · exact configured.2
    · rfl
  cases taken with
  | tick | workerDone => exact ⟨kept _ same, kept _ same⟩
  | @retryFire i reload now req idle held =>
    unfold handleRetryFire
    dsimp only
    split
    · exact ⟨kept _ same, kept _ same⟩
    · rwa [postpone_eq]
  | codexActivity | fire => exact configured
  | exec => rwa [Configured, exec_config.1, exec_config.2]
  | exit =>
    unfold sendWorkerExit
    split <;> exact configured

theorem Taken.config (taken : Taken lower w a w') (within : a.within) : w'.cfg = w.cfg := by
  cases taken with
  | exec => exact exec_config.1
  | fire => rfl
  | exit =>
    unfold sendWorkerExit
    split <;> rfl
  | _ => cases within

structure WithinLimit (cfg : Config) (w : Shell) : Prop where
  ledger : Ledger w
  configured : Configured cfg w
  occupied : (w.cur.occupied.card : Int) ≤ cfg.agent.maxConcurrentAgents

theorem Taken.withinLimit (taken : Taken lower w a w') (same : a.reloads cfg)
    (within : WithinLimit cfg w) : WithinLimit cfg w' := by
  refine ⟨taken.ledger within.ledger, taken.configured same within.configured, ?_⟩
  by_cases fetches : Fetches w a
  · obtain ⟨answer, now, rest, rfl, next⟩ := fetches
    cases taken with
    | exec next' =>
      obtain ⟨rfl, rfl⟩ := List.cons.inj (next'.symm.trans next)
      exact fetch_occupied within.ledger next (by rw [within.configured.1]) within.occupied
  have fewer := Finset.card_le_card (taken.occupied_subset within.ledger fetches)
  have before := within.occupied
  omega

theorem WithinLimit.new (some_slots : 0 ≤ cfg.agent.maxConcurrentAgents) : WithinLimit cfg (Shell.new cfg) :=
  ⟨.new cfg, ⟨rfl, rfl⟩, some_slots⟩

end Shell

/-! ## The limits of the states -/

section Names

variable (lower : String → String)

/-- The effect is about to validate or to spawn an issue in a state. -/
def Effect.dispatchesState (norm : String) : Effect → Bool
  | .revalidate issue _ => decide (lower issue.state = norm)
  | .spawn issue _ => decide (lower issue.state = norm)
  | _ => false

/-- The runs of a state, and the issues of that state still to be spawned. -/
def committedTo (s : State) (effs : List Effect) (norm : String) : Nat :=
  runningInState lower s norm + effs.countP (Effect.dispatchesState lower norm)

theorem committedTo_append (s : State) (effs rest : List Effect) (norm : String) :
    committedTo lower s (effs ++ rest) norm =
      committedTo lower s effs norm + rest.countP (Effect.dispatchesState lower norm) := by
  unfold committedTo
  rw [countP_append, Nat.add_assoc]

theorem committedTo_cons (s : State) (e : Effect) (rest : List Effect) (norm : String) :
    committedTo lower s (e :: rest) norm =
      committedTo lower s [e] norm + rest.countP (Effect.dispatchesState lower norm) :=
  committedTo_append lower s [e] rest norm

theorem releaseClaim_runningInState (s : State) (id : IssueID) (norm : String) :
    runningInState lower (releaseClaim s id) norm ≤ runningInState lower s norm := by
  rw [runningInState, (releaseClaim_books s id).1]
  exact length_filter_delete_le s.running id _

theorem markRunning_runningInState {s : State} {issue : Issue} (idle : s.running.get? issue.id = none)
    (attempt : Int) (session : LiveSession) (norm : String) :
    runningInState lower (markRunning s issue attempt session) norm =
      runningInState lower s norm + if lower issue.state = norm then 1 else 0 := by
  unfold runningInState markRunning
  rw [length_filter_set_of_absent idle]
  simp only [decide_eq_true_eq]

theorem runningInState_lt_of_slot {s : State} {cfg : Config} {id : IssueID} {state : String}
    (slot : retryReclaimHasSlot lower s cfg id state = true) :
    (runningInState lower s (lower state) : Int) < stateCapacity cfg (lower state) := by
  unfold retryReclaimHasSlot at slot
  dsimp only at slot
  generalize (if (s.retryAttempts.get? id).isSome then _ else _ : Int) = used at slot
  split at slot
  · cases slot
  have free := of_decide_eq_true slot
  unfold availablePerStateSlots at free
  omega

theorem claimFromRetry_running {s claimed : State} {id : IssueID}
    (taken : claimFromRetry s id = some claimed) : claimed.running = s.running := by
  rw [claimFromRetry_eq] at taken
  split at taken <;> cases taken
  rfl

theorem reduceRetryResolved_committed (s : State) (id : IssueID) (identifier : String)
    (attempt : Int) (issues : List Issue) (fetchErr : Option String) (cfg : Config) (now : Time) (norm : String) :
    (committedTo lower (reduceRetryResolved lower s id identifier attempt issues fetchErr cfg now).1
        (reduceRetryResolved lower s id identifier attempt issues fetchErr cfg now).2 norm : Int) ≤
      max (runningInState lower s norm : Int) (stateCapacity cfg norm) := by
  refine reduceRetryResolved_rule (P := fun r => (committedTo lower r.1 r.2 norm : Int) ≤ _) lower s cfg now id
    identifier attempt issues (fun _ _ => le_max_left _ _)
    (le_max_of_le_left (mod_cast releaseClaim_runningInState lower s id norm)) (fun _ _ _ => le_max_left _ _)
    fun {found claimed} _ slot taken => ?_
  have free := runningInState_lt_of_slot lower slot
  rw [committedTo, runningInState, claimFromRetry_running taken, countP_singleton]
  by_cases same : lower found.state = norm
  · subst same
    simp only [Effect.dispatchesState, decide_true, if_true]
    exact le_max_of_le_right free
  simp only [Effect.dispatchesState, same, decide_false, Bool.false_eq_true, if_false]
  exact le_max_left _ _

theorem reduceRevalidated_committed (s : State) (issue : Issue) (attempt : Int)
    (fresh : Option Issue) (cfg : Config) (norm : String) :
    committedTo lower (reduceRevalidated lower s issue attempt fresh cfg).1
        (reduceRevalidated lower s issue attempt fresh cfg).2 norm ≤
      committedTo lower s [.revalidate issue attempt] norm := by
  have released : committedTo lower (releaseClaim s issue.id) [] norm ≤
      committedTo lower s [.revalidate issue attempt] norm :=
    (releaseClaim_runningInState lower s issue.id norm).trans (Nat.le_add_right _ _)
  unfold reduceRevalidated
  cases fresh with
  | none => exact released
  | some =>
    dsimp only
    split
    · exact le_of_eq rfl
    · exact released

namespace Shell

variable {lower} {w w' : Shell} {answer : Answer} {now : Time}

theorem execSpawn_committed {issue : Issue} {attempt : Int}
    (idle : w.cur.running.get? issue.id = none) (norm : String) :
    committedTo lower (w.execSpawn lower issue attempt answer now).cur
        (w.execSpawn lower issue attempt answer now).todo norm ≤
      committedTo lower w.cur (.spawn issue attempt :: w.todo) norm := by
  rw [committedTo_cons]
  unfold execSpawn
  cases answer.spawned with
  | error =>
    refine Nat.add_le_add ?_ (le_of_eq (countP_cons_of_neg Bool.false_ne_true))
    exact (releaseClaim_runningInState lower w.cur issue.id norm).trans (Nat.le_add_right _ _)
  | ok session =>
    refine Nat.add_le_add (le_of_eq ?_) (le_of_eq rfl)
    rw [committedTo, countP_singleton]
    simp only [Effect.dispatchesState, decide_eq_true_eq]
    exact markRunning_runningInState lower idle attempt session norm

theorem exec_committed (ledger : Ledger w) {e : Effect} {rest : List Effect}
    (next : w.todo = e :: rest) (dispatching : Dispatching w.todo) (norm : String) :
    committedTo lower ({ w with todo := rest }.exec lower answer now e).cur
        ({ w with todo := rest }.exec lower answer now e).todo norm ≤
      committedTo lower w.cur w.todo norm := by
  have serves := dispatching e (by rw [next]; exact mem_cons_self)
  have place := ledger.sound
  rw [next]
  cases e with
  | revalidate issue attempt =>
    rw [committedTo_cons]
    rw [exec, execRevalidate, step, committedTo_append]
    exact Nat.add_le_add_right (reduceRevalidated_committed lower w.cur issue attempt _ w.cfg norm) _
  | spawn issue =>
    have dispatched : 0 < (w.claimOn issue.id).dispatches := by simp [next]
    exact execSpawn_committed (by simpa using ((ledger.sound issue.id).dispatched_idle dispatched)) norm
  | armRetryTimer =>
    rw [committedTo_cons]
    exact le_of_eq rfl
  | _ => cases serves

theorem execFetchCandidates_committed (idle : w.todo = []) (norm : String) :
    (committedTo lower (w.execFetchCandidates lower answer now).cur
        (w.execFetchCandidates lower answer now).todo norm : Int) ≤
      max (runningInState lower w.cur norm : Int) (stateCapacity w.cfg norm) := by
  unfold execFetchCandidates
  cases answer.candidates with
  | error =>
    rw [idle]
    exact le_max_left _ _
  | ok cands =>
    obtain ⟨chosen, pass, effects⟩ := reduceCandidates_pass lower w.cfg w.cur cands
    have counted : chosen.countP (Effect.dispatchesState lower norm ∘ (.revalidate · 0)) =
        chosen.countP fun x => lower x.state = norm := rfl
    unfold step committedTo
    dsimp only [reduce]
    rw [idle, append_nil, effects, countP_map, counted, runningInState, pass.running, ← runningInState]
    rcases pass.capped norm with none | within <;> omega

theorem execRetryFetch_committed {id : IssueID} {identifier : String} {attempt : Int}
    (idle : w.todo = []) (norm : String) :
    (committedTo lower (w.execRetryFetch lower id identifier attempt answer now).cur
        (w.execRetryFetch lower id identifier attempt answer now).todo norm : Int) ≤
      max (runningInState lower w.cur norm : Int) (stateCapacity w.cfg norm) := by
  unfold execRetryFetch step
  cases answer.candidates with
  | error =>
    dsimp only [reduce]
    rw [idle, append_nil]
    exact reduceRetryResolved_committed lower w.cur id identifier attempt [] _ w.cfg now norm
  | ok cands =>
    dsimp only [reduce]
    rw [idle, append_nil]
    exact reduceRetryResolved_committed lower w.cur id identifier attempt cands _ w.cfg now norm

/-- A dispatch is about to begin: a fetch of the candidates, or of a retry. -/
def Opens (w : Shell) : Prop :=
  ∃ e rest, w.todo = e :: rest ∧
    (e = .fetchCandidates ∨ ∃ id identifier attempt, e = .retryFetch id identifier attempt)

theorem Opens.alone (opens : Opens w) (ledger : Ledger w) : w.todo = [.fetchCandidates] ∨
      ∃ id identifier attempt, w.todo = [.retryFetch id identifier attempt] := by
  obtain ⟨e, rest, next, kind⟩ := opens
  have agenda := ledger.agenda
  rw [next] at agenda ⊢
  rcases kind with rfl | ⟨id, identifier, attempt, rfl⟩
  · rw [agenda.of_fetchCandidates]
    exact .inl rfl
  · rw [agenda.of_retryFetch]
    exact .inr ⟨id, identifier, attempt, rfl⟩

/-- Where a dispatch stands: not begun, or within the bound that it began with. -/
inductive Underway (lower : String → String) (start w : Shell) : Prop where
  | ahead (cur : w.cur = start.cur) (todo : w.todo = start.todo)
  | begun (dispatching : Dispatching w.todo)
      (bound : ∀ norm, (committedTo lower w.cur w.todo norm : Int) ≤
        max (runningInState lower start.cur norm : Int) (stateCapacity start.cfg norm))

end Shell

end Names

namespace Shell

variable {lower : String → String} {start w w' : Shell} {a : Label}

theorem Taken.underway (taken : Taken lower w a w') (within : a.within) (alone : start.todo = [.fetchCandidates] ∨
      ∃ id identifier attempt, start.todo = [.retryFetch id identifier attempt])
    (ledger : Ledger w) (same : w.cfg = start.cfg) (underway : Underway lower start w) : Underway lower start w' := by
  cases taken with
  | exec next =>
    cases underway with
    | begun dispatching bound =>
      refine .begun ?_ fun norm => ?_
      · rw [next] at dispatching
        exact exec_serves dispatching
      · exact le_trans (Int.ofNat_le.mpr (exec_committed ledger next dispatching norm)) (bound norm)
    | ahead cur todo =>
      rcases alone with fetch | ⟨id, identifier, attempt, retry⟩
      · obtain ⟨rfl, rfl⟩ := List.cons.inj (next.symm.trans (todo.trans fetch))
        refine .begun (execFetchCandidates_serves rfl) fun norm => ?_
        rw [← cur, ← same]
        exact execFetchCandidates_committed rfl norm
      obtain ⟨rfl, rfl⟩ := List.cons.inj (next.symm.trans (todo.trans retry))
      refine .begun (execRetryFetch_serves rfl) fun norm => ?_
      rw [← cur, ← same]
      exact execRetryFetch_committed rfl norm
  | fire =>
    cases underway with
    | ahead cur todo => exact .ahead cur todo
    | begun dispatching bound => exact .begun dispatching bound
  | exit =>
    unfold sendWorkerExit
    cases underway with
    | ahead cur todo => split <;> exact .ahead cur todo
    | begun dispatching bound => split <;> exact .begun dispatching bound
  | _ => cases within

theorem Opens.bounded (opens : Opens start) (ledger : Ledger start) {labels : List Label}
    (run : Run (fun w a w' => Step lower w a w' ∧ a.within) start labels w) (norm : String) :
    (runningInState lower w.cur norm : Int) ≤
      max (runningInState lower start.cur norm : Int) (stateCapacity start.cfg norm) := by
  have alone := opens.alone ledger
  have kept : Ledger w ∧ w.cfg = start.cfg ∧ Underway lower start w := by
    refine run.invariant (fun w => Ledger w ∧ w.cfg = start.cfg ∧ Underway lower start w)
      ⟨ledger, rfl, .ahead rfl rfl⟩ ?_
    rintro v a v' ⟨ledger, same, underway⟩ ⟨step, within⟩
    refine ⟨step.taken.ledger ledger, ?_, step.taken.underway within alone ledger same underway⟩
    rw [← same]
    exact step.taken.config within
  cases kept.2.2 with
  | ahead cur =>
    rw [cur]
    exact le_max_left _ _
  | begun dispatching bound => exact le_trans (Int.ofNat_le.mpr (Nat.le_add_right _ _)) (bound norm)

end Shell

/-- With a fixed configuration, at most as many issues run or are queued as there are slots, and
no dispatch raises the runs of a state above what they were, or above the state's cap. -/
theorem concurrency_limited {lower : String → String} {cfg : Config} {labels : List Label}
    {w : Shell} (slots : 1 ≤ cfg.agent.maxConcurrentAgents)
    (run : Run (fun w a w' => Shell.Step lower w a w' ∧ a.reloads cfg) (Shell.new cfg) labels w) :
    (w.todo = [] → ((w.cur.running.keys ∪ w.cur.retryAttempts.keys).card : Int) ≤ cfg.agent.maxConcurrentAgents) ∧
    (w.Opens → ∀ w' more, Run (fun w a w' => Shell.Step lower w a w' ∧ a.within) w more w' → ∀ n : String,
        (runningInState lower w'.cur (lower n) : Int) ≤
          max (runningInState lower w.cur (lower n) : Int) (stateCapacity cfg (lower n))) := by
  have within : Shell.WithinLimit cfg w :=
    run.invariant (Shell.WithinLimit cfg) (.new (by omega)) fun _ _ _ within step =>
      step.1.taken.withinLimit step.2 within
  refine ⟨fun idle => ?_, fun opens w' more rest n => ?_⟩
  · have same := within.ledger.occupied_eq (by simp [idle])
    have occupied := within.occupied
    rwa [same] at occupied
  · rw [← within.configured.1]
    exact opens.bounded within.ledger rest (lower n)

/-- A tick that dispatches the one issue of a tracker fills the one slot of its workflow. -/
theorem dispatched_issue_within_limit : ∃ w labels, (1 ≤ Config.sample.agent.maxConcurrentAgents ∧
        Run (fun w a w' => Shell.Step id w a w' ∧ a.reloads Config.sample)
          (Shell.new Config.sample) labels w ∧ w.todo = []) ∧ (w.cur.running.get? "1").isSome ∧
      ((w.cur.running.keys ∪ w.cur.retryAttempts.keys).card : Int) ≤ 1 := by
  obtain ⟨w, driven, idle, running⟩ : ∃ w, drive (Shell.advance id fun _ _ => true) (Shell.new Config.sample)
        (Label.dispatch Issue.sample (.ok {})) = some (w, Label.dispatch Issue.sample (.ok {})) ∧
      w.todo = [] ∧ (w.cur.running.get? "1").isSome = true :=
    ⟨_, rfl, rfl, rfl⟩
  have steps : Run (Shell.Step id) (Shell.new Config.sample) (Label.dispatch Issue.sample (.ok {})) w :=
    (Shell.drive_advance driven).mono fun _ _ _ step => step.1
  have run := steps.restrict (fun _ a => a.reloads Config.sample) (by simp [Label.reloads])
  exact ⟨w, _, ⟨le_refl 1, run, idle⟩, running, (concurrency_limited (le_refl 1) run).1 idle⟩

end AgentGrid.Orchestrator
