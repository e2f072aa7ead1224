import AgentGrid.Orchestrator.Moves

/-!
# What is left to do in an iteration

The effects of an iteration come in a few orders.  A tick first stops what has stalled or left
its states, then refreshes the tracker, which stops more, and last fetches the candidates.
From there on, as after the fetch of a retry and in the handling of an exit, issues are only
validated, spawned and put off: nothing is dispatched while anything is still to be killed.
-/

namespace AgentGrid.Orchestrator

open AgentGrid.Lib List

@[simp] def Effect.reconciles : Effect → Bool
  | .killWorker .. => true
  | .removeWorkspace .. => true
  | .armRetryTimer .. => true
  | _ => false

@[simp] def Effect.serves : Effect → Bool
  | .revalidate .. => true
  | .spawn .. => true
  | .armRetryTimer .. => true
  | _ => false

/-! ## What the reducer emits -/

section Emits

variable (lower : String → String) (s : State) (cfg : Config) (now : Time)

theorem reconcileKillRetry_emits (id : IssueID) (attempt : Int) (cause reason : String) :
    ∀ e ∈ (reconcileKillRetry s id attempt cause reason cfg now).2, e.reconciles = true := by
  unfold reconcileKillRetry workerExitAbnormal
  cases s.running.get? id with
  | none => exact forall_mem_nil _
  | some => simp

variable {s cfg now} in
theorem Reconciled.emits {id : IssueID} {byID : GoMap IssueID Issue} {r : Reduced}
    (done : Reconciled s cfg now id byID r) : ∀ e ∈ r.2, e.reconciles = true := by
  cases done with
  | nothing | updated => exact forall_mem_nil _
  | retried => exact reconcileKillRetry_emits s cfg now id _ _ _
  | finished => simp

theorem reduceStall_emits : ∀ e ∈ (reduceStall s cfg now).2, e.reconciles = true :=
  reduceStall_rule (P := fun _ r => ∀ e ∈ r.2, e.reconciles = true) s cfg now (fun _ => forall_mem_nil _)
    (fun first second => forall_mem_append.mpr ⟨first, second⟩) Reconciled.emits

theorem reduceTrackerRefreshed_emits (requestedIDs : List IssueID) (issues : List Issue) :
    ∀ e ∈ (reduceTrackerRefreshed lower s requestedIDs issues cfg now).2, e.reconciles = true :=
  reduceTrackerRefreshed_rule (P := fun _ r => ∀ e ∈ r.2, e.reconciles = true) lower s cfg now issues
    (fun _ => forall_mem_nil _) (fun first second => forall_mem_append.mpr ⟨first, second⟩) Reconciled.emits
    requestedIDs

theorem reduceCandidates_emits (cands : List Issue) :
    ∀ e ∈ (reduceCandidates lower s cands cfg).2, e.serves = true := by
  obtain ⟨chosen, -, effects⟩ := reduceCandidates_pass lower cfg s cands
  rw [effects]
  exact forall_mem_map.mpr fun _ _ => rfl

theorem reduceRevalidated_emits (issue : Issue) (attempt : Int) (fresh : Option Issue) :
    ∀ e ∈ (reduceRevalidated lower s issue attempt fresh cfg).2, e.serves = true := by
  unfold reduceRevalidated
  cases fresh with
  | none => exact forall_mem_nil _
  | some =>
    dsimp only
    split <;> simp

theorem reduceRetryResolved_emits (id : IssueID) (identifier : String) (attempt : Int)
    (issues : List Issue) (fetchErr : Option String) :
    ∀ e ∈ (reduceRetryResolved lower s id identifier attempt issues fetchErr cfg now).2, e.serves = true :=
  reduceRetryResolved_rule (P := fun r => ∀ e ∈ r.2, e.serves = true) lower s cfg now id identifier attempt issues
    (by simp) (forall_mem_nil _) (fun _ _ _ => forall_mem_nil _) (by simp)

theorem reduceWorkerExit_emits (id : IssueID) (err : Option String) (attempt : Int) :
    ∀ e ∈ (reduceWorkerExit s id err attempt cfg now).2, e.serves = true := by
  unfold reduceWorkerExit workerExitNormal workerExitAbnormal
  cases err <;> cases s.running.get? id <;> simp

end Emits

/-! ## The orders -/

/-- A tick's effects: what to stop, then the refresh, then the fetch. -/
inductive Reconciling : List Effect → Prop where
  | nil : Reconciling []
  | fetch : Reconciling [.fetchCandidates]
  | refresh {ids : List IssueID} {rest : List Effect}
      (last : rest = [] ∨ rest = [.fetchCandidates]) : Reconciling (.refreshTracker ids :: rest)
  | cons {e : Effect} {rest : List Effect} (stops : e.reconciles = true) : Reconciling rest → Reconciling (e :: rest)

def Dispatching (todo : List Effect) : Prop := ∀ e ∈ todo, e.serves = true

variable {effs rest : List Effect}

theorem Reconciling.append (stops : ∀ e ∈ effs, e.reconciles = true) (later : Reconciling rest) :
    Reconciling (effs ++ rest) := by
  induction effs with
  | nil => exact later
  | cons e effs ih =>
    have parts := forall_mem_cons.mp stops
    exact .cons parts.1 (ih parts.2)

theorem Reconciling.poll (s : State) (configValid : Bool) : Reconciling (pollEffects s configValid) := by
  unfold pollEffects
  split
  · cases configValid with
    | false => exact .refresh (.inl rfl)
    | true => exact .refresh (.inr rfl)
  cases configValid with
  | false => exact .nil
  | true => exact .fetch

theorem Dispatching.append (serves : ∀ e ∈ effs, e.serves = true) (later : Dispatching rest) :
    Dispatching (effs ++ rest) :=
  forall_mem_append.mpr ⟨serves, later⟩

inductive Agenda : List Effect → Prop where
  | stopping {todo : List Effect} : Reconciling todo → Agenda todo
  | dispatching {todo : List Effect} : Dispatching todo → Agenda todo
  | retrying (id : IssueID) (identifier : String) (attempt : Int) : Agenda [.retryFetch id identifier attempt]

theorem Agenda.nil : Agenda [] := .stopping .nil

variable {lower : String → String} {w w' : Shell} {a : Label}

variable {id : IssueID} {identifier : String} {attempt : Int}

theorem Agenda.of_retryFetch (agenda : Agenda (.retryFetch id identifier attempt :: rest)) : rest = [] := by
  cases agenda with
  | stopping stopping =>
    cases stopping with
    | cons stops => cases stops
  | dispatching serves => cases serves _ mem_cons_self
  | retrying => rfl

theorem Agenda.of_fetchCandidates (agenda : Agenda (.fetchCandidates :: rest)) : rest = [] := by
  cases agenda with
  | stopping stopping =>
    cases stopping with
    | fetch => rfl
    | cons stops => cases stops
  | dispatching serves => cases serves _ mem_cons_self

theorem Agenda.of_refreshTracker {ids : List IssueID}
    (agenda : Agenda (.refreshTracker ids :: rest)) : rest = [] ∨ rest = [.fetchCandidates] := by
  cases agenda with
  | stopping stopping =>
    cases stopping with
    | refresh last => exact last
    | cons stops => cases stops
  | dispatching serves => cases serves _ mem_cons_self

variable {answer : Answer} {now : Time}

theorem Shell.execRetryFetch_serves (idle : w.todo = []) :
    Dispatching (w.execRetryFetch lower id identifier attempt answer now).todo := by
  unfold Shell.execRetryFetch Shell.step
  cases answer.candidates with
  | error =>
    dsimp only
    rw [idle, append_nil]
    exact reduceRetryResolved_emits lower w.cur w.cfg now id identifier attempt [] _
  | ok cands =>
    dsimp only
    rw [idle, append_nil]
    exact reduceRetryResolved_emits lower w.cur w.cfg now id identifier attempt cands _

theorem Shell.execFetchCandidates_serves (idle : w.todo = []) :
    Dispatching (w.execFetchCandidates lower answer now).todo := by
  unfold Shell.execFetchCandidates Shell.step
  cases answer.candidates with
  | error =>
    rw [idle]
    exact forall_mem_nil _
  | ok cands =>
    dsimp only
    rw [idle, append_nil]
    exact reduceCandidates_emits lower w.cur w.cfg cands

variable {e : Effect}

theorem Shell.exec_serves (dispatching : Dispatching (e :: rest)) :
    Dispatching ({ w with todo := rest }.exec lower answer now e).todo := by
  obtain ⟨serves, later⟩ := forall_mem_cons.mp dispatching
  cases e with
  | revalidate issue attempt =>
    exact Dispatching.append (reduceRevalidated_emits lower w.cur w.cfg issue attempt _) later
  | spawn =>
    unfold Shell.exec Shell.execSpawn
    cases answer.spawned with
    | error => exact forall_mem_cons.mpr ⟨rfl, later⟩
    | ok => exact later
  | armRetryTimer => exact later
  | _ => cases serves

theorem Shell.exec_dispatches (agenda : Agenda (e :: rest)) (unstopping : e.reconciles = false)
    (unrefreshing : ∀ ids, e ≠ .refreshTracker ids) :
    Dispatching ({ w with todo := rest }.exec lower answer now e).todo := by
  cases agenda with
  | retrying => exact Shell.execRetryFetch_serves rfl
  | dispatching dispatching => exact Shell.exec_serves dispatching
  | stopping stopping =>
    cases stopping with
    | fetch => exact Shell.execFetchCandidates_serves rfl
    | refresh => exact absurd rfl (unrefreshing _)
    | cons stops => cases unstopping.symm.trans stops

theorem Shell.exec_agenda (agenda : Agenda (e :: rest)) :
    Agenda ({ w with todo := rest }.exec lower answer now e).todo := by
  cases agenda with
  | retrying => exact .dispatching (Shell.execRetryFetch_serves rfl)
  | dispatching dispatching => exact .dispatching (Shell.exec_serves dispatching)
  | stopping stopping =>
    cases stopping with
    | fetch => exact .dispatching (Shell.execFetchCandidates_serves rfl)
    | @refresh ids rest last =>
      have later : Reconciling rest := by
        rcases last with rfl | rfl
        · exact .nil
        · exact .fetch
      unfold Shell.exec Shell.execRefreshTracker
      cases answer.refreshed with
      | none => exact .stopping later
      | some issues => exact .stopping (.append (reduceTrackerRefreshed_emits lower w.cur w.cfg now ids issues) later)
    | cons stops later =>
      cases e with
      | killWorker | removeWorkspace | armRetryTimer => exact .stopping later
      | _ => cases stops

theorem Shell.Taken.agenda (taken : Taken lower w a w') (agenda : Agenda w.todo) : Agenda w'.todo := by
  cases taken with
  | @tick reload now idle =>
    unfold Shell.tick Shell.step
    dsimp only
    rw [idle, append_nil]
    exact .stopping (.append (reduceStall_emits _ _ _) (.poll _ _))
  | @retryFire i reload now req idle held =>
    unfold Shell.handleRetryFire
    dsimp only
    split
    · rw [Shell.step, idle]
      exact .retrying req.issueID req.identifier req.attempt
    unfold Shell.armTimer Shell.postpone
    cases w.cur.retryAttempts.get? req.issueID <;>
      simpa only [Option.elim, idle] using Agenda.nil
  | @workerDone i reload now e idle held =>
    unfold Shell.handleWorkerDone Shell.step
    dsimp only
    rw [idle, append_nil]
    exact .dispatching (reduceWorkerExit_emits _ _ _ _ _ _)
  | codexActivity idle =>
    rw [Shell.step, idle]
    exact .nil
  | exec next =>
    rw [next] at agenda
    exact Shell.exec_agenda agenda
  | fire => exact agenda
  | exit =>
    unfold Shell.sendWorkerExit
    split <;> exact agenda

end AgentGrid.Orchestrator
