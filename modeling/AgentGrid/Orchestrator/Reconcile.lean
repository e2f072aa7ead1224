import AgentGrid.Orchestrator.Agenda

/-!
# What reconciliation kills

The stall check and the tracker refresh ask for the kill of exactly the workers whose runs they
end, once each.
-/

namespace AgentGrid.Orchestrator

open AgentGrid.Lib GoMap

attribute [local simp] get?_delete

@[simp] def Effect.kills (id : IssueID) : Effect → Bool
  | .killWorker issueID _ => decide (issueID = id)
  | _ => false

theorem Effect.kills_of_serves {e : Effect} (serves : e.serves = true) (id : IssueID) : e.kills id = false := by
  cases e with
  | killWorker => cases serves
  | _ => rfl

theorem countP_kills_of_serves {effs : List Effect} (serves : ∀ e ∈ effs, e.serves = true)
    (id : IssueID) : effs.countP (Effect.kills id) = 0 :=
  List.countP_eq_zero.mpr fun e mem => by
    rw [Effect.kills_of_serves (serves e mem)]
    exact Bool.false_ne_true

theorem Agenda.no_kills {e : Effect} {rest : List Effect} (agenda : Agenda (e :: rest))
    (unstopping : e.reconciles = false) (unrefreshing : ∀ ids, e ≠ .refreshTracker ids)
    (id : IssueID) : (e :: rest).countP (Effect.kills id) = 0 := by
  cases agenda with
  | retrying => rfl
  | dispatching serves => exact countP_kills_of_serves serves id
  | stopping stopping =>
    cases stopping with
    | fetch => rfl
    | refresh => exact absurd rfl (unrefreshing _)
    | cons stops => cases unstopping.symm.trans stops

@[simp] def State.runs (s : State) (id : IssueID) : Bool := (s.running.get? id).isSome

/-- Runs end where their workers are to be killed, and only there. -/
def Culls (s : State) (r : Reduced) : Prop :=
  ∀ id, (r.1.runs id = s.runs id ∧ r.2.countP (Effect.kills id) = 0) ∨
    (s.runs id = true ∧ r.1.runs id = false ∧ r.2.countP (Effect.kills id) = 1)

namespace Culls

variable {s : State} {r later : Reduced}

theorem nothing (s : State) : Culls s (s, []) := fun _ => .inl ⟨rfl, rfl⟩

theorem followed (first : Culls s r) (second : Culls r.1 later) : Culls s (later.1, r.2 ++ later.2) := by
  intro id
  rw [List.countP_append]
  rcases first id with ⟨same, none_killed⟩ | ⟨ran, stopped, killed⟩
  · rcases second id with ⟨same', none_killed'⟩ | ⟨ran, stopped, killed⟩
    · exact .inl ⟨same'.trans same, by rw [none_killed, none_killed']⟩
    · exact .inr ⟨same.symm.trans ran, stopped, by rw [none_killed, killed]⟩
  rcases second id with ⟨same', none_killed'⟩ | ⟨ran', _, _⟩
  · exact .inr ⟨ran, same'.trans stopped, by rw [killed, none_killed']⟩
  · cases stopped.symm.trans ran'

theorem idle (culls : Culls s r) {id : IssueID} (stopped : s.runs id = false) :
    r.1.runs id = false ∧ r.2.countP (Effect.kills id) = 0 := by
  rcases culls id with ⟨same, none_killed⟩ | ⟨ran, _, _⟩
  · exact ⟨same.trans stopped, none_killed⟩
  · cases stopped.symm.trans ran

end Culls

section Events

variable (lower : String → String) (s : State) (cfg : Config) (now : Time)

theorem reconcileKillRetry_culls (id : IssueID) (attempt : Int) (cause reason : String) :
    Culls s (reconcileKillRetry s id attempt cause reason cfg now) := by
  unfold reconcileKillRetry workerExitAbnormal
  cases held : s.running.get? id with
  | none => exact .nothing s
  | some =>
    intro id'
    by_cases same : id' = id
    · subst same
      refine .inr ⟨by simp [held], ?_, ?_⟩ <;> simp
    refine .inl ⟨?_, ?_⟩
    · simp [same]
    · simp [Ne.symm same]

theorem finished_culls {id : IssueID} {run : RunAttempt} (held : s.running.get? id = some run)
    (reason identifier : String) :
    Culls s (releaseClaim s id, [.killWorker id reason, .removeWorkspace identifier]) := by
  have running := (releaseClaim_books s id).1
  intro id'
  by_cases same : id' = id
  · subst same
    refine .inr ⟨by simp [held], ?_, ?_⟩
    · simp [running]
    · simp
  refine .inl ⟨?_, ?_⟩
  · simp [running, same]
  · simp [Ne.symm same]

variable {s cfg now} in
theorem Reconciled.culls {id : IssueID} {byID : GoMap IssueID Issue} {r : Reduced}
    (done : Reconciled s cfg now id byID r) : Culls s r := by
  cases done with
  | nothing => exact .nothing s
  | retried => exact reconcileKillRetry_culls s cfg now id _ _ _
  | finished held => exact finished_culls s held _ _
  | updated => exact fun id' => .inl ⟨updateRun_isSome s id _ id', rfl⟩

theorem reduceTick_culls (configValid : Bool) : Culls s (reduceTick s configValid cfg now) := by
  have polls : ∀ t : State, Culls t (t, pollEffects t configValid) := by
    intro t id
    refine .inl ⟨rfl, ?_⟩
    unfold pollEffects
    split <;> cases configValid <;> rfl
  exact (reduceStall_rule s cfg now .nothing .followed Reconciled.culls).followed (polls _)

theorem reduceTrackerRefreshed_culls (requestedIDs : List IssueID) (issues : List Issue) :
    Culls s (reduceTrackerRefreshed lower s requestedIDs issues cfg now) :=
  reduceTrackerRefreshed_rule lower s cfg now issues .nothing .followed Reconciled.culls requestedIDs

end Events

end AgentGrid.Orchestrator
