import AgentGrid.Wslhost.Stop

/-!
# What a completed stop rests on

A stop transaction is followed with what it observes, the wait for a graceful exit included: the
exit of a spawned unit is waited for, an adopted instance is polled.  A poll may answer after the
budget, and a cancelled context ends the polling before it.
-/

namespace AgentGrid.Wslhost

open AgentGrid.Lib List Option

/-- What wakes the poller after a probe that did not find the instance absent. -/
inductive Wake where
  | tick | budget | cancelled
  deriving DecidableEq

inductive Observation where
  | answer (answer : StopAnswer)
  /-- The wait for the unit ends, with its exit or with the budget. -/
  | unitWaited (exited late : Bool)
  /-- A probe of an adopted instance, and whether it answered after the budget. -/
  | polled (answer : ProbeAnswer) (late : Bool) (wake : Wake)
  deriving DecidableEq

variable (distribution : String)

/-- The transaction with `waitForGracefulExit` written out. -/
def Transaction.observe (txn : Transaction) : Observation → Option Transaction
  | .answer (.waited _) => none
  | .answer answer => txn.advance distribution answer
  | .unitWaited exited _ =>
    match txn.stage with
    | .wait session => if session.unit.isSome then txn.advance distribution (.waited exited) else none
    | _ => none
  | .polled answer _ wake =>
    match txn.stage with
    | .wait session =>
      if session.unit.isSome then none
      else if answer = .absent then txn.advance distribution (.waited true)
      else
        match wake with
        | .tick => some txn
        | .budget | .cancelled => txn.advance distribution (.waited false)
    | _ => none

/-- The budget passes while the server is still there. -/
def Expired (seen : List Observation) : Prop :=
  (∃ late, .unitWaited false late ∈ seen) ∨ ∃ answer late, .polled answer late .budget ∈ seen

def Observation.rejects : Observation → Bool
  | .answer (.session session) => session.ownershipToken = ""
  | .answer (.stopped .rejected _) | .answer (.stopped .unknown _) | .answer (.stopError _) => true
  | _ => false

inductive Evidence (seen : List Observation) : Prop where
  | absent (reason : String) (told : .answer (.stopped .absent reason) ∈ seen)
  | exited (waited : .unitWaited true false ∈ seen) | gone (wake : Wake) (polled : .polled .absent false wake ∈ seen)
  | cleared (before after : List Observation) (error : Option String) (answer : ProbeAnswer)
      (killed : .answer (.killed error) ∈ before)
      (probed : seen = before ++ .answer (.probed answer) :: after)
      (clear : answer = .absent ∨ answer = .mismatch)
  | terminated (done : .answer (.terminated none) ∈ seen)

/-- The observation can be taken for what the transaction takes it for: the wait ends well within
the budget and badly only with it, and a probe for evidence finds the server or, after the kill of
the child, says that it is gone. -/
@[simp] def Transaction.plain (txn : Transaction) : Observation → Bool
  | .unitWaited exited late => !(exited && late)
  | .polled answer late wake => if answer = .absent then !late else wake != .cancelled
  | .answer (.probed answer) =>
    txn.stage != .evidence || match answer with
      | .matchedRunning _ => true
      | .absent | .mismatch => txn.out.childKilled
      | .error | .unknown | .unclassified => false
  | _ => true

variable {distribution} {txn txn' : Transaction} {path : StopPath} {x : Observation}
  {seen : List Observation}

theorem Expired.snoc (expired : Expired seen) : Expired (seen ++ [x]) := by
  rcases expired with ⟨late, mem⟩ | ⟨answer, late, mem⟩
  · exact .inl ⟨late, mem_append_left _ mem⟩
  · exact .inr ⟨answer, late, mem_append_left _ mem⟩

theorem Evidence.snoc (evidence : Evidence seen) : Evidence (seen ++ [x]) := by
  cases evidence with
  | absent reason told => exact .absent reason (mem_append_left _ told)
  | exited waited => exact .exited (mem_append_left _ waited)
  | gone wake polled => exact .gone wake (mem_append_left _ polled)
  | cleared before after error answer killed probed clear =>
    exact .cleared before (after ++ [x]) error answer killed (by simp [probed]) clear
  | terminated done => exact .terminated (mem_append_left _ done)

def Stage.Knows (seen : List Observation) (out : StopOutcome) : Stage → Prop
  | .readSession | .hostStop _ | .wait _ => out.childKilled = false
  | .kill => out.path = .scm ∧ Expired seen
  | .evidence => Expired seen ∧ (out.childKilled = true → ∃ e, .answer (.killed e) ∈ seen)
  | .terminate => Expired seen
  | .confirm graceful => graceful = true ∨ out.rejected = false → Evidence seen
  | .finished => out.completed = true → Evidence seen

namespace Transaction

/-- What was seen of a transaction; while it runs, the stop was not rejected. -/
structure Seen (path : StopPath) (seen : List Observation) (txn : Transaction) : Prop where
  same : txn.out.path = path
  running : txn.stage ≠ .finished → txn.out.completed = false ∧ ∀ x ∈ seen, x.rejects = false
  knows : txn.stage.Knows seen txn.out

theorem Seen.knows_at {stage : Stage} (before : txn.Seen path seen) (at_ : txn.stage = stage) :
    stage.Knows seen txn.out := at_ ▸ before.knows

theorem Seen.next (before : txn.Seen path seen) (live : txn.stage ≠ .finished)
    (quiet : x.rejects = false) (same : txn'.out.path = txn.out.path) (fresh : txn'.out.completed = txn.out.completed)
    (knows : txn'.stage.Knows (seen ++ [x]) txn'.out) : txn'.Seen path (seen ++ [x]) := by
  obtain ⟨open_, heard⟩ := before.running live
  refine ⟨same.trans before.same, fun _ => ⟨fresh.trans open_, ?_⟩, knows⟩
  simpa [or_imp, forall_and] using ⟨heard, quiet⟩

theorem Seen.refused (before : txn.Seen path seen) (live : txn.stage ≠ .finished)
    (stopClass : StopClass) (reason : String) (checkpoint : StopCheckpoint) :
    (refuse txn.out stopClass reason checkpoint).Seen path (seen ++ [x]) :=
  ⟨before.same, absurd rfl, fun completed => absurd ((before.running live).1.symm.trans completed) Bool.false_ne_true⟩

theorem terminateBound_knows {out : StopOutcome} (expired : Expired seen) :
    (terminateBound distribution out).stage.Knows seen (terminateBound distribution out).out := by
  unfold terminateBound
  split
  · exact fun unrejected => by simp at unrejected
  · exact expired

theorem terminateBound_out (distribution : String) (out : StopOutcome) :
    (terminateBound distribution out).out.path = out.path ∧
      (terminateBound distribution out).out.completed = out.completed := by
  unfold terminateBound
  split <;> exact ⟨rfl, rfl⟩

theorem Seen.waited {session : StopSession} {exited : Bool} (before : txn.Seen path seen)
    (waiting : txn.stage = .wait session) (quiet : x.rejects = false)
    (good : exited = true → Evidence (seen ++ [x])) (bad : exited = false → Expired (seen ++ [x]))
    (step : txn.advance distribution (.waited exited) = some txn') : txn'.Seen path (seen ++ [x]) := by
  have live : txn.stage ≠ .finished := by simp [waiting]
  have spared := before.knows_at waiting
  simp only [advance, waiting] at step
  cases exited with
  | true =>
    cases step
    exact before.next live quiet rfl rfl fun _ => good rfl
  | false =>
    have expired := bad rfl
    simp only [Bool.false_eq_true, if_false] at step
    split at step
    · rename_i scm
      unfold scmEscalate at step
      split at step <;> cases step
      · exact before.next live quiet rfl rfl ⟨scm, expired⟩
      · exact before.next live quiet rfl rfl
          ⟨expired, fun killed => absurd (spared.symm.trans killed) Bool.false_ne_true⟩
    · cases step
      obtain ⟨same, fresh⟩ := terminateBound_out distribution (txn.out.mark .budgetExpired)
      exact before.next live quiet same fresh (terminateBound_knows expired)

theorem Seen.probed {answer : ProbeAnswer} (before : txn.Seen path seen)
    (plain : txn.plain (.answer (.probed answer)) = true)
    (step : txn.advance distribution (.probed answer) = some txn') :
    txn'.Seen path (seen ++ [.answer (.probed answer)]) := by
  simp only [advance] at step
  split at step
  · rename_i looking
    have live : txn.stage ≠ .finished := by simp [looking]
    obtain ⟨expired, killed⟩ := before.knows_at looking
    have cleared : answer = .absent ∨ answer = .mismatch → txn.out.childKilled = true →
        Evidence (seen ++ [.answer (.probed answer)]) := by
      intro clear child
      obtain ⟨error, mem⟩ := killed child
      exact .cleared seen [] error answer mem rfl clear
    simp only [Transaction.plain, looking, bne_self_eq_false, Bool.false_or] at plain
    cases answer with
    | matchedRunning =>
      cases step
      obtain ⟨same, fresh⟩ := terminateBound_out distribution txn.out
      exact before.next live rfl same fresh (terminateBound_knows expired.snoc)
    | absent =>
      cases step
      exact before.next live rfl rfl rfl fun _ => cleared (.inl rfl) plain
    | mismatch =>
      cases step
      exact before.next live rfl rfl rfl fun _ => cleared (.inr rfl) plain
    | error | unknown | unclassified => cases plain
  · rename_i graceful confirming
    have evidence := before.knows_at confirming
    cases step
    refine ⟨?_, absurd rfl, fun completed => ?_⟩
    · simp only [StopOutcome.mark]
      split <;> exact before.same
    · refine (evidence ?_).snoc
      split at completed <;> simpa using completed
  · cases step

theorem Seen.step (before : txn.Seen path seen) (plain : txn.plain x = true)
    (step : txn.observe distribution x = some txn') : txn'.Seen path (seen ++ [x]) := by
  have here : x ∈ seen ++ [x] := mem_append_right _ mem_cons_self
  cases x with
  | unitWaited exited late =>
    simp only [observe] at step
    split at step
    · rename_i session waiting
      obtain ⟨-, step⟩ := ite_none_right_eq_some.mp step
      refine before.waited waiting rfl ?_ ?_ step
      · rintro rfl
        obtain rfl : late = false := by simpa using plain
        exact .exited here
      · rintro rfl
        exact .inl ⟨late, here⟩
    · cases step
  | polled answer late wake =>
    simp only [observe] at step
    split at step
    · rename_i session waiting
      split at step
      · cases step
      split at step
      · rename_i absent
        subst absent
        obtain rfl : late = false := by simpa using plain
        exact before.waited waiting rfl (fun _ => .gone wake here) Bool.noConfusion step
      · rename_i present
        cases wake with
        | tick =>
          cases step
          exact before.next (by simp [waiting]) rfl rfl rfl (waiting ▸ before.knows_at waiting)
        | budget => exact before.waited waiting rfl Bool.noConfusion (fun _ => .inr ⟨answer, late, here⟩) step
        | cancelled => simp [present] at plain
    · cases step
  | answer answer =>
    cases answer with
    | waited => cases step
    | probed => exact before.probed plain step
    | session =>
      simp only [observe, advance] at step
      split at step
      · rename_i reading
        have live : txn.stage ≠ .finished := by simp [reading]
        split at step <;> cases step
        · exact before.refused live _ _ _
        · rename_i held
          exact before.next live (decide_eq_false held) rfl rfl (before.knows_at reading)
      · cases step
    | stopError =>
      simp only [observe, advance] at step
      split at step <;> cases step
      rename_i stopping
      exact before.refused (by simp [stopping]) _ _ _
    | stopped stopClass reason =>
      simp only [observe, advance] at step
      split at step
      · rename_i session stopping
        have live : txn.stage ≠ .finished := by simp [stopping]
        cases stopClass with
        | rejected | unknown =>
          cases step
          exact before.refused live _ _ _
        | absent =>
          cases step
          exact before.next live rfl rfl rfl fun _ => .absent reason here
        | signaled | none =>
          cases step
          exact before.next live rfl rfl rfl (before.knows_at stopping)
      · cases step
    | killed error =>
      simp only [observe, advance] at step
      split at step <;> cases step
      rename_i killing
      exact before.next (by simp [killing]) rfl rfl rfl ⟨(before.knows_at killing).2.snoc, fun _ => ⟨error, here⟩⟩
    | terminated =>
      simp only [observe, advance] at step
      split at step
      · rename_i terminating
        have live : txn.stage ≠ .finished := by simp [terminating]
        split at step <;> cases step
        · exact before.next live rfl rfl rfl fun unrejected => by simp at unrejected
        · exact before.next live rfl rfl rfl fun _ => .terminated here
      · cases step

theorem seen_of_run (run : Run (fun txn x txn' => txn.observe distribution x = some txn' ∧
    txn.plain x = true) (start path) seen txn) : txn.Seen path seen :=
  run.history (fun seen txn => txn.Seen path seen) ⟨rfl, fun _ => ⟨rfl, nofun⟩, rfl⟩
    fun _ _ _ _ _ before step => before.step step.2 step.1

end Transaction

/-- A completed stop is backed by evidence, the child is killed only by the service manager's stop
after the budget, and the distribution is terminated only after the budget and not when the stop was
rejected. -/
theorem stop_backed (run : Run (fun txn x txn' =>
    txn.observe distribution x = some txn' ∧ txn.plain x = true) (.start path) seen txn) :
    (txn.out.completed = true → Evidence seen) ∧
    ∀ answer txn', txn.observe distribution (.answer answer) = some txn' →
      (∀ error, answer = .killed error → path = .scm ∧ Expired seen) ∧
      ∀ error, answer = .terminated error → Expired seen ∧ (∀ x ∈ seen, x.rejects = false) ∧
          (error = none → txn'.out.terminateTarget = distribution) := by
  have known := Transaction.seen_of_run run
  refine ⟨fun completed => ?_, fun answer txn' step => ⟨?_, ?_⟩⟩
  · by_cases finished : txn.stage = .finished
    · exact known.knows_at finished completed
    · exact absurd ((known.running finished).1.symm.trans completed) Bool.false_ne_true
  · rintro error rfl
    simp only [Transaction.observe, Transaction.advance] at step
    split at step
    · rename_i killing
      obtain ⟨scm, expired⟩ := known.knows_at killing
      exact ⟨known.same.symm.trans scm, expired⟩
    · cases step
  · rintro error rfl
    simp only [Transaction.observe, Transaction.advance] at step
    split at step
    · rename_i terminating
      refine ⟨known.knows_at terminating, (known.running (by simp [terminating])).2, ?_⟩
      rintro rfl
      cases step
      rfl
    · cases step

/-- A spawned server outlives the budget, is killed, and a probe answers. -/
def killedChild (answer : ProbeAnswer) : List Observation :=
  [.answer (.session ⟨"token", some 0⟩), .answer (.stopped .signaled ""), .unitWaited false false,
    .answer (.killed none), .answer (.probed answer), .answer (.probed .error)]

/-- The theorem at a child that is gone after its kill. -/
theorem stop_backed_killedChild : ∃ txn, Run (fun txn x txn' =>
      Transaction.observe "Ubuntu" txn x = some txn' ∧ txn.plain x = true) (.start .scm) (killedChild .absent) txn ∧
    txn.out.completed = true ∧ Evidence (killedChild .absent) := by
  have facts : ((replay (guarded (Transaction.observe "Ubuntu") fun txn x => txn.plain x = true)
      (.start .scm) (killedChild .absent)).map (·.out.completed)) = some true := by
    decide +kernel
  obtain ⟨txn, replayed, completed⟩ := map_eq_some_iff.mp facts
  have run := guarded_run replayed
  exact ⟨txn, run, completed, (stop_backed run).1 completed⟩

/-- A probe that fails after the kill passes for evidence: the stop is completed on nothing. -/
theorem unprobed_stop_completes : ∃ txn, Run (fun txn x txn' =>
      Transaction.observe "Ubuntu" txn x = some txn') (.start .scm) (killedChild .error) txn ∧
    txn.stage = .finished ∧ txn.out.completed = true ∧ ¬ Evidence (killedChild .error) := by
  have facts : ((replay (Transaction.observe "Ubuntu") (.start .scm) (killedChild .error)).map
      fun txn => (txn.stage, txn.out.completed)) = some (.finished, true) := by
    decide +kernel
  obtain ⟨txn, replayed, found⟩ := map_eq_some_iff.mp facts
  obtain ⟨finished, completed⟩ := Prod.mk.inj found
  refine ⟨txn, replay_run replayed, finished, completed, fun evidence => ?_⟩
  cases evidence with
  | absent reason told => simp [killedChild] at told
  | exited waited => simp [killedChild] at waited
  | gone wake polled => simp [killedChild] at polled
  | terminated done => simp [killedChild] at done
  | cleared before after error answer _ probed clear =>
    have mem : Observation.answer (.probed answer) ∈ killedChild .error := by simp [probed]
    rcases clear with rfl | rfl <;> simp [killedChild] at mem

end AgentGrid.Wslhost
