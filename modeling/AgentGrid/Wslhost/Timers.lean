import AgentGrid.Wslhost.Units

/-!
# What the supervisor waits for

Between two handlers an open supervisor waits for something: for a timer whose callback will act,
or, while it restarts the server, for a recovery stop or for the exit of its unit.  Three steps can
leave it waiting for nothing; in runs without them it never does.
-/

namespace AgentGrid.Wslhost

open AgentGrid.Lib List Option

variable {t : Thresholds} {a : Answers} {s s' : Supervisor} {res : HealthResult} {w w' : World}
  {label : Label} {c c' : Custody}

/-- The timer is armed, or it has fired and its callback waits for the mutex. -/
def World.Waiting (w : World) (timer : Timer) : Prop :=
  w.sup.pendingTimer = some timer ∨ timer ∈ w.firing

/-- The exit of the current unit will be reported, and under the epoch that counts. -/
def Custody.watched (c : Custody) : Bool :=
  c.unit.any fun n => c.units[n]?.any fun u => !u.delivered && decide (u.watch = c.unitEpoch)

@[simp] def Phase.timed : Phase → Bool
  | .starting | .ready | .alreadyRunning | .backoff => true
  | .stopped | .failed | .restarting => false

structure World.Listens (w : World) : Prop where
  timed : w.sup.phase.timed = true → ∃ timer, w.Waiting timer ∧ timer.epoch = w.sup.epoch ∧ ¬ timer.Skipped w.sup
  restarting : w.sup.phase = .restarting → w.sup.recoveryActive = true ∨ w.sup.watched = true

/-- The server is restarted, and its exit is not watched. -/
def Supervisor.abandons (t : Thresholds) (s : Supervisor) (res : HealthResult) : Bool :=
  !res.good && decide (s.phase = .ready) &&
    decide (t.healthRestartThreshold ≤ s.healthFails + 1) && !s.recoveryStop &&
    !s.recoveryActive && s.unit.isSome && !s.watched

/-- The step leaves the supervisor waiting for nothing: a resume finds a spawn in flight and no
server, a bad health result is delivered during a backoff, or a server is restarted whose exit is
not watched. -/
def World.deafens (t : Thresholds) (w : World) : Label → Bool
  | .callback n res a =>
    w.firing[n]?.any fun timer => decide (timer.epoch = w.sup.epoch) &&
      (decide (timer.kind = .resume) && w.sup.spawnInFlight && decide (a.probe = .absent) &&
          decide (w.sup.phase = .starting ∨ w.sup.phase = .backoff ∨ w.sup.phase = .restarting)
        || w.sup.abandons t res)
  | .deliverHealth res epoch a =>
    decide (epoch = w.sup.epoch) && (decide (w.sup.phase = .backoff) && !res.good &&
          !(startupBudgetExpiredLocked t w.sup a.now).2
        || w.sup.abandons t res)
  | _ => false

def Custody.Held (c : Custody) : Prop := c.spawnInFlight = true → c.unit.isSome = true

/-! ## Timers that act -/

theorem Supervisor.Armed.listens {kind : TimerKind} (armed : s.Armed kind) (opened : s.closed = false)
    (timed : s.phase.timed = true) (acts : kind = .resume ∨ kind = .health ∧ s.phase ≠ .backoff ∨
      kind = .backoff ∧ s.phase = .backoff) (firing : List Timer) :
    World.Listens { sup := s, firing := firing } := by
  obtain ⟨delay, pending⟩ := armed
  refine ⟨fun _ => ⟨_, .inl pending, rfl, ?_⟩, fun restarting => ?_⟩
  · unfold Timer.Skipped
    rcases acts with rfl | ⟨rfl, phase⟩ | ⟨rfl, phase⟩
    all_goals cases phase' : s.phase <;> simp_all
  · have restarting : s.phase = .restarting := restarting
    simp [restarting] at timed

theorem Supervisor.GaveUp.listens (gaveUp : s.GaveUp) (opened : s.closed = false)
    (firing : List Timer) : World.Listens { sup := s, firing := firing } := by
  rcases gaveUp with failed | ⟨backoff, armed⟩
  · exact ⟨fun timed => by simp [failed] at timed, fun restarting => by simp [failed] at restarting⟩
  · exact armed.listens opened (by simp [backoff]) (.inr (.inr ⟨rfl, backoff⟩)) firing

theorem Supervisor.Judged.listens {phase : Phase} (judged : s.Judged res phase)
    (opened : s.closed = false) (early : phase = .starting ∨ phase = .alreadyRunning)
    (firing : List Timer) : World.Listens { sup := s, firing := firing } := by
  rcases judged with gaveUp | ⟨ready, -, armed⟩ | ⟨same, -, armed⟩
  · exact gaveUp.listens opened firing
  · exact armed.listens opened (by simp [ready]) (.inr (.inl ⟨rfl, by simp [ready]⟩)) firing
  rcases early with rfl | rfl
  all_goals exact armed.listens opened (by simp [same]) (.inr (.inl ⟨rfl, by simp [same]⟩)) firing

theorem Cycled.listens (cycle : Cycled a s s') (opened : s.closed = false)
    (acts : s.spawnInFlight = true → a.probe ≠ .absent) (firing : List Timer) :
    World.Listens { sup := s', firing := firing } := by
  cases cycle with
  | idle inFlight absent => exact absurd absent (acts inFlight)
  | gaveUp custody outcome | unstarted _ _ custody outcome => exact outcome.listens (by rwa [custody]) firing
  | adopted _ _ custody outcome => exact outcome.listens (by rwa [custody]) (.inr rfl) firing
  | spawned _ _ custody outcome => exact outcome.listens (by rwa [custody]) (.inl rfl) firing

theorem Cycled.listens_of_free (cycle : Cycled a s s') (opened : s.closed = false)
    (free : s.spawnInFlight = false) (firing : List Timer) : World.Listens { sup := s', firing := firing } := by
  refine cycle.listens opened (fun inFlight => ?_) firing
  cases free.symm.trans inFlight

theorem World.Listens.restarts (listens : w.Listens) (same : s'.phase = w.sup.phase)
    (active : s'.recoveryActive = w.sup.recoveryActive)
    (watched : w.sup.watched = true → s'.watched = true) (restarting : s'.phase = .restarting) :
    s'.recoveryActive = true ∨ s'.watched = true := by
  rw [active]
  exact (listens.restarting (same.symm.trans restarting)).imp_right watched

theorem World.Listens.keep (listens : w.Listens) (w' : World) (same : w'.sup.phase = w.sup.phase)
    (epoch : w'.sup.epoch = w.sup.epoch) (closed : w'.sup.closed = w.sup.closed)
    (active : w'.sup.recoveryActive = w.sup.recoveryActive) (watched : w.sup.watched = true → w'.sup.watched = true)
    (waiting : ∀ timer, w.Waiting timer → ¬ timer.Skipped w.sup → w'.Waiting timer) : w'.Listens := by
  refine ⟨fun timed => ?_, listens.restarts same active watched⟩
  obtain ⟨timer, waits, current, acts⟩ := listens.timed (same ▸ timed)
  refine ⟨timer, waiting timer waits acts, current.trans epoch.symm, ?_⟩
  unfold Timer.Skipped at acts ⊢
  rwa [same, epoch, closed]

/-! ## Steps -/

theorem Cycled.held (cycle : Cycled a s s') (held : s.toCustody.Held) : s'.toCustody.Held := by
  cases cycle with
  | idle _ _ custody | gaveUp custody | unstarted _ _ custody | adopted _ _ custody => rwa [custody]
  | spawned _ _ custody =>
    rw [custody]
    exact fun _ => rfl

theorem World.Step.held (idle : w.sup.healthInFlight = false) (held : w.sup.toCustody.Held)
    (step : w.Step t label w') : w'.sup.toCustody.Held := by
  cases step.move idle with
  | wire | close | exit | fire | startIgnored | resumeIgnored | skipped | healthIgnored
  | recoveryIgnored => exact held
  | started _ _ _ _ custody cycle | retried _ _ _ _ _ _ _ _ _ _ _ custody cycle
  | exitCycled _ _ _ _ _ _ _ _ _ custody cycle | recovered _ _ _ _ _ _ custody cycle =>
    exact cycle.held (by rw [custody]; exact nofun)
  | resumed _ _ custody | exitIgnored _ _ _ _ _ _ custody | recoveryFailed _ _ _ _ custody =>
    simp only [custody]
    exact held
  | asked _ _ _ _ _ _ _ _ _ taken | healthTaken _ _ _ _ taken =>
    exact taken.preserves (fun _ _ => held) fun _ held cycle => cycle.held held
  | rechecked _ _ _ _ _ _ _ _ _ _ _ custody cycle => exact cycle.held (by rwa [custody])
  | exitNoted _ _ _ _ _ _ _ _ custody | exitFailed _ _ _ _ _ _ _ custody =>
    simp only [custody]
    exact nofun

/-- A health result keeps the supervisor listening, unless it falls into a backoff or abandons a
unit. -/
theorem Taken.listens (taken : Taken t a res w.sup s') (listens : w.Listens)
    (held : w.sup.toCustody.Held) (opened : w.sup.closed = false) (kept : w.sup.abandons t res = false)
    (early : w.sup.phase = .backoff → res.good = false →
      (startupBudgetExpiredLocked t w.sup a.now).2 = false → False) (firing : List Timer) :
    World.Listens { sup := s', firing := firing } := by
  cases taken with
  | good _ custody ready armed =>
    exact armed.listens (by rwa [custody]) (by simp [ready]) (.inr (.inl ⟨rfl, by simp [ready]⟩)) firing
  | gaveUp _ custody outcome => exact outcome.listens (by rwa [custody]) firing
  | waits bad custody phase armed within =>
    have notBackoff : w.sup.phase ≠ .backoff := fun backoff => early backoff bad (within backoff)
    by_cases timed : s'.phase.timed
    · exact armed.listens (by rwa [custody]) timed (.inr (.inl ⟨rfl, phase ▸ notBackoff⟩)) firing
    · exact ⟨fun yes => absurd yes timed, listens.restarts phase (by rw [custody]) (by rw [custody]; exact id)⟩
  | ignored _ same ended =>
    subst same
    rcases ended with ended | ended
    all_goals exact ⟨fun timed => by simp [ended] at timed, fun restarting => by simp [ended] at restarting⟩
  | recovering _ _ custody phase => exact ⟨fun timed => by simp [phase] at timed, fun _ => .inl (by simp [custody])⟩
  | stopping bad ready reached unwired unit _ _ custody phase =>
    refine ⟨fun timed => by simp [phase] at timed, fun _ => ?_⟩
    have watched : w.sup.recoveryActive = true ∨ w.sup.watched = true := by
      rcases unwired with unwired | active
      · by_contra lost
        simp only [not_or, Bool.not_eq_true] at lost
        simp [Supervisor.abandons, bad, ready, reached, unwired, unit, lost.1, lost.2] at kept
      · exact .inl active
    simpa [custody, Custody.watched] using watched
  | cycled _ _ free _ _ _ custody cycle =>
    refine cycle.listens (by rwa [custody]) ?_ firing
    rw [custody]
    intro inFlight
    simpa [free] using held inFlight

theorem World.Waiting.eraseIdx {n : Nat} {timer other : Timer} (waiting : w.Waiting timer)
    (fired : w.firing[n]? = some other) (different : timer ≠ other) :
    World.Waiting { w with firing := w.firing.eraseIdx n } timer := by
  rcases waiting with pending | mem
  · exact .inl pending
  obtain ⟨i, found⟩ := mem_iff_getElem?.mp mem
  refine .inr (mem_eraseIdx_iff_getElem?.mpr ⟨i, ?_, found⟩)
  rintro rfl
  rw [fired] at found
  exact different (some.inj found).symm

theorem Custody.watched_reported {n : Nat} {u : SupervisedUnit} (there : c.units[n]? = some u)
    (other : u.watch ≠ c.unitEpoch) (watched : c.watched = true) : (c.reported n u).watched = true := by
  unfold Custody.watched Custody.reported at *
  cases unit : c.unit with
  | none => simp [unit] at watched
  | some m =>
    simp only [unit, any_some] at watched ⊢
    have different : n ≠ m := by
      rintro rfl
      simp [there, other] at watched
    rwa [getElem?_set_ne different]

theorem Custody.watched_exited {n : Nat} {u : SupervisedUnit} (there : c.units[n]? = some u)
    (watched : c.watched = true) :
    ({ c with units := c.units.set n { u with exited := true } } : Custody).watched = true := by
  unfold Custody.watched at *
  cases unit : c.unit with
  | none => simp [unit] at watched
  | some m =>
    simp only [unit, any_some] at watched ⊢
    by_cases same : n = m
    · subst same
      rw [getElem?_set_self (List.getElem?_eq_some_iff.mp there).1]
      simpa [there] using watched
    · rwa [getElem?_set_ne same]

theorem World.Step.listens (idle : w.sup.healthInFlight = false) (held : w.sup.toCustody.Held)
    (listens : w.sup.closed = false → w.Listens) (hears : w.deafens t label = false)
    (step : w.Step t label w') (opened' : w'.sup.closed = false) : w'.Listens := by
  cases step.move idle with
  | wire => exact (listens opened').keep _ rfl rfl rfl rfl id fun _ waiting _ => waiting
  | close => cases opened'
  | exit unit u there =>
    exact (listens opened').keep _ rfl rfl rfl rfl (Custody.watched_exited there) fun _ waiting _ => waiting
  | fire timer pending =>
    refine (listens opened').keep _ rfl rfl rfl rfl id fun other waiting _ => ?_
    rcases waiting with waiting | mem
    · cases pending.symm.trans waiting
      exact .inr (mem_append_right _ (mem_singleton_self _))
    · exact .inr (mem_append_left _ mem)
  | startIgnored _ closed => cases closed.symm.trans opened'
  | resumeIgnored | healthIgnored => exact listens opened'
  | started _ opened _ _ custody cycle => exact cycle.listens_of_free (by rwa [custody]) (by rw [custody]; rfl) _
  | resumed s' opened custody phase armed =>
    by_cases timed : s'.phase.timed
    · exact armed.listens (by rwa [custody]) timed (.inl rfl) _
    · exact ⟨fun yes => absurd yes timed, (listens opened).restarts phase (by rw [custody])
        (by rw [custody]; exact id)⟩
  | skipped n _ _ timer fired why =>
    refine (listens opened').keep _ rfl rfl rfl rfl id fun other waiting acts => waiting.eraseIdx fired ?_
    rintro rfl
    exact acts why
  | asked n res a timer fired asks current s' opened taken =>
    simp only [World.deafens, fired, any_some, current, decide_true, Bool.true_and, Bool.or_eq_false_iff] at hears
    refine taken.listens (listens opened) held opened hears.2 (fun backoff => ?_) _
    rcases asks with ⟨-, ready | running⟩ | ⟨-, -, -, notBackoff⟩
    · simp [ready] at backoff
    · simp [running] at backoff
    · exact absurd backoff notBackoff
  | rechecked n res a timer fired kind current _ s' opened early custody cycle =>
    refine cycle.listens (by rwa [custody]) ?_ _
    rw [custody]
    intro inFlight absent
    simp [World.deafens, fired, kind, current, inFlight, absent, early] at hears
  | retried _ _ _ _ _ _ _ _ _ opened _ custody cycle =>
    exact cycle.listens_of_free (by rwa [custody]) (by rw [custody]; rfl) _
  | healthTaken res a s' opened taken =>
    simp only [World.deafens, decide_true, Bool.true_and, Bool.or_eq_false_iff] at hears
    refine taken.listens (listens opened) held opened hears.2 (fun backoff bad within => ?_) _
    simp [backoff, bad, within] at hears
  | exitIgnored unit _ u exiting s' why custody phase timer =>
    have opened : w.sup.closed = false := by simpa [custody] using opened'
    have stale := why.resolve_left (by simp [opened])
    refine (listens opened).keep _ phase (by rw [custody]; rfl) (by rw [custody]; rfl)
      (by rw [custody]; rfl) ?_ fun other waiting _ => ?_
    · rw [custody]
      exact Custody.watched_reported exiting.1 stale
    · exact waiting.imp_left timer.trans
  | exitNoted _ _ _ _ s' _ _ quiet custody phase =>
    refine ⟨fun timed => ?_, fun restarting => ?_⟩
    · rw [phase] at timed
      rcases quiet with ended | ended | ⟨ended, -⟩
      all_goals simp [ended] at timed
    · rw [phase] at restarting
      rcases quiet with ended | ended | ⟨-, active⟩
      · simp [ended] at restarting
      · simp [ended] at restarting
      · exact .inl (by simpa [custody] using active)
  | exitFailed _ _ _ _ _ opened _ custody outcome => exact outcome.listens (by rwa [custody]) _
  | exitCycled _ _ _ _ _ _ opened _ _ custody cycle =>
    exact cycle.listens_of_free (by rwa [custody]) (by rw [custody]; rfl) _
  | recoveryIgnored _ _ _ why =>
    have notRestarting := why.resolve_left (by simp_all)
    exact ⟨(listens opened').timed, fun restarting => absurd restarting notRestarting⟩
  | recoveryFailed _ _ _ opened custody outcome => exact outcome.listens (by rwa [custody]) _
  | recovered _ _ _ _ opened _ custody cycle =>
    exact cycle.listens_of_free (by rwa [custody]) (by rw [custody]; rfl) _

/-- In every run without a step that deafens it, an open supervisor that is starting, ready, already
running or backing off waits for a timer that carries the current epoch and will act, and one that
restarts waits for a recovery stop or for the exit of its unit. -/
theorem supervisor_listens {labels : List Label}
    (run : Run (fun w label w' => w.Step t label w' ∧ w.deafens t label = false) {} labels w)
    (opened : w.sup.closed = false) :
    (w.sup.phase.timed = true → ∃ timer, w.Waiting timer ∧ timer.epoch = w.sup.epoch ∧ ¬ timer.Skipped w.sup) ∧
    (w.sup.phase = .restarting → w.sup.recoveryActive = true ∨
      ∃ n u, w.sup.unit = some n ∧ w.sup.units[n]? = some u ∧ u.delivered = false ∧ u.watch = w.sup.unitEpoch) := by
  have inv := run.invariant (fun w => w.sup.healthInFlight = false ∧ w.sup.toCustody.Held ∧
      (w.sup.closed = false → w.Listens))
    ⟨rfl, nofun, fun _ => ⟨nofun, nofun⟩⟩ fun w label w' inv step =>
      ⟨step.1.idle inv.1, step.1.held inv.1 inv.2.1, step.1.listens inv.1 inv.2.1 inv.2.2 step.2⟩
  have listens := inv.2.2 opened
  refine ⟨listens.timed, fun restarting => (listens.restarting restarting).imp_right fun watched => ?_⟩
  obtain ⟨n, unit, watched⟩ := (Option.any_eq_true _ _).mp watched
  obtain ⟨u, there, watched⟩ := (Option.any_eq_true _ _).mp watched
  simp only [Bool.and_eq_true, Bool.not_eq_true', decide_eq_true_eq] at watched
  exact ⟨n, u, unit, there, watched⟩

def healthyStart : List Label :=
  [.start { probe := .absent }, .fire, .callback 0 ⟨true, healthStatusOK⟩ { now := 5 * second }]

/-- The theorem at a run that ends in readiness. -/
theorem supervisor_listens_healthyStart : ∃ w,
    Run (fun w label w' => World.Step {} w label w' ∧ w.deafens {} label = false) {} healthyStart w ∧
    w.sup.phase = .ready ∧ ∃ timer, w.Waiting timer ∧ timer.epoch = w.sup.epoch ∧ ¬ timer.Skipped w.sup := by
  have facts : ((replay (guarded (World.act {}) fun w label => w.deafens {} label = false) {}
      healthyStart).map fun w => (w.sup.phase, w.sup.closed)) = some (.ready, false) := by
    decide +kernel
  obtain ⟨w, replayed, found⟩ := map_eq_some_iff.mp facts
  obtain ⟨ready, opened⟩ := Prod.mk.inj found
  have run := guarded_run replayed
  exact ⟨w, run, ready, (supervisor_listens run opened).1 (by rw [ready]; rfl)⟩

/-- The machine resumes while a slow server is still absent to the probe. -/
def slowResume : List Label :=
  [.start { probe := .absent }, .onResume, .fire, .callback 0 {} { probe := .absent }]

/-- Nothing is scheduled any more: no timer is armed, and no callback waits for the mutex. -/
theorem slow_resume_deaf : ∃ w, Run (World.Step {}) {} slowResume w ∧
    w.sup.closed = false ∧ w.sup.phase = .starting ∧ ∀ timer, ¬ w.Waiting timer := by
  have facts : ((replay (World.act {}) {} slowResume).map fun w =>
      (w.sup.closed, w.sup.phase, w.sup.pendingTimer, w.firing)) = some (false, .starting, none, []) := by
    decide +kernel
  obtain ⟨w, replayed, found⟩ := map_eq_some_iff.mp facts
  obtain ⟨opened, phase, unarmed, quiet⟩ : w.sup.closed = false ∧ w.sup.phase = .starting ∧
      w.sup.pendingTimer = none ∧ w.firing = [] := by simpa using found
  refine ⟨w, replay_run replayed, opened, phase, fun timer waiting => ?_⟩
  simp [World.Waiting, unarmed, quiet] at waiting

end AgentGrid.Wslhost
