import AgentGrid.Wslhost.Moves
import Mathlib.Order.Basic

/-!
# The units of the supervisor

The supervisor starts a server only when a probe found none, and means to start one only when the
unit it started before is gone.  The flag that a spawn is in flight stands for that unit.  Three
handlers forget the flag without asking whether the unit has exited; where they run only after
that, at most one unit is ever alive.
-/

namespace AgentGrid.Wslhost

open AgentGrid.Lib List

variable {t : Thresholds} {a : Answers} {s s' : Supervisor} {res : HealthResult} {w w' : World}
  {label : Label} {c c' : Custody}

/-! ## Epochs of the units -/

/-- Units whose exit is not yet reported were started in different epochs. -/
structure Custody.Dated (c : Custody) : Prop where
  seen : ∀ u ∈ c.units, u.watch ≤ c.unitEpoch
  epoch : c.unitEpoch ≤ c.epoch
  ordered : ∀ (i j : Nat) (u v : SupervisedUnit), i < j → c.units[i]? = some u →
    c.units[j]? = some v → u.delivered = false → u.watch < v.watch
  past : c.spawnInFlight = false → ∀ u ∈ c.units, u.delivered = false → u.watch < c.epoch

/-- The units keep their watchers, and what was reported stays reported. -/
def Follows (units units' : List SupervisedUnit) : Prop :=
  ∀ (i : Nat) (u' : SupervisedUnit), units'[i]? = some u' → ∃ u : SupervisedUnit,
    units[i]? = some u ∧ u'.watch = u.watch ∧
    (u'.delivered = false → u.delivered = false) ∧ (u.exited = true → u'.exited = true)

theorem Follows.refl (units : List SupervisedUnit) : Follows units units :=
  fun _ u there => ⟨u, there, rfl, id, id⟩

variable {units : List SupervisedUnit} {n : Nat} {u u' : SupervisedUnit}

theorem Follows.set (there : units[n]? = some u) (watch : u'.watch = u.watch)
    (delivered : u'.delivered = false → u.delivered = false)
    (exited : u.exited = true → u'.exited = true) : Follows units (units.set n u') := by
  intro i v found
  rw [getElem?_set] at found
  split at found
  · rename_i same
    subst same
    split at found <;> cases found
    exact ⟨u, there, watch, delivered, exited⟩
  · exact ⟨v, found, rfl, id, id⟩

theorem Follows.mem {units' : List SupervisedUnit} (follows : Follows units units')
    (mem : u' ∈ units') : ∃ u ∈ units, u'.watch = u.watch ∧
      (u'.delivered = false → u.delivered = false) ∧ (u.exited = true → u'.exited = true) := by
  obtain ⟨i, found⟩ := mem_iff_getElem?.mp mem
  obtain ⟨u, there, rest⟩ := follows i u' found
  exact ⟨u, mem_of_getElem? there, rest⟩

theorem Custody.Dated.new : ({} : Custody).Dated :=
  ⟨nofun, Nat.le_refl _, by simp, nofun⟩

theorem Custody.Dated.advance (dated : c.Dated) (follows : Follows c.units c'.units)
    (seen : c.unitEpoch ≤ c'.unitEpoch) (epoch : c'.unitEpoch ≤ c'.epoch) (past : c'.spawnInFlight = false →
      c.spawnInFlight = false ∧ c.epoch ≤ c'.epoch ∨ c.epoch < c'.epoch) : c'.Dated := by
  refine ⟨fun u' mem => ?_, epoch, fun i j u' v' before first second undelivered => ?_,
    fun free u' mem undelivered => ?_⟩
  · obtain ⟨u, mem, watch, -⟩ := follows.mem mem
    exact watch ▸ (dated.seen u mem).trans seen
  · obtain ⟨u, first, watch, kept, -⟩ := follows i u' first
    obtain ⟨v, second, watch', -⟩ := follows j v' second
    rw [watch, watch']
    exact dated.ordered i j u v before first second (kept undelivered)
  · obtain ⟨u, mem, watch, kept, -⟩ := follows.mem mem
    rw [watch]
    rcases past free with ⟨free, le⟩ | lt
    · exact (dated.past free u mem (kept undelivered)).trans_le le
    · exact ((dated.seen u mem).trans dated.epoch).trans_lt lt

theorem Custody.Dated.keep (dated : c.Dated) (follows : Follows c.units c'.units)
    (unitEpoch : c'.unitEpoch = c.unitEpoch) (epoch : c'.epoch = c.epoch)
    (spawn : c'.spawnInFlight = false → c.spawnInFlight = false) : c'.Dated := by
  refine dated.advance follows unitEpoch.ge ?_ fun free => .inl ⟨spawn free, epoch.ge⟩
  rw [unitEpoch, epoch]
  exact dated.epoch

theorem Custody.Dated.spawn (dated : c.Dated) (free : c.spawnInFlight = false)
    (units : c'.units = c.units ++ [{ watch := c.epoch }]) (unitEpoch : c'.unitEpoch = c.epoch)
    (epoch : c'.epoch = c.epoch) (inFlight : c'.spawnInFlight = true) : c'.Dated := by
  refine ⟨fun u mem => ?_, (unitEpoch.trans epoch.symm).le, fun i j u v before first second
    undelivered => ?_, fun idle => by simp [inFlight] at idle⟩
  · rw [units, mem_append, mem_singleton] at mem
    rw [unitEpoch]
    rcases mem with mem | rfl
    · exact (dated.seen u mem).trans dated.epoch
    · exact Nat.le_refl _
  · rw [units] at first second
    have inside : j < (c.units ++ [({ watch := c.epoch } : SupervisedUnit)]).length :=
      (List.getElem?_eq_some_iff.mp second).1
    rw [length_append, length_singleton] at inside
    rw [getElem?_append_left (by omega)] at first
    by_cases old : j < c.units.length
    · rw [getElem?_append_left old] at second
      exact dated.ordered i j u v before first second undelivered
    have last : j = c.units.length := by omega
    subst last
    rw [getElem?_concat_length] at second
    cases second
    exact dated.past free u (mem_of_getElem? first) undelivered

theorem Custody.Dated.released (dated : c.Dated) (exiting : c.Exiting n u) (current : u.watch = c.unitEpoch) :
    (c.reported n u).released.Dated := by
  obtain ⟨there, -, undelivered⟩ := exiting
  have follows : Follows c.units (c.reported n u).units := Follows.set there rfl (by simp) id
  have reported := dated.advance follows (Nat.le_refl _) dated.epoch fun free => .inl ⟨free, Nat.le_refl _⟩
  refine ⟨reported.seen, reported.epoch, reported.ordered, fun _ v mem unreported => ?_⟩
  obtain ⟨j, found⟩ := mem_iff_getElem?.mp mem
  have notSame : n ≠ j := by
    rintro rfl
    have inside : n < c.units.length := (List.getElem?_eq_some_iff.mp there).1
    have last : some { u with delivered := true } = some v := by simpa [inside] using found
    cases last
    cases unreported
  have older : c.units[j]? = some v := by simpa [getElem?_set, notSame] using found
  have seen := dated.seen v (mem_of_getElem? older)
  have epoch := dated.epoch
  have different : v.watch ≠ u.watch := by
    rcases Nat.lt_or_gt_of_ne notSame with before | after
    · exact (dated.ordered n j u v before there older undelivered).ne'
    · exact (dated.ordered j n v u after older there unreported).ne
  change v.watch < c.epoch
  omega

theorem Cycled.dated (cycle : Cycled a s s') (dated : s.toCustody.Dated) : s'.toCustody.Dated := by
  cases cycle with
  | idle _ _ custody | gaveUp custody | unstarted _ _ custody =>
    rw [custody]
    exact dated.keep (.refl _) rfl rfl id
  | adopted _ _ custody =>
    rw [custody]
    refine dated.advance (.refl _) dated.epoch (Nat.le_refl _) ?_
    exact fun free => .inl ⟨free, Nat.le_refl _⟩
  | spawned free _ custody =>
    rw [custody]
    exact dated.spawn free rfl rfl rfl rfl

theorem World.Step.dated (idle : w.sup.healthInFlight = false) (dated : w.sup.toCustody.Dated)
    (step : w.Step t label w') : w'.sup.toCustody.Dated := by
  have later : ∀ c' : Custody, c'.units = w.sup.units → c'.unitEpoch = w.sup.unitEpoch →
      c'.epoch = w.sup.epoch + 1 → c'.Dated := by
    intro c' units unitEpoch epoch
    refine dated.advance (units ▸ .refl _) unitEpoch.ge ?_ fun _ => .inr (by omega)
    have := dated.epoch
    omega
  cases step.move idle with
  | wire | close | recoveryIgnored => exact dated.keep (.refl _) rfl rfl id
  | fire | startIgnored | resumeIgnored | skipped | healthIgnored => exact dated
  | exit unit u there => exact dated.keep (.set there rfl id fun _ => rfl) rfl rfl id
  | started _ _ _ _ custody cycle | retried _ _ _ _ _ _ _ _ _ _ _ custody cycle
  | recovered _ _ _ _ _ _ custody cycle => exact cycle.dated (by rw [custody]; exact later _ rfl rfl rfl)
  | resumed _ _ custody =>
    simp only [custody]
    exact later _ rfl rfl rfl
  | asked _ _ _ _ _ _ _ _ _ taken | healthTaken _ _ _ _ taken =>
    exact taken.preserves (fun _ _ => dated.keep (.refl _) rfl rfl id) fun _ dated cycle => cycle.dated dated
  | rechecked _ _ _ _ _ _ _ _ _ _ _ custody cycle => exact cycle.dated (by rwa [custody])
  | exitIgnored _ _ u exiting _ _ custody =>
    simp only [custody]
    exact dated.keep (.set exiting.1 rfl (by simp) id) rfl rfl id
  | exitNoted _ _ _ exiting _ _ current _ custody | exitFailed _ _ _ exiting _ _ current custody =>
    simp only [custody]
    exact dated.released exiting current
  | exitCycled _ _ _ exiting _ _ _ current _ custody cycle =>
    exact cycle.dated (by rw [custody]; exact dated.released exiting current)
  | recoveryFailed _ _ _ _ custody =>
    simp only [custody]
    exact dated.keep (.refl _) rfl rfl id

/-! ## One unit alive -/

def World.AllExited (w : World) : Prop := ∀ u ∈ w.sup.units, u.exited = true

instance (w : World) : Decidable w.AllExited :=
  inferInstanceAs (Decidable (∀ u ∈ w.sup.units, u.exited = true))

/-- The step begins a new cycle and forgets a spawn in flight. -/
@[simp] def World.renews (w : World) : Label → Bool
  | .start _ => !w.sup.closed
  | .callback n _ _ =>
    !w.sup.closed && decide (w.sup.phase = .backoff) && w.firing[n]?.any fun timer =>
      decide (timer.kind = .backoff ∧ timer.epoch = w.sup.epoch)
  | .onRecoveryStop rejected _ => !rejected && !w.sup.closed && decide (w.sup.phase = .restarting)
  | _ => false

/-- A new cycle begins only after every unit has exited. -/
def World.Prudent (w : World) (label : Label) : Prop := w.renews label = true → w.AllExited

instance (w : World) (label : Label) : Decidable (w.Prudent label) :=
  inferInstanceAs (Decidable (w.renews label = true → w.AllExited))

/-- Only the last unit may be alive, and only while a spawn is in flight. -/
structure Custody.Alone (c : Custody) : Prop where
  free : c.spawnInFlight = false → ∀ u ∈ c.units, u.exited = true
  others : ∀ (i : Nat) (u : SupervisedUnit), c.units[i]? = some u → i + 1 < c.units.length → u.exited = true

theorem Custody.Alone.of_exited (exited : ∀ u ∈ c.units, u.exited = true) : c.Alone :=
  ⟨fun _ => exited, fun _ u there _ => exited u (mem_of_getElem? there)⟩

theorem Custody.Alone.keep (alone : c.Alone) (follows : Follows c.units c'.units)
    (length : c'.units.length = c.units.length)
    (free : c'.spawnInFlight = false → c.spawnInFlight = false) : c'.Alone := by
  refine ⟨fun idle u' mem => ?_, fun i u' found before => ?_⟩
  · obtain ⟨u, mem, -, -, exited⟩ := follows.mem mem
    exact exited (alone.free (free idle) u mem)
  · obtain ⟨u, there, -, -, exited⟩ := follows i u' found
    exact exited (alone.others i u there (length ▸ before))

theorem Custody.Alone.exited (alone : c.Alone) (dated : c.Dated) (exiting : c.Exiting n u)
    (current : u.watch = c.unitEpoch) : ∀ v ∈ c.units, v.exited = true := by
  obtain ⟨there, exited, undelivered⟩ := exiting
  intro v mem
  obtain ⟨j, found⟩ := mem_iff_getElem?.mp mem
  by_cases last : j + 1 < c.units.length
  · exact alone.others j v found last
  have inside : n < c.units.length := (List.getElem?_eq_some_iff.mp there).1
  rcases Nat.lt_or_ge n j with before | after
  · have older := dated.ordered n j u v before there found undelivered
    have seen := dated.seen v mem
    omega
  have same : n = j := by omega
  subst same
  cases there.symm.trans found
  exact exited

theorem Custody.Alone.released (alone : c.Alone) (dated : c.Dated) (exiting : c.Exiting n u)
    (current : u.watch = c.unitEpoch) : (c.reported n u).released.Alone := by
  have exited := alone.exited dated exiting current
  refine .of_exited fun v mem => ?_
  rcases mem_or_eq_of_mem_set mem with mem | rfl
  · exact exited v mem
  · exact exiting.2.1

theorem Cycled.alone (cycle : Cycled a s s') (alone : s.toCustody.Alone) : s'.toCustody.Alone := by
  cases cycle with
  | idle _ _ custody | gaveUp custody | unstarted _ _ custody | adopted _ _ custody =>
    rw [custody]
    exact alone.keep (.refl _) rfl id
  | spawned free _ custody =>
    rw [custody]
    refine ⟨nofun, fun i u found before => ?_⟩
    have older : i < s.units.length := by simpa using before
    rw [getElem?_append_left older] at found
    exact alone.free free u (mem_of_getElem? found)

/-- Where the flag is forgotten only after every unit has exited, it keeps standing for the unit
that is alive. -/
theorem World.Step.alone (idle : w.sup.healthInFlight = false) (dated : w.sup.toCustody.Dated)
    (alone : w.sup.toCustody.Alone) (prudent : w.Prudent label)
    (step : w.Step t label w') : w'.sup.toCustody.Alone := by
  cases step.move idle with
  | wire | close | recoveryIgnored => exact alone.keep (.refl _) rfl id
  | fire | startIgnored | resumeIgnored | skipped | healthIgnored => exact alone
  | exit unit u there => exact alone.keep (.set there rfl id fun _ => rfl) (by simp) id
  | started _ opened _ _ custody cycle =>
    refine cycle.alone ?_
    rw [custody]
    exact .of_exited (prudent (by simp [opened]))
  | retried _ _ _ _ fired kind current _ _ opened backoff custody cycle =>
    refine cycle.alone ?_
    rw [custody]
    exact .of_exited (prudent (by simp [opened, backoff, fired, kind, current]))
  | recovered _ _ _ _ opened restarting custody cycle =>
    refine cycle.alone ?_
    rw [custody]
    exact .of_exited (prudent (by simp [opened, restarting]))
  | resumed _ _ custody =>
    simp only [custody]
    exact alone.keep (.refl _) rfl id
  | asked _ _ _ _ _ _ _ _ _ taken | healthTaken _ _ _ _ taken =>
    exact taken.preserves (fun _ _ => alone.keep (.refl _) rfl id) fun _ alone cycle => cycle.alone alone
  | rechecked _ _ _ _ _ _ _ _ _ _ _ custody cycle => exact cycle.alone (by rwa [custody])
  | exitIgnored _ _ u exiting _ _ custody =>
    simp only [custody]
    exact alone.keep (.set exiting.1 rfl (by simp) id) (by simp) id
  | exitNoted _ _ _ exiting _ _ current _ custody | exitFailed _ _ _ exiting _ _ current custody =>
    simp only [custody]
    exact alone.released dated exiting current
  | exitCycled _ _ _ exiting _ _ _ current _ custody cycle =>
    exact cycle.alone (by rw [custody]; exact alone.released dated exiting current)
  | recoveryFailed _ _ _ _ custody =>
    simp only [custody]
    exact alone.keep (.refl _) rfl id

/-! ## Starts -/

def Quiet (calls : List Call) : Prop := ∀ started, Call.startForeground started ∉ calls

theorem Quiet.of_stop {token : String} {stops : List Call}
    (kind : ∀ call ∈ stops, call = .stop token) : Quiet stops := by
  intro started mem
  cases kind _ mem

/-- Calls that start at most one server: directly after a probe that found none, and only under the
condition. -/
def StartsOnce (condition : Prop) (before after : List Call) : Prop :=
  ∃ new, after = before ++ new ∧ (Quiet new ∨ condition ∧
    ∃ earlier started, Quiet earlier ∧ new = earlier ++ [.probe .absent, .startForeground started])

theorem StartsOnce.refl (condition : Prop) (calls : List Call) : StartsOnce condition calls calls :=
  ⟨[], (append_nil _).symm, .inl nofun⟩

variable {condition : Prop}

theorem Cycled.startsOnce (cycle : Cycled a s s') {before earlier : List Call}
    (calls : s.calls = before ++ earlier) (quiet : Quiet earlier)
    (free : s.spawnInFlight = false → condition) : StartsOnce condition before s'.calls := by
  have probed : ∀ answer, StartsOnce condition before (s.calls ++ [.probe answer]) := by
    intro answer
    refine ⟨earlier ++ [.probe answer], by rw [calls, append_assoc], .inl fun started mem => ?_⟩
    rcases mem_append.mp mem with mem | mem
    · exact quiet started mem
    · simp at mem
  have started : ∀ started, s.spawnInFlight = false → StartsOnce condition before
      (s.calls ++ [.probe .absent] ++ [.startForeground started]) := by
    intro started unspawned
    exact ⟨earlier ++ [.probe .absent, .startForeground started], by simp [calls],
      .inr ⟨free unspawned, earlier, started, quiet, rfl⟩⟩
  cases cycle with
  | idle _ _ custody | gaveUp custody | adopted _ _ custody =>
    rw [custody]
    exact probed _
  | unstarted unspawned _ custody | spawned unspawned _ custody =>
    rw [custody]
    exact started _ unspawned

theorem Taken.startsOnce (taken : Taken t a res s s') (free : s.spawnInFlight = false → condition) :
    StartsOnce condition s.calls s'.calls := by
  cases taken with
  | good _ custody | gaveUp _ custody | waits _ custody | recovering _ _ custody =>
    rw [custody]
    exact .refl _ _
  | ignored _ unchanged =>
    rw [unchanged]
    exact .refl _ _
  | stopping _ _ _ _ _ stops kind custody =>
    rw [custody]
    exact ⟨stops, rfl, .inl (.of_stop kind)⟩
  | cycled _ _ _ stops kind _ custody cycle =>
    exact cycle.startsOnce (by rw [custody]) (.of_stop kind) (by rwa [custody])

theorem World.Step.startsOnce (idle : w.sup.healthInFlight = false)
    (dated : w.sup.toCustody.Dated) (alone : w.sup.toCustody.Alone)
    (prudent : w.Prudent label) (step : w.Step t label w') : StartsOnce w.AllExited w.sup.calls w'.sup.calls := by
  have probed : ∀ {a} {middle s'}, Cycled a middle s' →
      middle.calls = w.sup.calls → (middle.spawnInFlight = false → w.AllExited) →
      StartsOnce w.AllExited w.sup.calls s'.calls := by
    intro a middle s' cycle calls free
    exact cycle.startsOnce (calls.trans (append_nil _).symm) nofun free
  cases step.move idle with
  | wire | close | exit | fire | startIgnored | resumeIgnored | skipped | healthIgnored
  | recoveryIgnored => exact .refl _ _
  | started _ opened _ _ custody cycle =>
    exact probed cycle (by rw [custody]; rfl) fun _ => prudent (by simp [opened])
  | retried _ _ _ _ fired kind current _ _ opened backoff custody cycle =>
    exact probed cycle (by rw [custody]; rfl) fun _ => prudent (by simp [opened, backoff, fired, kind, current])
  | recovered _ _ _ _ opened restarting custody cycle =>
    exact probed cycle (by rw [custody]; rfl) fun _ => prudent (by simp [opened, restarting])
  | resumed _ _ custody =>
    simp only [custody]
    exact .refl _ _
  | asked _ _ _ _ _ _ _ _ _ taken | healthTaken _ _ _ _ taken => exact taken.startsOnce alone.free
  | rechecked _ _ _ _ _ _ _ _ _ _ _ custody cycle =>
    exact probed cycle (by rw [custody]) (by rw [custody]; exact alone.free)
  | exitIgnored _ _ _ _ _ _ custody | exitNoted _ _ _ _ _ _ _ _ custody
  | exitFailed _ _ _ _ _ _ _ custody | recoveryFailed _ _ _ _ custody =>
    simp only [custody]
    exact .refl _ _
  | exitCycled _ _ _ exiting _ _ _ current _ custody cycle =>
    exact probed cycle (by rw [custody]; rfl) fun _ => alone.exited dated exiting current

/-- The units of a run in which no spawn in flight is forgotten while a unit is alive. -/
structure World.Supervised (w : World) : Prop where
  idle : w.sup.healthInFlight = false
  dated : w.sup.toCustody.Dated
  alone : w.sup.toCustody.Alone

theorem supervised {labels : List Label}
    (run : Run (fun w label w' => w.Step t label w' ∧ w.Prudent label) {} labels w) : w.Supervised := by
  refine run.invariant _ ⟨rfl, .new, .of_exited (by simp)⟩ fun w label w' inv step => ?_
  exact ⟨step.1.idle inv.idle, step.1.dated inv.idle inv.dated, step.1.alone inv.idle inv.dated inv.alone step.2⟩

/-- Where `Start`, the callback of a backoff and an accepted recovery stop begin a new cycle only
after every unit has exited, a server is started only right after a probe that found none and
only when every unit has exited, and two units are never alive together. -/
theorem one_unit_alive {labels : List Label}
    (run : Run (fun w label w' => w.Step t label w' ∧ w.Prudent label) {} labels w) :
    (∀ label w', w.Step t label w' → w.Prudent label → StartsOnce w.AllExited w.sup.calls w'.sup.calls) ∧
    ∀ (i j : Nat) (u v : SupervisedUnit), w.sup.units[i]? = some u → w.sup.units[j]? = some v →
      u.exited = false → v.exited = false → i = j := by
  have inv := supervised run
  refine ⟨fun label w' step prudent => step.startsOnce inv.idle inv.dated inv.alone prudent, ?_⟩
  intro i j u v first second aliveU aliveV
  have last : ∀ n (x : SupervisedUnit), w.sup.units[n]? = some x → x.exited = false → n + 1 = w.sup.units.length := by
    intro n x there alive
    have inside : n < w.sup.units.length := (List.getElem?_eq_some_iff.mp there).1
    by_contra before
    rw [inv.alone.others n x there (by omega)] at alive
    cases alive
  have atU := last i u first aliveU
  have atV := last j v second aliveV
  omega

/-- A unit is started, exits, and the next cycle starts another. -/
def succession : List Label :=
  [.start { probe := .absent }, .exit 0, .onChildExit 0 {}, .fire, .callback 0 {} { probe := .absent }]

/-- The theorem at a run that starts two units one after the other. -/
theorem one_unit_alive_succession : ∃ w,
    Run (fun w label w' => World.Step {} w label w' ∧ w.Prudent label) {} succession w ∧
    w.sup.units = [⟨1, true, true⟩, ⟨2, false, false⟩] ∧
    ∀ (i j : Nat) (u v : SupervisedUnit), w.sup.units[i]? = some u → w.sup.units[j]? = some v →
      u.exited = false → v.exited = false → i = j := by
  have facts : ((replay (guarded (World.act {}) World.Prudent) {} succession).map (·.sup.units)) =
      some [⟨1, true, true⟩, ⟨2, false, false⟩] := by
    decide +kernel
  obtain ⟨w, replayed, units⟩ := Option.map_eq_some_iff.mp facts
  have run := guarded_run replayed
  exact ⟨w, run, units, (one_unit_alive run).2⟩

/-- A server is slow: it is still starting when its budget ends, and still absent to the probe after
the backoff. -/
def slowStart : List Label :=
  [.start { probe := .absent }, .fire, .callback 0 {} { now := 60 * second }, .fire,
    .callback 0 {} { now := 61 * second, checked := 61 * second, probe := .absent }]

/-- A second unit is started while the first is alive. -/
theorem slow_start_doubled : ∃ w, Run (World.Step {}) {} slowStart w ∧
    w.sup.units = [⟨1, false, false⟩, ⟨2, false, false⟩] ∧
    w.sup.calls = [.probe .absent, .startForeground true, .probe .absent, .startForeground true] := by
  have facts : ((replay (World.act {}) {} slowStart).map fun w => (w.sup.units, w.sup.calls)) =
      some ([⟨1, false, false⟩, ⟨2, false, false⟩], [.probe .absent, .startForeground true,
        .probe .absent, .startForeground true]) := by
    decide +kernel
  obtain ⟨w, replayed, found⟩ := Option.map_eq_some_iff.mp facts
  obtain ⟨units, calls⟩ := Prod.mk.inj found
  exact ⟨w, replay_run replayed, units, calls⟩

end AgentGrid.Wslhost
