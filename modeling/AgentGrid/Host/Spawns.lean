import AgentGrid.Host.Dealing
import AgentGrid.Lib.Deferred

/-!
# Asking for a frame

A client that asks for a frame is refused at once or waits until the runtime reports
on the spawn.  The daemon and the spawns that are out form one system; for each
client its steps are moves of a server that defers its answers.  A report that comes
while the daemon quiesces is lost, and with it the answer and the registration of
the frame.
-/

namespace AgentGrid.Host

open AgentGrid.Lib List Option Effect

variable {D : Type} {env : Env D} {s : State D} {ev : Event D}
  {effs : List (Effect D)}

/-! ## Spawns that are out -/

structure Spawn where
  frameID : FrameID
  replyConn : ConnID
  replyReqID : String
  deriving DecidableEq

def Spawn.client (spawn : Spawn) : ConnID × String := (spawn.replyConn, spawn.replyReqID)

def Spawn.awaited (frameID : FrameID) (replyConn : ConnID) (replyReqID : String) : Option Spawn :=
  if replyConn ≠ 0 then some ⟨frameID, replyConn, replyReqID⟩ else none

def Effect.spawn : Effect D → Option Spawn
  | .spawnFrame _ frameID _ _ replyConn replyReqID => Spawn.awaited frameID replyConn replyReqID
  | _ => none

def Event.report : Event D → Option Spawn
  | .frameSpawned e => Spawn.awaited e.frameID e.replyConn e.replyReqID
  | .spawnFailed e => Spawn.awaited e.frameID e.replyConn e.replyReqID
  | _ => none

/-- The frame an event reports to have been started. -/
def Event.started : Event D → Option FrameID
  | .frameSpawned e => some e.frameID
  | _ => none

def spawnTargetAlive (s : State D) (sessionID : SessionID) (frameID : FrameID) : Bool :=
  match s.sessions.get? sessionID with
  | none => false
  | some sess => sess.frames.any fun f => f.id == frameID

structure Spawning (D : Type) where
  host : State D
  outstanding : List Spawn

/-- The phase the daemon is in when it takes an event, the event and the effects. -/
structure Exchange (D : Type) where
  phase : LifecyclePhase
  event : Event D
  effects : List (Effect D)

variable (client : ConnID × String) (w : Spawning D) (x : Exchange D)

/-- The spawns that are out after an exchange: one less for a report, one more for each request. -/
def Spawning.settle : List Spawn :=
  (match x.event.report with
    | some spawn => w.outstanding.erase spawn
    | none => w.outstanding) ++ x.effects.filterMap Effect.spawn

/-- The environment reports only on spawns that are out, and a start only of a live frame. -/
structure Admissible (w : Spawning D) (ev : Event D) : Prop where
  due : ∀ spawn, ev.report = some spawn → spawn ∈ w.outstanding
  alive : ∀ e, ev = .frameSpawned e → spawnTargetAlive w.host e.sessionID e.frameID = true

/-- One step of the daemon with the spawns that are out. -/
structure SpawnStep (env : Env D) (w : Spawning D) (x : Exchange D) (w' : Spawning D) : Prop where
  step : Step env w.host (x.event, x.effects) w'.host
  phase : x.phase = w.host.lifecycle
  admissible : Admissible w x.event
  outstanding : w'.outstanding = w.settle x

abbrev SpawnRun (env : Env D) (cfg : Config) (exchanges : List (Exchange D)) (w : Spawning D) :
    Prop :=
  Run (SpawnStep env) ⟨State.new cfg, []⟩ exchanges w

def Spawning.admits (ev : Event D) : Bool :=
  (ev.report.all fun spawn => w.outstanding.contains spawn) && match ev with
    | .frameSpawned e => spawnTargetAlive w.host e.sessionID e.frameID
    | _ => true

theorem Spawning.admissible_of_admits {w : Spawning D} (admits : w.admits ev = true) : Admissible w ev := by
  obtain ⟨due, alive⟩ := Bool.and_eq_true_iff.mp admits
  constructor
  · intro spawn report
    rw [report] at due
    exact contains_iff_mem.mp due
  · rintro e rfl
    exact alive

def Spawning.advance (env : Env D) (w : Spawning D) (input : Char × Event D) : Option (Spawning D × Exchange D) :=
  if w.admits input.2 then
    (Host.advance env w.host input).map fun r =>
      let x : Exchange D := ⟨w.host.lifecycle, input.2, r.2⟩
      (⟨r.1, w.settle x⟩, x)
  else none

theorem Spawning.advance_step {w w' : Spawning D} {x : Exchange D} {input : Char × Event D}
    (advanced : w.advance env input = some (w', x)) : SpawnStep env w x w' := by
  unfold Spawning.advance at advanced
  by_cases admits : w.admits input.2
  · rw [if_pos admits] at advanced
    obtain ⟨⟨next, effs⟩, reduced, same⟩ := map_eq_some_iff.mp advanced
    cases same
    exact ⟨Host.advance_step reduced, rfl, w.admissible_of_admits admits, rfl⟩
  · rw [if_neg admits] at advanced
    cases advanced

def Spawning.replay (env : Env D) (cfg : Config) (inputs : List (Char × Event D)) :
    Option (Spawning D × List (Exchange D)) :=
  drive (Spawning.advance env) ⟨State.new cfg, []⟩ inputs

theorem Spawning.replay_run (env : Env D) (cfg : Config) (inputs : List (Char × Event D))
    (replayed : (Spawning.replay env cfg inputs).isSome = true) :
    SpawnRun env cfg ((Spawning.replay env cfg inputs).get replayed).2
      ((Spawning.replay env cfg inputs).get replayed).1 :=
  drive_run (fun _ _ _ _ => Spawning.advance_step) (some_get replayed).symm

theorem spawnTargetAlive_iff {sid : SessionID} {fid : FrameID} :
    spawnTargetAlive s sid fid = true ↔ s.FrameAt sid fid := by
  unfold spawnTargetAlive State.FrameAt
  cases s.sessions.get? sid with
  | none | some => simp

/-! ## The account of a client -/

/-- How many requests for a frame the client makes in the exchange. -/
@[simp] def Exchange.asked : Nat :=
  if x.event.spawns = true ∧ x.event.requester = some client then 1 else 0

/-- How many responses to the client the effects contain. -/
def responsesTo (effs : List (Effect D)) : Nat :=
  effs.countP fun e => e.repliesTo == some client

/-- The exchange is a report for the client that reaches the quiescing daemon. -/
@[simp] def Exchange.Loses : Prop :=
  x.phase = .quiescing ∧ x.event.report.map Spawn.client = some client

instance (client : ConnID × String) (x : Exchange D) : Decidable (x.Loses client) :=
  inferInstanceAs (Decidable (_ ∧ _))

@[simp] def Exchange.entry : Deferred.Entry where
  asked := x.asked client
  answered := responsesTo client x.effects
  lost := if x.Loses client then 1 else 0

def Spawning.owed : Nat :=
  w.outstanding.countP fun spawn => spawn.client == client

/-- How many spawns the effects start for the client. -/
def spawnsFor (effs : List (Effect D)) : Nat :=
  (effs.filterMap Effect.spawn).countP fun spawn => spawn.client == client

variable {w w' : Spawning D} {x : Exchange D} {client : ConnID × String}

theorem SpawnStep.owed_eq (step : SpawnStep env w x w') (client : ConnID × String) :
    w'.owed client + (if x.event.report.map Spawn.client = some client then 1 else 0) =
      w.owed client + spawnsFor client x.effects := by
  unfold Spawning.owed spawnsFor
  rw [step.outstanding]
  rw [Spawning.settle, countP_append]
  cases report : x.event.report with
  | none => simp
  | some spawn =>
    have due := step.admissible.due spawn report
    have counted := (perm_cons_erase due).countP_eq fun spawn => spawn.client == client
    rw [countP_cons] at counted
    simp only [map_some, some.injEq, beq_iff_eq] at counted ⊢
    omega

/-- The effect neither answers the client nor starts a frame somebody waits for. -/
def Effect.Unrelated (client : ConnID × String) (e : Effect D) : Prop :=
  e.repliesTo ≠ some client ∧ e.spawn = none

/-- What a list of effects holds for the client: responses, and spawns it waits for. -/
structure Account (client : ConnID × String) (effs : List (Effect D)) (answers spawns : Nat) :
    Prop where
  answers : responsesTo client effs = answers
  spawns : spawnsFor client effs = spawns

theorem Effect.unrelated_of_silent {e : Effect D} (silent : e.serves = false) : e.Unrelated client := by
  have unanswered : e.repliesTo = none := by cases e <;> first | rfl | cases silent
  have idle : e.spawn = none := by cases e <;> first | rfl | cases silent
  rw [Effect.Unrelated, unanswered]
  exact ⟨nofun, idle⟩

theorem Effect.spawn_of_reply {e : Effect D} (addressed : e.repliesTo = some client) : e.spawn = none := by
  cases e <;> first | rfl | cases addressed

theorem Incidental.unrelated (other : ev.requester ≠ some client) (unawaited : ¬ s.Awaits client)
    {e : Effect D} (incidental : Incidental s ev e) : e.Unrelated client := by
  cases incidental with
  | silent silent => exact unrelated_of_silent silent
  | asked addressed asked =>
    refine ⟨?_, spawn_of_reply addressed⟩
    rwa [addressed, ← asked]
  | awaited addressed awaited =>
    refine ⟨?_, spawn_of_reply addressed⟩
    rw [addressed]
    rintro ⟨⟩
    exact unawaited awaited
  | unasked => exact ⟨nofun, rfl⟩

theorem Event.report_of_spawns (spawns : ev.spawns = true) : ev.report = none := by
  cases ev with
  | event => rfl
  | _ => cases spawns

theorem Event.of_routine (routine : ev.routine = true) : ev.spawns = false ∧ ev.report = none := by
  cases ev with
  | event => exact ⟨by simpa [Event.routine, Event.spawns] using routine, rfl⟩
  | frameSpawned e | spawnFailed e => cases routine
  | _ => exact ⟨rfl, rfl⟩

theorem Spawn.client_of_awaited {fid : FrameID} {connID : ConnID} {reqID : String} (asks : client.1 ≠ 0) :
    (Spawn.awaited fid connID reqID).map Spawn.client = some client ↔ (connID, reqID) = client := by
  unfold Spawn.awaited
  split
  · rw [map_some, some_inj]
    rfl
  rename_i unasked
  constructor
  · rintro ⟨⟩
  · rintro rfl
    exact absurd (not_not.mp unasked) asks

namespace Account

theorem append {xs ys : List (Effect D)} {m n m' n' : Nat} (left : Account client xs m n)
    (right : Account client ys m' n') : Account client (xs ++ ys) (m + m') (n + n') := by
  constructor
  · rw [← left.answers, ← right.answers]
    exact countP_append
  · rw [← left.spawns, ← right.spawns]
    unfold spawnsFor
    rw [filterMap_append, countP_append]

theorem of_unrelated (unrelated : ∀ e ∈ effs, e.Unrelated client) : Account client effs 0 0 := by
  constructor
  · refine countP_eq_zero.mpr ?_
    intro e mem addressed
    exact (unrelated e mem).1 (beq_iff_eq.mp addressed)
  · rw [spawnsFor, filterMap_eq_nil_iff.mpr fun e mem => (unrelated e mem).2]
    rfl

theorem of_silent (silent : ∀ e ∈ effs, e.serves = false) : Account client effs 0 0 :=
  of_unrelated fun e mem => unrelated_of_silent (silent e mem)

theorem reply {e : Effect D} {whom : ConnID × String} (addressed : e.repliesTo = some whom) :
    Account client [e] (if whom = client then 1 else 0) 0 := by
  constructor
  · rw [responsesTo, countP_singleton, addressed]
    simp only [beq_iff_eq, some.injEq]
  · rw [spawnsFor, filterMap_cons_none (spawn_of_reply addressed)]
    rfl

section

variable (asks : client.1 ≠ 0)

include asks

theorem spawn (sid : SessionID) (fid : FrameID) (launch : LaunchPlan D) (connID : ConnID) (reqID : String) :
    Account client [spawnEffect sid fid launch connID reqID] 0 (if (connID, reqID) = client then 1 else 0) := by
  have mine : (Spawn.awaited fid connID reqID).map Spawn.client = some client ↔
      (connID, reqID) = client := Spawn.client_of_awaited asks
  constructor
  · rfl
  · rw [spawnsFor, ← if_congr mine rfl rfl]
    have same : [spawnEffect sid fid launch connID reqID].filterMap Effect.spawn =
        (Spawn.awaited fid connID reqID).toList := by
      cases h : Spawn.awaited fid connID reqID with
      | none => exact filterMap_cons_none h
      | some => exact filterMap_cons_some h
    rw [same]
    cases Spawn.awaited fid connID reqID with
    | none => rfl
    | some => simp [countP_singleton]

theorem reply_if {e : Effect D} {connID : ConnID} {reqID : String} (addressed : e.repliesTo = some (connID, reqID)) :
    Account client (if connID ≠ 0 then [e] else []) (if (connID, reqID) = client then 1 else 0) 0 := by
  by_cases unasked : connID = 0
  · have other : (connID, reqID) ≠ client := by
      rintro rfl
      exact asks unasked
    rw [if_neg (not_not.mpr unasked), if_neg other]
    exact ⟨rfl, rfl⟩
  · rw [if_pos unasked]
    exact reply addressed

theorem spawnedEffects (e : EvFrameSpawned) (tap : Bool) :
    Account client (Host.spawnedEffects e tap : List (Effect D))
      (if (e.replyConn, e.replyReqID) = client then 1 else 0) 0 := by
  have registered : ∀ x ∈ ([.registerFrame e.frameID tap, .persistSnapshot,
      .broadcastSessionsChanged] : List (Effect D)), x.Unrelated client :=
    forall_mem_cons.mpr ⟨⟨nofun, rfl⟩, fun x mem => unrelated_of_silent (refresh_serves x mem)⟩
  have reply : Account client (if e.replyConn ≠ 0 then
      [(okResp e.replyConn e.replyReqID (.createSession e.sessionID) : Effect D)] else []) _ _ :=
    reply_if asks rfl
  have account := (of_unrelated registered).append reply
  rwa [Nat.zero_add] at account

theorem failureReply (e : EvSpawnFailed) : Account client (Event.spawnFailed e : Event D).failureReply
      (if (e.replyConn, e.replyReqID) = client then 1 else 0) 0 := by
  have same : (Event.spawnFailed e : Event D).failureReply =
      if e.replyConn ≠ 0 then [errResp e.replyConn e.replyReqID errCodeInternal
        ("frame spawn failed: " ++ e.err)] else [] := (ite_not ..).symm
  rw [same]
  exact reply_if asks rfl

end

end Account

/-! ## Moves of the account -/

variable (w w' x client) in
abbrev Accounts : Prop := Deferred.Move (w.owed client) (x.entry client) (w'.owed client)

section Moves

variable {whom : ConnID × String} (step : SpawnStep env w x w')

include step

theorem SpawnStep.answer (spawns : x.event.spawns = true) (asked : x.event.requester = some whom)
    (account : Account client x.effects (if whom = client then 1 else 0) 0) : Accounts w w' x client := by
  have owed := step.owed_eq client
  have report := Event.report_of_spawns spawns
  have same : w'.owed client = w.owed client := by simpa [report, account.spawns] using owed
  have entry : x.entry client =
      { asked := if whom = client then 1 else 0, answered := if whom = client then 1 else 0 } := by
    simp [spawns, asked, report, account.answers]
  rw [Accounts, entry, same]
  exact .answer_if _ _

theorem SpawnStep.pass (spawns : x.event.spawns = true) (asked : x.event.requester = some whom)
    (account : Account client x.effects 0 (if whom = client then 1 else 0)) : Accounts w w' x client := by
  have owed := step.owed_eq client
  have report := Event.report_of_spawns spawns
  have more : w'.owed client = w.owed client + if whom = client then 1 else 0 := by
    simpa [report, account.spawns] using owed
  have entry : x.entry client = { asked := if whom = client then 1 else 0 } := by
    simp [spawns, asked, report, account.answers]
  rw [Accounts, entry, more]
  exact .pass_if _ _

theorem SpawnStep.deliver (running : x.phase = .running) (other : x.event.spawns = false)
    (report : x.event.report.map Spawn.client = some client ↔ whom = client)
    (account : Account client x.effects (0 + if whom = client then 1 else 0) (0 + 0)) : Accounts w w' x client := by
  have owed := step.owed_eq client
  have less : w.owed client = w'.owed client + if whom = client then 1 else 0 := by
    rw [account.spawns, if_congr report rfl rfl] at owed
    exact owed.symm
  have entry : x.entry client = { answered := if whom = client then 1 else 0 } := by
    simp [running, other, account.answers]
  rw [Accounts, entry, less]
  exact .deliver_if _ _

theorem SpawnStep.lose (quiescing : x.phase = .quiescing) (other : x.event.spawns = false)
    (account : Account client x.effects 0 0) : Accounts w w' x client := by
  have owed := step.owed_eq client
  have less : w.owed client = w'.owed client + if x.event.report.map Spawn.client = some client then 1 else 0 := by
    rw [account.spawns] at owed
    exact owed.symm
  have entry : x.entry client = { lost := if x.event.report.map Spawn.client = some client then 1 else 0 } := by
    simp [other, quiescing, account.answers]
  rw [Accounts, entry, less]
  exact .lose_if _ _

theorem SpawnStep.rest (routine : x.event.routine = true) (account : Account client x.effects 0 0) :
    Accounts w w' x client := by
  have owed := step.owed_eq client
  obtain ⟨other, report⟩ := Event.of_routine routine
  have same : w'.owed client = w.owed client := by simpa [report, account.spawns] using owed
  have entry : x.entry client = {} := by simp [other, report, account.answers]
  rw [Accounts, entry, same]
  exact .rest _

theorem SpawnStep.move (modest : env.Modest) (asks : client.1 ≠ 0)
    (dedicated : x.event.requester = some client → x.event.routine = false)
    (unawaited : ¬ w.host.Awaits client) : Accounts w w' x client := by
  have dealing := step.step.dealing modest fun e same => spawnTargetAlive_iff.mp (step.admissible.alive e same)
  have phase := step.phase
  generalize effects : x.effects = effs at dealing
  cases dealing with
  | refused spawns asked => exact step.answer spawns asked (effects ▸ .reply rfl)
  | passed spawns asked => exact step.pass spawns asked (effects ▸ .spawn asks ..)
  | registered running asked silent =>
    refine step.deliver (phase.trans running) (by rw [asked]; rfl) ?_
      (effects ▸ (Account.of_silent silent).append (.spawnedEffects asks ..))
    rw [asked]
    exact Spawn.client_of_awaited asks
  | failed running asked silent =>
    rw [asked] at effects
    refine step.deliver (phase.trans running) (by rw [asked]; rfl) ?_
      (effects ▸ (Account.of_silent silent).append (.failureReply asks _))
    rw [asked]
    exact Spawn.client_of_awaited asks
  | dropped quiescing other => exact step.lose (phase.trans quiescing) other (effects ▸ ⟨rfl, rfl⟩)
  | other routine incidental =>
    have foreign : x.event.requester ≠ some client := by
      intro same
      rw [dedicated same] at routine
      cases routine
    refine step.rest routine (.of_unrelated fun e mem => ?_)
    exact (incidental e (effects ▸ mem)).unrelated foreign unawaited

end Moves

/-! ## Runs -/

/-- The client asks for frames and for nothing else. -/
def Dedicated (client : ConnID × String) (exchanges : List (Exchange D)) : Prop :=
  ∀ x ∈ exchanges, x.event.requester = some client → x.event.routine = false

/-- How many requests for a frame the client made. -/
def requests (client : ConnID × String) (exchanges : List (Exchange D)) : Nat :=
  (exchanges.map (Exchange.asked client)).sum

def responses (client : ConnID × String) (exchanges : List (Exchange D)) : Nat :=
  responsesTo client (exchanges.flatMap Exchange.effects)

theorem responses_eq (client : ConnID × String) (exchanges : List (Exchange D)) :
    responses client exchanges = ((exchanges.map (Exchange.entry client)).map Deferred.Entry.answered).sum := by
  rw [responses, responsesTo, countP_flatMap, List.map_map]
  rfl

theorem SpawnRun.account (modest : env.Modest) {cfg : Config} {exchanges : List (Exchange D)}
    (run : SpawnRun env cfg exchanges w) (asks : client.1 ≠ 0) (dedicated : Dedicated client exchanges) :
    Run Deferred.Move 0 (exchanges.map (Exchange.entry client)) (w.owed client) := by
  have restricted := run.restrict (fun _ x => x.event.requester = some client → x.event.routine = false)
    fun x mem _ => dedicated x mem
  have carried := restricted.carry (fun w => ¬ w.host.Awaits client) (by rintro ⟨tx, ⟨⟩, _⟩) ?_
  · refine carried.simulate (Spawning.owed client) (Exchange.entry client) ?_
    rintro w x w' ⟨⟨step, dedicated⟩, unawaited⟩
    exact step.move modest asks dedicated unawaited
  · rintro w x w' unawaited ⟨step, dedicated⟩ awaits
    rcases step.step.awaits awaits with before | ⟨routine, asked⟩
    · exact unawaited before
    · rw [dedicated asked] at routine
      cases routine

/-! ## Registration -/

def Effect.registers : Effect D → Option FrameID
  | .registerFrame fid _ => some fid
  | _ => none

def Exchange.Registers (fid : FrameID) (x : Exchange D) : Prop :=
  ∃ e ∈ x.effects, e.registers = some fid

instance (fid : FrameID) (x : Exchange D) : Decidable (x.Registers fid) :=
  inferInstanceAs (Decidable (∃ e ∈ x.effects, _))

theorem SpawnStep.registers_iff (modest : env.Modest) (step : SpawnStep env w x w') (fid : FrameID) :
    x.Registers fid ↔ x.phase = .running ∧ x.event.started = some fid := by
  have dealing := step.step.dealing modest fun e same => spawnTargetAlive_iff.mp (step.admissible.alive e same)
  have phase := step.phase
  unfold Exchange.Registers
  generalize x.effects = effs at dealing
  constructor
  · rintro ⟨e, mem, registers⟩
    obtain ⟨tap, rfl⟩ : ∃ tap, e = .registerFrame fid tap := by
      cases e <;> cases registers
      exact ⟨_, rfl⟩
    cases dealing with
    | refused _ _ | passed _ _ => cases mem_singleton.mp mem
    | registered running asked silent =>
      refine ⟨phase.trans running, ?_⟩
      rcases mem_append.mp mem with boot | spawned
      · cases silent _ boot
      rcases mem_spawnedEffects spawned with same | plain | addressed
      · cases same
        rw [asked]
        rfl
      · cases plain
      · cases addressed
    | failed _ _ silent =>
      rcases mem_append.mp mem with rest | reply
      · cases silent _ rest
      · obtain ⟨client, addressed, _⟩ := mem_failureReply reply
        cases addressed
    | dropped => cases mem
    | other _ incidental =>
      cases incidental _ mem with
      | silent silent => cases silent
      | asked addressed _ | awaited addressed _ => cases addressed
  · rintro ⟨running, started⟩
    obtain ⟨e, asked, rfl⟩ : ∃ e, x.event = .frameSpawned e ∧ e.frameID = fid := by
      cases shape : x.event with
      | frameSpawned e =>
        rw [shape] at started
        exact ⟨e, rfl, some.inj started⟩
      | _ =>
        rw [shape] at started
        cases started
    rw [asked] at dealing
    cases dealing with
    | refused spawns _ | passed spawns _ => cases spawns
    | registered _ same =>
      cases same
      exact ⟨_, mem_append_right _ mem_cons_self, rfl⟩
    | failed _ same => cases same
    | dropped quiescing =>
      rw [phase, quiescing] at running
      cases running
    | other routine => cases routine

/-- Every request for a frame has had exactly one response, or its spawn is still out, just if no
report on it was lost to a shutdown; and a frame has been registered just if its start was reported
to the running daemon. -/
theorem spawn_requests_settle (modest : env.Modest) {cfg : Config}
    {exchanges : List (Exchange D)} (run : SpawnRun env cfg exchanges w) :
    (∀ client : ConnID × String, client.1 ≠ 0 → Dedicated client exchanges →
      (responses client exchanges + w.owed client = requests client exchanges ↔
        ∀ x ∈ exchanges, ¬ x.Loses client)) ∧ ∀ fid, (∃ x ∈ exchanges, x.Registers fid) ↔
      ∃ x ∈ exchanges, x.phase = .running ∧ x.event.started = some fid := by
  constructor
  · intro client asks dedicated
    have kept := Deferred.answered_or_out_iff (run.account modest asks dedicated)
    have asked : requests client exchanges =
        ((exchanges.map (Exchange.entry client)).map Deferred.Entry.asked).sum := by
      rw [List.map_map]
      rfl
    have lost : (∀ e ∈ exchanges.map (Exchange.entry client), e.lost = 0) ↔ ∀ x ∈ exchanges, ¬ x.Loses client := by
      rw [List.forall_mem_map]
      simp
    rw [responses_eq, asked, kept, lost]
  · intro fid
    have each : ∀ x ∈ exchanges, x.Registers fid ↔ x.phase = .running ∧ x.event.started = some fid := by
      intro x mem
      obtain ⟨_, _, _, _, step⟩ := run.step_of_mem mem
      exact step.registers_iff modest fid
    constructor
    · rintro ⟨x, mem, registers⟩
      exact ⟨x, mem, (each x mem).mp registers⟩
    · rintro ⟨x, mem, started⟩
      exact ⟨x, mem, (each x mem).mpr started⟩

/-- A spawn that ends after a shutdown failed is answered and its frame registered. -/
theorem spawn_settles_after_failed_shutdown :
    ∃ (exchanges : List (Exchange Unit)) (w : Spawning Unit), SpawnRun Env.inert {} exchanges w ∧
      w.owed (7, "q") = 0 ∧ requests (7, "q") exchanges = 1 ∧
      responses (7, "q") exchanges + w.owed (7, "q") = requests (7, "q") exchanges ∧
      ∃ x ∈ exchanges, x.Registers "aa" := by
  have run := Spawning.replay_run Env.inert {}
    [('a', .event 7 "q" (.createSession (.ok { project := "p", command := "x" }))),
      ('b', .event 8 "s" (.shutdown (.ok ()))), ('b', .shutdownSaveBarrierFailed 1 "disk full"),
      ('b', .frameSpawned ⟨"a", "aa", "sub", "", "", 7, "q"⟩)] rfl
  obtain ⟨answered, registered⟩ := spawn_requests_settle Env.inert_modest run
  refine ⟨_, _, run, rfl, rfl, (answered (7, "q") ?_ ?_).mpr ?_, (registered "aa").mpr ?_⟩
  · decide
  · unfold Dedicated
    decide
  · decide
  · decide

/-- A start that is reported during a shutdown that then fails is lost: the client that asked never
hears of it, and the frame stays unregistered in the state. -/
theorem spawn_report_lost_to_shutdown :
    ∃ (exchanges : List (Exchange Unit)) (w : Spawning Unit), SpawnRun Env.inert {} exchanges w ∧
      Dedicated (7, "q") exchanges ∧ requests (7, "q") exchanges = 1 ∧ w.owed (7, "q") = 0 ∧
      responses (7, "q") exchanges = 0 ∧ w.host.lifecycle = .running ∧ spawnTargetAlive w.host "a" "aa" = true ∧
      (∃ x ∈ exchanges, x.event.started = some "aa") ∧ ¬ ∃ x ∈ exchanges, x.Registers "aa" := by
  have run := Spawning.replay_run Env.inert {}
    [('a', .event 7 "q" (.createSession (.ok { project := "p", command := "x" }))),
      ('b', .event 8 "s" (.shutdown (.ok ()))), ('b', .frameSpawned ⟨"a", "aa", "sub", "", "", 7, "q"⟩),
      ('b', .shutdownSaveBarrierFailed 1 "disk full")] rfl
  refine ⟨_, _, run, ?_, rfl, rfl, rfl, rfl, rfl, ?_, ?_⟩
  · unfold Dedicated
    decide
  · decide
  · decide

end AgentGrid.Host
