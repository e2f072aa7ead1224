import AgentGrid.Host.Origin

/-!
# Ended sessions

A session whose root frame died or that was stopped keeps its record with the time it
ended.  Two commands look such a record up by its key alone: pushing a driver gives
it a frame again, and stopping it overwrites the time.  Every other step leaves an
ended session as it is.
-/

namespace AgentGrid.Host

open AgentGrid.Lib List Function State

variable {D : Type} {env : Env D} {d : Draw} {s s' : State D} {ev : Event D}
  {effs : List (Effect D)}

def Effect.spawnsIn : Effect D → Option SessionID
  | .spawnFrame sid .. => some sid
  | _ => none

/-- The drivers push frames into their own session only and start none themselves. -/
structure Env.PushesOwn (env : Env D) : Prop where
  own : ∀ {sid command}, env.Emits (.pushDriver sid command) → sid = ""
  spawnless : ∀ {e}, env.Emits e → e.spawnsIn = none

theorem Env.inert_pushesOwn : Env.inert.PushesOwn :=
  ⟨fun emitted => absurd emitted Env.inert_emits, fun emitted => absurd emitted Env.inert_emits⟩

/-- The step does not ask to push into an ended session, unless the drivers refuse the launch, and
does not stop a session that ended at another time. -/
def Event.RespectsEnded (env : Env D) (s : State D) : Event D → Prop
  | .event _ _ (.pushDriver (.ok p)) => s.lifecycle = .running →
      ∀ sess, s.sessions.get? p.sessionID = some sess → sess.endedAt.isSome = true →
        ∃ err, planPush env s p.sessionID sess p.project p.command p.options p.input = .error err
  | .event _ _ (.stopSession (.ok sid)) => s.lifecycle = .running →
      ∀ sess, s.sessions.get? sid = some sess → sess.endedAt.isSome = true → sess.endedAt = some s.now
  | _ => True

/-! ## Effects that start no frame -/

variable {e : Effect D}

theorem Env.PushesOwn.fromDriver (calm : env.PushesOwn) (emitted : env.FromDriver e) : e.spawnsIn = none := by
  cases patched : e.patched with
  | false => exact calm.spawnless (emitted.emits patched)
  | true => cases e <;> first | rfl | cases patched

theorem Ordinary.spawnsIn (calm : env.PushesOwn) (ordinary : Ordinary env ev e) : e.spawnsIn = none := by
  rcases ordinary with plain | emitted | ⟨client, addressed, _⟩
  · cases e <;> first | rfl | cases plain
  · exact calm.fromDriver emitted
  · cases e <;> first | rfl | cases addressed

theorem Effect.settles_spawnsIn (settles : e.settles = true) : e.spawnsIn = none := by
  cases e <;> first | rfl | cases settles

theorem teardownOf_spawnsIn {frames : List FrameID} {kill : Bool} (mem : e ∈ teardownOf frames kill)
    : e.spawnsIn = none := by obtain ⟨fid, _, rfl | rfl | rfl | rfl⟩ := mem_teardownOf mem <;> rfl

variable {sid : SessionID}

theorem Env.PushesOwn.target (calm : env.PushesOwn) {own : SessionID} {ownFrame : FrameID}
    {command : String} (emitted : env.Patches own ownFrame (.pushDriver sid command)) : sid = own := by
  obtain ⟨before, raw, raised, same⟩ := emitted
  cases raw with
  | pushDriver =>
    obtain rfl := calm.own raised
    cases same
    rfl
  | _ => cases same

variable {g : Graph}

/-- Where an action starts frames: in a new session, in the session a client pushes into, or in a
session that holds frames already. -/
theorem Origin.spawnsIn_cases (calm : env.PushesOwn) (origin : Origin env d s ev g e)
    (spawns : e.spawnsIn = some sid) :
    sid = d.alloc 0 ∨ (∃ connID reqID p sess plan, ev = .event connID reqID (.pushDriver (.ok p)) ∧
        p.sessionID = sid ∧ s.sessions.get? p.sessionID = some sess ∧
        planPush env s p.sessionID sess p.project p.command p.options p.input = .ok plan) ∨
      ∃ n, s.graph sid = some n ∧ n.frames ≠ [] := by
  cases origin with
  | ordinary ordinary =>
    rw [ordinary.spawnsIn calm] at spawns
    cases spawns
  | request settles =>
    rw [Effect.settles_spawnsIn settles] at spawns
    cases spawns
  | spawnNew => exact .inl (Option.some.inj spawns).symm
  | spawnAsked asked found planned => exact .inr (.inl ⟨_, _, _, _, _, asked, Option.some.inj spawns, found, planned⟩)
  | spawnDriver found held emitted =>
    cases spawns
    obtain rfl := calm.target emitted
    exact .inr (.inr ⟨_, found, ne_nil_of_mem held⟩)
  | teardown _ torn =>
    rw [teardownOf_spawnsIn torn] at spawns
    cases spawns
  | registered | crashed | shutdown => cases spawns

theorem Admitted.spawnless (admitted : Admitted s ev s' effs) (mem : e ∈ effs) : e.spawnsIn = none := by
  rcases admitted.origin mem with traffic | reply | closing
  · cases e <;> first | rfl | cases traffic
  · cases e <;> first | rfl | cases reply
  · cases e <;> first | rfl | cases closing

/-! ## Rewrites -/

variable {raws : List (Effect D)}

theorem Pushed.into {k : Nat} {g' : Graph} {out : List (Effect D)} {n : Node} (pushed : Pushed d k g raws g' out)
    (own : ∀ target command, .pushDriver target command ∈ raws → target = sid) (found : g sid = some n) :
    (∀ other, other ≠ sid → g' other = g other) ∧ ∃ n', g' sid = some n' ∧ n'.endedAt = n.endedAt := by
  induction pushed generalizing n with
  | nil => exact ⟨fun _ _ => rfl, n, found, rfl⟩
  | pass _ ih | skip _ ih => exact ih (fun target command mem => own target command (mem_cons_of_mem _ mem)) found
  | @push k g g' target command m launch raws effs there _ ih =>
    obtain rfl := own target command mem_cons_self
    cases found.symm.trans there
    obtain ⟨others, kept⟩ :=
      ih (fun target command mem => own target command (mem_cons_of_mem _ mem)) (update_self _ _ _)
    refine ⟨?_, kept⟩
    intro other differs
    rw [others other differs, update_of_ne differs]

theorem Driven.into (calm : env.PushesOwn) {mid : State D} {pushed : List (Effect D)}
    (driven : Driven env d s mid raws pushed) :
    ∃ sid n, s.graph sid = some n ∧ n.frames ≠ [] ∧ (∀ other, other ≠ sid → mid.graph other = s.graph other) ∧
      ∃ n', mid.graph sid = some n' ∧ n'.endedAt = n.endedAt := by
  obtain ⟨sid, fid, n, found, held, patched⟩ := driven.emitted
  have into := driven.pushed.into (fun target command mem => calm.target (patched _ mem)) found
  exact ⟨sid, n, found, ne_nil_of_mem held, into⟩

def Graph.EndedFrameless (g : Graph) : Prop :=
  ∀ sid n, g sid = some n → n.endedAt.isSome = true → n.frames = []

namespace Graph.EndedFrameless

variable {g : Graph} {sid : SessionID} {n : Node}

theorem update (frameless : g.EndedFrameless) (sid : SessionID) {x : Option Node}
    (fine : ∀ n, x = some n → n.endedAt.isSome = true → n.frames = []) :
    Graph.EndedFrameless (Function.update g sid x) := by
  intro k n found ended
  rw [update_apply] at found
  split at found
  · exact fine n found ended
  · exact frameless k n found ended

theorem live (frameless : g.EndedFrameless) (found : g sid = some n) (held : n.frames ≠ []) : n.endedAt = none := by
  cases ended : n.endedAt with
  | none => rfl
  | some => exact absurd (frameless sid n found (by simp [ended])) held

theorem finish_eq (frameless : g.EndedFrameless) (wf : g.WF) (found : g sid = some n) {now : Time}
    (ended : n.endedAt = some now) : n.finish now = n := by
  have empty := frameless sid n found (by simp [ended])
  have node := wf.node found
  have head := node.head_empty empty
  have mru := node.mru_empty empty
  cases n
  simp only at ended empty head mru
  simp [Node.finish, ended, empty, head, mru]

end Graph.EndedFrameless

section Rewrites

variable {g : Graph} (running : s.lifecycle = .running) (calm : env.PushesOwn)
  (frameless : s.graph.EndedFrameless) (respects : ev.RespectsEnded env s)

include running respects in
theorem push_live {connID : ConnID} {reqID : String} {p : PushDriverParams} {sess : Session D}
    {plan : PushPlan D} (asked : ev = .event connID reqID (.pushDriver (.ok p)))
    (found : s.sessions.get? p.sessionID = some sess)
    (planned : planPush env s p.sessionID sess p.project p.command p.options p.input =
      .ok plan) : sess.endedAt = none := by
  cases ended : sess.endedAt with
  | none => rfl
  | some =>
    subst asked
    obtain ⟨err, refused⟩ := respects running sess found (by simp [ended])
    cases refused.symm.trans planned

include frameless

theorem Removal.endedFrameless {frames : List FrameID} {kill : Bool}
    (removal : Removal s ev frames kill g) : g.EndedFrameless := by
  cases removal with
  | stop _ _ | endRoot _ _ _ =>
    refine frameless.update _ ?_
    rintro n same _
    cases same
    rfl
  | dropRoot => exact frameless.update _ (by intro n same; cases same)
  | child _ found held =>
    refine frameless.update _ ?_
    rintro n same ended
    cases same
    have live := frameless.live found (ne_nil_of_mem held)
    rw [Node.evict_endedAt, live] at ended
    cases ended

include running calm respects

theorem Rewrite.endedFrameless (rewrite : Rewrite env d s ev g) : g.EndedFrameless := by
  cases rewrite with
  | same => exact frameless
  | create | publish _ _ =>
    refine frameless.update _ ?_
    rintro n same ended
    cases same
    cases ended
  | push asked found planned =>
    refine frameless.update _ ?_
    rintro n same ended
    cases same
    have live := push_live running respects asked found planned
    simp [live] at ended
  | driven driven =>
    obtain ⟨sid, n, found, held, others, n', touched, kept⟩ := driven.into calm
    intro k m there ended
    by_cases own : k = sid
    · rw [own, touched] at there
      cases there
      rw [kept, frameless.live found held] at ended
      cases ended
    · rw [others k own] at there
      exact frameless k m there ended
  | select found held =>
    refine frameless.update _ ?_
    rintro n same ended
    cases same
    have live := frameless.live found (ne_nil_of_mem held)
    simp [Node.select, live] at ended
  | remove removal => exact removal.endedFrameless frameless

theorem Rewrite.keeps_ended (fresh : d.Fresh s) (wf : s.graph.WF)
    (rewrite : Rewrite env d s ev g) {sid : SessionID} {n : Node} (found : s.graph sid = some n)
    (ended : n.endedAt.isSome = true) : g sid = some n := by
  have other : ∀ {k m}, s.graph k = some m → m.endedAt = none → sid ≠ k := by
    rintro k m there live rfl
    cases found.symm.trans there
    rw [live] at ended
    cases ended
  have absent : ∀ {k}, s.graph k = none → sid ≠ k := by
    rintro k free rfl
    cases found.symm.trans free
  cases rewrite with
  | same => exact found
  | create => rw [update_of_ne (absent (fresh.graph 0)), found]
  | @push _ _ _ sess _ asked stored planned =>
    have live := push_live running respects asked stored planned
    rw [update_of_ne (other (graph_of_get? stored) live), found]
  | driven driven =>
    obtain ⟨k, m, there, held, others, _⟩ := driven.into calm
    rw [others sid (other there (frameless.live there held)), found]
  | select there held => rw [update_of_ne (other there (frameless.live there (ne_nil_of_mem held))), found]
  | publish _ free => rw [update_of_ne (absent free), found]
  | remove removal =>
    cases removal with
    | @stop connID reqID k m asked there =>
      by_cases same : sid = k
      · subst same
        cases found.symm.trans there
        subst asked
        obtain ⟨sess, stored, rfl⟩ := graph_eq_some.mp found
        have again := respects running sess stored ended
        rw [update_self, frameless.finish_eq wf found again]
      · rw [update_of_ne same, found]
    | endRoot _ there held | dropRoot _ there held | child _ there held _ =>
      rw [update_of_ne (other there (frameless.live there (ne_nil_of_mem held))), found]

end Rewrites

/-! ## Steps and runs -/

/-- What a step has to leave alone: every ended session keeps its time and stays without frames
and without a head, and no frame is started in it. -/
def EndedKept (s : State D) (effs : List (Effect D)) (s' : State D) : Prop :=
  ∀ id sess, s.sessions.get? id = some sess → sess.endedAt.isSome = true →
    (∀ sess', s'.sessions.get? id = some sess' →
      sess'.frames = [] ∧ sess'.headFrameID = "" ∧ sess'.endedAt = sess.endedAt) ∧
    ∀ e ∈ effs, e.spawnsIn ≠ some id

def RespectfulStep (env : Env D) (s : State D) (label : Event D × List (Effect D)) (s' : State D) : Prop :=
  Step env s label s' ∧ label.1.RespectsEnded env s

section Steps

variable (calm : env.PushesOwn)

include calm

theorem RespectfulStep.endedFrameless {label : Event D × List (Effect D)}
    (step : RespectfulStep env s label s') (frameless : s.graph.EndedFrameless) : s'.graph.EndedFrameless := by
  rcases Step.cases step.1 with ⟨running, d, _, action⟩ | ⟨_, admitted⟩
  · exact action.rewrite.endedFrameless running calm frameless step.2
  · rwa [admitted.graph]

variable {sid : SessionID} {n : Node}

theorem RespectfulStep.keeps_ended (step : RespectfulStep env s (ev, effs) s') (wf : s.graph.WF)
    (frameless : s.graph.EndedFrameless) (found : s.graph sid = some n) (ended : n.endedAt.isSome = true) :
    s'.graph sid = some n ∧ ∀ e ∈ effs, e.spawnsIn ≠ some sid := by
  rcases Step.cases step.1 with ⟨running, d, fresh, action⟩ | ⟨_, admitted⟩
  · refine ⟨action.rewrite.keeps_ended running calm frameless step.2 fresh wf found ended, ?_⟩
    intro e mem spawns
    rcases (action.origin mem).spawnsIn_cases calm spawns with
      rfl | ⟨_, _, p, sess, plan, asked, rfl, stored, planned⟩ | ⟨m, there, held⟩
    · rw [fresh.graph 0] at found
      cases found
    · have live := push_live running step.2 asked stored planned
      rw [graph_of_get? stored] at found
      cases found
      simp [live] at ended
    cases found.symm.trans there
    exact held (frameless sid n found ended)
  rw [admitted.graph]
  refine ⟨found, ?_⟩
  intro e mem spawns
  rw [admitted.spawnless mem] at spawns
  cases spawns

variable {labels : List (Event D × List (Effect D))}

theorem RespectfulRun.endedFrameless {cfg : Config} (run : Run (RespectfulStep env) (State.new cfg) labels s) :
    s.graph.WF ∧ s.graph.EndedFrameless := by
  refine Run.invariant (fun s => s.graph.WF ∧ s.graph.EndedFrameless) ?_ ?_ run
  · exact ⟨Graph.WF.empty, by intro sid n found; cases found⟩
  · intro s a s' before step
    exact ⟨Step.graph_wf step.1 before.1, RespectfulStep.endedFrameless calm step before.2⟩

theorem RespectfulRun.keeps_ended {t : State D} (run : Run (RespectfulStep env) s labels t)
    (wf : s.graph.WF) (frameless : s.graph.EndedFrameless) (found : s.graph sid = some n)
    (ended : n.endedAt.isSome = true) :
    t.graph sid = some n ∧ ∀ label ∈ labels, ∀ e ∈ label.2, e.spawnsIn ≠ some sid := by
  have both : (t.graph.WF ∧ t.graph.EndedFrameless) ∧ t.graph sid = some n ∧
      ∀ label ∈ labels, ∀ e ∈ label.2, e.spawnsIn ≠ some sid := by
    refine Run.history (fun labels t => (t.graph.WF ∧ t.graph.EndedFrameless) ∧
      t.graph sid = some n ∧ ∀ label ∈ labels, ∀ e ∈ label.2, e.spawnsIn ≠ some sid) ?_ ?_ run
    · exact ⟨⟨wf, frameless⟩, found, forall_mem_nil _⟩
    · rintro labels u ⟨ev, effs⟩ u' _ ⟨order, here, before⟩ step
      obtain ⟨kept, spawnless⟩ := RespectfulStep.keeps_ended calm step order.1 order.2 here ended
      refine ⟨⟨Step.graph_wf step.1 order.1, step.endedFrameless calm order.2⟩, kept, ?_⟩
      intro label mem
      rcases mem_append.mp mem with earlier | last
      · exact before label earlier
      · rwa [mem_singleton.mp last]
  exact both.2

end Steps

/-- A step that keeps ended sessions respects them: the push that is carried out and the second
stop are visible in the record. -/
theorem EndedKept.respects (step : Step env s (ev, effs) s') (wf : s.graph.WF)
    (kept : EndedKept s effs s') : ev.RespectsEnded env s := by
  obtain ⟨d, _, reduced⟩ := step
  unfold Event.RespectsEnded
  split
  · rename_i connID reqID p
    intro running sess found ended
    cases planned : planPush env s p.sessionID sess p.project p.command p.options p.input with
    | error err => exact ⟨err, rfl⟩
    | ok =>
      have named := wf.named (graph_of_get? found)
      simp only [reduce, running, reduceRunning, reduceEvent, decoded, reducePushDriver,
        pushDriverInternal, named, found, planned, Option.isNone_some, Bool.false_eq_true, if_false] at reduced
      cases reduced
      exact absurd rfl ((kept p.sessionID sess found ended).2 _ mem_cons_self)
  · rename_i connID reqID sid
    intro running sess found ended
    simp only [reduce, running, reduceRunning, reduceEvent, decoded, reduceStopSession, found] at reduced
    cases reduced
    have stored := (kept sid sess found ended).1 (endSession sess s.now) (GoMap.get?_set_self ..)
    exact stored.2.2.symm
  · trivial

theorem Session.frameless_of_node {sess sess' : Session D} (wf : sess.node.WF)
    (empty : sess.node.frames = []) (same : sess'.node = sess.node) :
    sess'.frames = [] ∧ sess'.headFrameID = "" ∧ sess'.endedAt = sess.endedAt := by
  have frames : sess'.node.frames = [] := by rw [same, empty]
  have head : sess'.node.head = sess.node.head := by rw [same]
  exact ⟨map_eq_nil_iff.mp frames, head.trans (wf.head_empty empty), congrArg Node.endedAt same⟩

/-- As long as every step respects ended sessions, an ended session keeps its time, stays without
frames and without a head, and no frame is started in it; and a step keeps the ended sessions
exactly if it respects them. -/
theorem ended_sessions_absorbing (calm : env.PushesOwn) {cfg : Config} {labels : List (Event D × List (Effect D))}
    (run : Run (RespectfulStep env) (State.new cfg) labels s) : (∀ more t, Run (RespectfulStep env) s more t →
      ∀ id sess, s.sessions.get? id = some sess → sess.endedAt.isSome = true →
        (∃ sess', t.sessions.get? id = some sess' ∧ sess'.frames = [] ∧
          sess'.headFrameID = "" ∧ sess'.endedAt = sess.endedAt) ∧
        ∀ label ∈ more, ∀ e ∈ label.2, e.spawnsIn ≠ some id) ∧
    ∀ ev effs s', Step env s (ev, effs) s' → (EndedKept s effs s' ↔ ev.RespectsEnded env s) := by
  obtain ⟨wf, frameless⟩ := RespectfulRun.endedFrameless calm run
  constructor
  · intro more t later id sess found ended
    have stored := graph_of_get? found
    have empty := frameless id sess.node stored ended
    obtain ⟨kept, spawnless⟩ := RespectfulRun.keeps_ended calm later wf frameless stored ended
    obtain ⟨sess', there, same⟩ := graph_eq_some.mp kept
    exact ⟨⟨sess', there, Session.frameless_of_node (wf.node stored) empty same⟩, spawnless⟩
  · intro ev effs s' step
    refine ⟨EndedKept.respects step wf, ?_⟩
    intro respects id sess found ended
    have stored := graph_of_get? found
    have empty := frameless id sess.node stored ended
    obtain ⟨kept, spawnless⟩ := RespectfulStep.keeps_ended calm ⟨step, respects⟩ wf frameless stored ended
    refine ⟨?_, spawnless⟩
    intro sess' there
    rw [graph_of_get? there] at kept
    exact Session.frameless_of_node (wf.node stored) empty (Option.some.inj kept)

theorem ended_session_stays_ended_after_root_vanishes : ∃ s : State Unit, Reachable Env.inert s ∧
      ∀ more t, Run (RespectfulStep Env.inert) s more t →
        ∃ sess, t.sessions.get? "a" = some sess ∧ sess.frames = [] ∧ sess.headFrameID = "" ∧
          sess.endedAt = some 0 := by
  have run := replay_hostRun Env.inert {} [('a', .creates), ('b', .frameVanished "aa")] rfl
  refine ⟨_, ⟨{}, _, run⟩, ?_⟩
  intro more t later
  have respectful := run.restrict (fun s label => label.1.RespectsEnded Env.inert s)
    (forall_mem_cons.mpr ⟨fun _ => trivial, forall_mem_cons.mpr ⟨fun _ => trivial, forall_mem_nil _⟩⟩)
  exact ((ended_sessions_absorbing Env.inert_pushesOwn respectful).1 more t later "a" _ rfl rfl).1

/-- A client can push a frame into an ended session, and a second stop moves the time it ended. -/
theorem ended_session_regains_frame : (∃ (s s' : State Unit) (effs : List (Effect Unit)), Reachable Env.inert s ∧
      (s.sessions.get? "a").map Session.endedAt = some (some 0) ∧ Step Env.inert s
        (.event 1 "r" (.pushDriver (.ok { sessionID := "a", command := "x" })), effs) s' ∧
      (s'.sessions.get? "a").map (fun sess => (sess.node.frames, sess.headFrameID,
        sess.endedAt)) = some (["c"], "c", some 0) ∧
      effs.map Effect.spawnsIn = [some "a"]) ∧
    ∃ (s s' : State Unit) (effs : List (Effect Unit)), Reachable Env.inert s ∧
      (s.sessions.get? "a").map Session.endedAt = some (some 0) ∧
      Step Env.inert s (.event 1 "r" (.stopSession (.ok "a")), effs) s' ∧
      (s'.sessions.get? "a").map Session.endedAt = some (some 5) :=
  ⟨⟨_, _, _, replay_reachable Env.inert {} [('a', .creates), ('b', .frameVanished "aa")] rfl, rfl,
      ⟨Draw.tagged 'c', Draw.tagged_fresh rfl, rfl⟩, rfl, rfl⟩,
    _, _, _, replay_reachable Env.inert {} [('a', .creates), ('b', .frameVanished "aa"), ('c', .tick 5 1)] rfl, rfl,
      ⟨Draw.tagged 'd', Draw.tagged_fresh rfl, rfl⟩, rfl⟩

end AgentGrid.Host
