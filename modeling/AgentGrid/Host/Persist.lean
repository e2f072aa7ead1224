import AgentGrid.Host.Ended

/-!
# The durable records of sessions

The loop handles an event by reducing it, executing its effects one by one and writing the
difference of the session maps to the store.  `Save` only adds or overwrites records; one is
deleted when a session ends in a stop-session event.  The record of a session stands for its
snapshot.
-/

namespace AgentGrid.Host

open AgentGrid.Lib List Option Function GoMap State

variable {D : Type}

abbrev SessionMap (D : Type) := GoMap SessionID (Session D)

namespace Persist

def save (store : SessionMap D) (snapshots : List (Session D)) : SessionMap D :=
  snapshots.foldl (fun records sess => records.set sess.id sess) store

def delete (store : SessionMap D) (id : SessionID) : SessionMap D :=
  if id = "" then store else store.delete id

end Persist

/-- `snapshotSessions`: ended sessions are left out. -/
def snapshotSessions (s : State D) : List (Session D) :=
  (s.sessions.entries.map Prod.snd).filter fun sess => !sess.ended

/-- The sessions that left the map or have ended, for `reconcilePersist`. -/
def removedSessions (prev next : SessionMap D) : List SessionID :=
  (prev.entries.filter fun entry =>
    (next.get? entry.1).elim true fun after => after.ended && !entry.2.ended).map Prod.fst

def Event.isExplicitSessionDelete : Event D → Bool
  | .event _ _ (.stopSession _) => true
  | _ => false

/-- What the loop has still to do for the event at hand. -/
inductive Work (D : Type) where
  | execute (eff : Effect D) | reconcilePersist (prev : SessionMap D) (deleteDurable : Bool)

/-- The loop's state, the store and the work at hand. -/
structure Runtime (D : Type) where
  state : State D
  store : SessionMap D := ∅
  work : List (Work D) := []

/-- A step of the loop.  The effect at hand may find its clone admitted, and the session maps
before and after an event may be one map. -/
inductive RuntimeLabel (D : Type) where
  | dispatch (ev : Event D) | next (admitted shared : Bool) | finalPersistFlush

/-- The two maps have the same sessions, ended or not. -/
def alike (prev next : SessionMap D) : Bool :=
  prev.entries.all (fun entry => (next.get? entry.1).any fun sess => sess.ended == entry.2.ended) &&
    next.entries.all fun entry => (prev.get? entry.1).isSome

namespace Runtime

variable (env : Env D) (d : Draw) (r : Runtime D)

/-- `dispatch`, up to the execution of the effects. -/
def dispatch (ev : Event D) (later : List (Work D)) : Option (Runtime D) :=
  (reduce env d r.state ev).toOption.map fun reduced =>
    { r with
      state := reduced.1
      work := reduced.2.map Work.execute ++ .reconcilePersist r.state.sessions ev.isExplicitSessionDelete :: later }

/-- `execute`, of the effects that write to the store or dispatch an event themselves. -/
def execute (eff : Effect D) (later : List (Work D)) (admitted : Bool) : Option (Runtime D) :=
  match eff with
  | .persistSnapshot | .commitShutdownSessions _ =>
    some { r with store := Persist.save r.store (snapshotSessions r.state), work := later }
  | .repositoryStartClone id _ _ generation =>
    (findPreparation r.state id).elim (some { r with work := later }) fun prep =>
      if prep.lastOwnedWorkerGeneration ≠ generation || !admitted then some { r with work := later }
      else
        r.dispatch env d (.repository
            { kind := .cloneStarted, preparationID := prep.id, observedRevision := prep.revision }) later
  | _ => some { r with work := later }

/-- `reconcilePersist`, of two maps that are not one. -/
def reconcilePersist (prev : SessionMap D) (deleteDurable : Bool) : Runtime D :=
  let kept := if deleteDurable then (removedSessions prev r.state.sessions).foldl Persist.delete r.store
    else r.store
  { r with
    store := if r.state.sessions.entries.isEmpty then kept
      else Persist.save kept (snapshotSessions r.state) }

def finalPersistFlush : Runtime D :=
  if r.state.sessions.entries.isEmpty then r
  else { r with store := Persist.save r.store (snapshotSessions r.state) }

def apply : RuntimeLabel D → Option (Runtime D)
  | .dispatch ev => if r.work.isEmpty then r.dispatch env d ev [] else none
  | .next admitted shared =>
    match r.work with
    | [] => none
    | .execute eff :: later => r.execute env d eff later admitted
    | .reconcilePersist prev deleteDurable :: later =>
      if shared then if alike prev r.state.sessions then some { r with work := later } else none
      else some ({ r with work := later }.reconcilePersist prev deleteDurable)
  | .finalPersistFlush => if r.work.isEmpty then some r.finalPersistFlush else none

def Step (a : RuntimeLabel D) (r' : Runtime D) : Prop :=
  ∃ d : Draw, d.Fresh r.state ∧ r.apply env d a = some r'

end Runtime

/-! ## The store -/

namespace Persist

variable {store : SessionMap D} {id sid : SessionID}

variable {snapshots : List (Session D)}

theorem get?_save_of_other (other : ∀ sess ∈ snapshots, sess.id ≠ sid) :
    (save store snapshots).get? sid = store.get? sid := by
  induction snapshots generalizing store with
  | nil => rfl
  | cons sess rest ih =>
    obtain ⟨first, others⟩ := forall_mem_cons.mp other
    exact (ih others).trans (get?_set_of_ne _ first.symm _)

theorem save_keeps (stored : store.get? id ≠ none) : (save store snapshots).get? id ≠ none := by
  induction snapshots generalizing store with
  | nil => exact stored
  | cons sess rest ih =>
    refine ih ?_
    rw [get?_set]
    split
    · exact some_ne_none _
    · exact stored

theorem get?_delete_of_none (absent : store.get? sid = none) : (delete store id).get? sid = none := by
  unfold delete
  split
  · exact absent
  rw [get?_delete]
  split
  · rfl
  · exact absent

variable {ids : List SessionID}

theorem get?_deletes_of_none (absent : store.get? sid = none) : (ids.foldl delete store).get? sid = none := by
  induction ids generalizing store with
  | nil => exact absent
  | cons id rest ih => exact ih (get?_delete_of_none absent)

theorem get?_deletes_of_mem (mem : sid ∈ ids) (named : sid ≠ "") : (ids.foldl delete store).get? sid = none := by
  induction ids generalizing store with
  | nil => cases mem
  | cons id rest ih =>
    rcases mem_cons.mp mem with rfl | later
    · have gone : (delete store sid).get? sid = none := by
        rw [delete, if_neg named]
        exact get?_delete_self _ _
      rw [foldl_cons]
      exact get?_deletes_of_none gone
    · exact ih later

theorem get?_save_of_ended {s : State D} {n : Node} (wf : s.graph.WF)
    (found : s.graph sid = some n) (ended : n.endedAt.isSome = true) :
    (save store (snapshotSessions s)).get? sid = store.get? sid := by
  refine get?_save_of_other fun sess mem => ?_
  rintro rfl
  obtain ⟨listed, live⟩ := mem_filter.mp mem
  obtain ⟨⟨key, _⟩, entry, rfl⟩ := List.mem_map.mp listed
  have stored := graph_of_get? (mem_entries.mp entry)
  have keyed : _ = key := wf.key stored
  subst keyed
  rw [show (Session.node _).id = Session.id _ from rfl, found] at stored
  cases stored
  have ended' : Session.ended _ = true := ended
  rw [ended'] at live
  cases live

end Persist

/-! ## Ended sessions -/

section Ended

variable {env : Env D} {d : Draw} {s s' : State D} {ev : Event D} {effs : List (Effect D)}
  {sid : SessionID}

/-- The event does not drop an ended session from the map. -/
def Event.SparesEnded (s : State D) : Event D → Prop
  | .spawnFailed e => ∀ sid n, s.graph sid = some n → e.frameID ∈ n.frames → n.endedAt = none
  | _ => True

variable {n : Node}

theorem Event.SparesEnded.live {fid : FrameID} {kill : Bool} (spares : ev.SparesEnded s)
    (evicts : ev.evicts = some (fid, kill, .dropUnstartedSession)) (found : s.graph sid = some n)
    (held : fid ∈ n.frames) : n.endedAt = none := by
  cases ev with
  | spawnFailed =>
    cases evicts
    exact spares sid n found held
  | frameCommandExited =>
    simp only [Event.evicts] at evicts
    split at evicts <;> cases evicts
  | _ => cases evicts

def Graph.EndedAt (g : Graph) (sid : SessionID) : Prop :=
  ∃ n, g sid = some n ∧ n.endedAt.isSome = true

variable {g : Graph}

theorem Graph.EndedAt.update {k : SessionID} (ended : g.EndedAt sid)
    (kept : ∀ old, g k = some old → old.endedAt.isSome = true → n.endedAt.isSome = true) :
    Graph.EndedAt (Function.update g k (some n)) sid := by
  obtain ⟨old, found, finished⟩ := ended
  by_cases same : sid = k
  · subst same
    exact ⟨n, update_self _ _ _, kept old found finished⟩
  · exact ⟨old, by rw [update_of_ne same, found], finished⟩

theorem Pushed.keeps_ended {k : Nat} {g' : Graph} {raws out : List (Effect D)}
    (pushed : Pushed d k g raws g' out) (ended : g.EndedAt sid) : g'.EndedAt sid := by
  induction pushed with
  | nil => exact ended
  | pass _ ih | skip _ ih => exact ih ended
  | push found _ ih =>
    refine ih (ended.update ?_)
    intro old stored finished
    cases found.symm.trans stored
    exact finished

theorem Rewrite.stays_ended (fresh : d.Fresh s) (spares : ev.SparesEnded s)
    (rewrite : Rewrite env d s ev g) (ended : s.graph.EndedAt sid) : g.EndedAt sid := by
  cases rewrite with
  | same => exact ended
  | create =>
    refine ended.update fun old stored _ => ?_
    rw [fresh.graph 0] at stored
    cases stored
  | push _ found =>
    refine ended.update fun old stored finished => ?_
    rw [graph_of_get? found] at stored
    cases stored
    exact finished
  | driven driven => exact driven.pushed.keeps_ended ended
  | select found =>
    refine ended.update fun old stored finished => ?_
    cases found.symm.trans stored
    exact finished
  | publish _ free =>
    refine ended.update fun old stored _ => ?_
    cases free.symm.trans stored
  | remove removal =>
    cases removal with
    | stop _ found | endRoot _ found _ => exact ended.update fun _ _ _ => rfl
    | @dropRoot _ _ k n evicts found held =>
      obtain ⟨m, there, finished⟩ := ended
      have other : sid ≠ k := by
        rintro rfl
        cases found.symm.trans there
        rw [spares.live evicts found held] at finished
        cases finished
      exact ⟨m, by rw [update_of_ne other, there], finished⟩
    | child _ found =>
      refine ended.update fun old stored finished => ?_
      cases found.symm.trans stored
      rwa [Node.evict_endedAt]

theorem Step.stays_ended (step : Step env s (ev, effs) s') (spares : ev.SparesEnded s)
    (ended : s.graph.EndedAt sid) : s'.graph.EndedAt sid := by
  rcases Step.cases step with ⟨_, d, fresh, action⟩ | ⟨_, admitted⟩
  · exact action.rewrite.stays_ended fresh spares ended
  · rwa [admitted.graph]

end Ended

/-! ## Steps of the loop -/

namespace Runtime

variable {env : Env D} {r r' : Runtime D} {a : RuntimeLabel D} {sid : SessionID}

/-- The event the label hands to the loop drops no ended session. -/
def Spares (r : Runtime D) : RuntimeLabel D → Prop
  | .dispatch ev => ev.SparesEnded r.state
  | _ => True

def SparingStep (env : Env D) (r : Runtime D) (a : RuntimeLabel D) (r' : Runtime D) : Prop :=
  Step env r a r' ∧ r.Spares a

/-- The other work has the same reconciliations to do. -/
def Remains (r : Runtime D) (later : List (Work D)) : Prop :=
  ∀ prev deleteDurable, Work.reconcilePersist prev deleteDurable ∈ r.work ↔
    Work.reconcilePersist prev deleteDurable ∈ later

inductive Turn (env : Env D) (r : Runtime D) : RuntimeLabel D → Runtime D → Prop where
  | reduced {a : RuntimeLabel D} {ev : Event D} {effs : List (Effect D)} {s' : State D}
      {later : List (Work D)} (step : Host.Step env r.state (ev, effs) s')
      (source : a = .dispatch ev ∨ ev.isExplicitSessionDelete = false)
      (spares : r.Spares a → ev.SparesEnded r.state) (remains : r.Remains later) : Turn env r a
        { r with
          state := s'
          work := effs.map Work.execute ++ .reconcilePersist r.state.sessions ev.isExplicitSessionDelete :: later }
  | saved {a : RuntimeLabel D} {later : List (Work D)} (remains : r.Remains later) : Turn env r a
        { r with store := Persist.save r.store (snapshotSessions r.state), work := later }
  | passed {a : RuntimeLabel D} {later : List (Work D)} (remains : r.Remains later) :
      Turn env r a { r with work := later }
  | shared {a : RuntimeLabel D} {prev : SessionMap D} {deleteDurable : Bool}
      {later : List (Work D)} (head : r.work = .reconcilePersist prev deleteDurable :: later)
      (same : alike prev r.state.sessions = true) : Turn env r a { r with work := later }
  | reconciled {a : RuntimeLabel D} {prev : SessionMap D} {deleteDurable : Bool}
      {later : List (Work D)} (head : r.work = .reconcilePersist prev deleteDurable :: later) :
      Turn env r a ({ r with work := later }.reconcilePersist prev deleteDurable)

variable {d : Draw} {ev : Event D} {later : List (Work D)}

theorem dispatch_eq (dispatched : r.dispatch env d ev later = some r') :
    ∃ s' effs, reduce env d r.state ev = .ok (s', effs) ∧ r' = { r with
        state := s', work := effs.map Work.execute ++
          .reconcilePersist r.state.sessions ev.isExplicitSessionDelete :: later } := by
  obtain ⟨⟨s', effs⟩, reduced, same⟩ := map_eq_some_iff.mp dispatched
  cases outcome : reduce env d r.state ev with
  | error =>
    rw [outcome] at reduced
    cases reduced
  | ok =>
    rw [outcome] at reduced
    cases reduced
    exact ⟨s', effs, rfl, same.symm⟩

theorem dispatch_turn (fresh : d.Fresh r.state) (dispatched : r.dispatch env d ev later = some r')
    (source : a = .dispatch ev ∨ ev.isExplicitSessionDelete = false)
    (spares : r.Spares a → ev.SparesEnded r.state) (remains : r.Remains later) : Turn env r a r' := by
  obtain ⟨s', effs, reduced, rfl⟩ := dispatch_eq dispatched
  exact .reduced ⟨d, fresh, reduced⟩ source spares remains

theorem execute_turn {eff : Effect D} {admitted : Bool} (fresh : d.Fresh r.state)
    (head : r.work = .execute eff :: later)
    (executed : r.execute env d eff later admitted = some r') : Turn env r a r' := by
  have remains : r.Remains later := by
    intro prev deleteDurable
    rw [head, mem_cons]
    exact ⟨fun mem => mem.resolve_left nofun, .inr⟩
  unfold execute at executed
  split at executed
  · cases executed
    exact .saved remains
  · cases executed
    exact .saved remains
  · rename_i id _ _ generation
    cases found : findPreparation r.state id with
    | none =>
      rw [found] at executed
      cases executed
      exact .passed remains
    | some =>
      rw [found] at executed
      simp only [elim_some] at executed
      split at executed
      · cases executed
        exact .passed remains
      · exact dispatch_turn fresh executed (.inr rfl) (fun _ => trivial) remains
  · cases executed
    exact .passed remains

theorem Step.turn (step : Step env r a r') : Turn env r a r' := by
  obtain ⟨d, fresh, applied⟩ := step
  revert applied
  fun_cases apply env d r a <;> intro applied <;> try cases applied
  case case1 idle =>
    refine dispatch_turn fresh applied (.inl rfl) (fun spares => spares) ?_
    intro prev deleteDurable
    rw [List.isEmpty_iff.mp idle]
  case case4 head => exact execute_turn fresh head applied
  case case5.refl head same => exact .shared head same
  case case7.refl head _ => exact .reconciled head
  case case8.refl =>
    unfold finalPersistFlush
    split
    · exact .passed fun _ _ => .rfl
    · exact .saved fun _ _ => .rfl

/-! ## A stopped session -/

/-- The session has ended, and its record is gone or about to be deleted. -/
structure Stopped (sid : SessionID) (r : Runtime D) : Prop where
  wf : r.state.graph.WF
  ended : r.state.graph.EndedAt sid
  gone : r.store.get? sid = none ∨ ∃ prev sess, .reconcilePersist prev true ∈ r.work ∧
    prev.get? sid = some sess ∧ sess.ended = false

theorem ended_session {s : State D} (ended : s.graph.EndedAt sid) :
    ∃ sess, s.sessions.get? sid = some sess ∧ sess.ended = true := by
  obtain ⟨n, found, finished⟩ := ended
  obtain ⟨sess, stored, rfl⟩ := graph_eq_some.mp found
  exact ⟨sess, stored, finished⟩

variable {prev next : SessionMap D} {sess sess' : Session D}

theorem not_alike (before : prev.get? sid = some sess) (live : sess.ended = false)
    (after : next.get? sid = some sess') (finished : sess'.ended = true) : alike prev next ≠ true := by
  intro same
  have kept := List.all_eq_true.mp (Bool.and_eq_true_iff.mp same).1 _ (mem_entries.mpr before)
  simp [after, live, finished] at kept

theorem mem_removedSessions (before : prev.get? sid = some sess) (live : sess.ended = false)
    (after : next.get? sid = some sess') (finished : sess'.ended = true) : sid ∈ removedSessions prev next := by
  refine List.mem_map.mpr ⟨(sid, sess), mem_filter.mpr ⟨mem_entries.mpr before, ?_⟩, rfl⟩
  simp [after, live, finished]

theorem reconcilePersist_none {deleteDurable : Bool} {n : Node} (wf : r.state.graph.WF)
    (found : r.state.graph sid = some n) (finished : n.endedAt.isSome = true)
    (gone : r.store.get? sid = none ∨ deleteDurable = true ∧ sid ∈ removedSessions prev r.state.sessions) :
    (r.reconcilePersist prev deleteDurable).store.get? sid = none := by
  have deleted : (if deleteDurable then
      (removedSessions prev r.state.sessions).foldl Persist.delete r.store
      else r.store).get? sid = none := by
    rcases gone with absent | ⟨rfl, mem⟩
    · split
      · exact Persist.get?_deletes_of_none absent
      · exact absent
    · exact Persist.get?_deletes_of_mem mem (wf.named found)
  unfold reconcilePersist
  dsimp only
  split
  · exact deleted
  · rw [Persist.get?_save_of_ended wf found finished, deleted]

namespace Turn

variable (turn : Turn env r a r')

include turn

theorem wf (wf : r.state.graph.WF) : r'.state.graph.WF := by
  cases turn with
  | reduced reduced => exact Host.Step.graph_wf reduced wf
  | saved | passed | shared | reconciled => exact wf

theorem ended (spares : r.Spares a) (ended : r.state.graph.EndedAt sid) : r'.state.graph.EndedAt sid := by
  cases turn with
  | reduced reduced _ spared => exact reduced.stays_ended (spared spares) ended
  | saved | passed | shared | reconciled => exact ended

theorem absent (wf : r.state.graph.WF) (ended : r.state.graph.EndedAt sid)
    (absent : r.store.get? sid = none) : r'.store.get? sid = none := by
  obtain ⟨n, found, finished⟩ := ended
  cases turn with
  | reduced | passed | shared => exact absent
  | saved => exact (Persist.get?_save_of_ended wf found finished).trans absent
  | reconciled => exact reconcilePersist_none wf found finished (.inl absent)

end Turn

theorem Stopped.step (stopped : Stopped sid r) (step : SparingStep env r a r') : Stopped sid r' := by
  have turn := step.1.turn
  refine ⟨turn.wf stopped.wf, turn.ended step.2 stopped.ended, ?_⟩
  rcases stopped.gone with absent | ⟨prev, sess, mem, before, live⟩
  · exact .inl (turn.absent stopped.wf stopped.ended absent)
  obtain ⟨sess', after, ended⟩ := ended_session stopped.ended
  cases turn with
  | reduced _ _ _ remains =>
    have kept := (remains _ _).mp mem
    exact .inr ⟨prev, sess, mem_append_right _ (mem_cons_of_mem _ kept), before, live⟩
  | saved remains | passed remains => exact .inr ⟨prev, sess, (remains _ _).mp mem, before, live⟩
  | shared head same =>
    rw [head] at mem
    rcases mem_cons.mp mem with here | there
    · cases here
      exact absurd same (not_alike before live after ended)
    · exact .inr ⟨prev, sess, there, before, live⟩
  | reconciled head =>
    rw [head] at mem
    rcases mem_cons.mp mem with here | there
    · cases here
      obtain ⟨n, found, finished⟩ := stopped.ended
      exact .inl (reconcilePersist_none stopped.wf found finished
        (.inr ⟨rfl, mem_removedSessions before live after ended⟩))
    · exact .inr ⟨prev, sess, there, before, live⟩

theorem stopped_of_stop {connID : ConnID} {reqID : String} (wf : r.state.graph.WF)
    (running : r.state.lifecycle = .running) (found : r.state.sessions.get? sid = some sess)
    (live : sess.ended = false)
    (step : Step env r (.dispatch (.event connID reqID (.stopSession (.ok sid)))) r') : Stopped sid r' := by
  obtain ⟨d, fresh, applied⟩ := step
  unfold apply at applied
  dsimp only at applied
  split at applied
  · obtain ⟨s', effs, reduced, rfl⟩ := dispatch_eq applied
    have step : Host.Step env r.state (.event connID reqID (.stopSession (.ok sid)), effs) s' := ⟨d, fresh, reduced⟩
    have after := Host.Step.graph_wf step wf
    simp only [reduce, running, reduceRunning, reduceEvent, decoded, reduceStopSession, found] at reduced
    cases reduced
    refine ⟨after, ?_, .inr ?_⟩
    · have stored : (r.state.sessions.set sid (endSession sess r.state.now)).get? sid =
          some (endSession sess r.state.now) := get?_set_self _ _ _
      exact ⟨_, graph_of_get? stored, rfl⟩
    · exact ⟨_, sess, mem_append_right _ mem_cons_self, found, live⟩
  · cases applied

/-! ## Records that stay -/

/-- No reconciliation at hand deletes anything, and the record is there. -/
structure Lasting (id : SessionID) (r : Runtime D) : Prop where
  keeps : ∀ prev deleteDurable, .reconcilePersist prev deleteDurable ∈ r.work → deleteDurable = false
  stored : r.store.get? id ≠ none

theorem Lasting.step {id : SessionID} (lasting : Lasting id r) (step : Step env r a r')
    (implicit : ∀ ev, a = .dispatch ev → ev.isExplicitSessionDelete = false) : Lasting id r' := by
  cases step.turn with
  | reduced _ source _ remains =>
    refine ⟨fun prev deleteDurable mem => ?_, lasting.stored⟩
    rcases mem_append.mp mem with effect | work
    · obtain ⟨_, _, other⟩ := List.mem_map.mp effect
      cases other
    rcases mem_cons.mp work with here | later
    · cases here
      exact source.elim (implicit _) fun nested => nested
    · exact lasting.keeps prev deleteDurable ((remains _ _).mpr later)
  | saved remains =>
    exact ⟨fun prev deleteDurable mem => lasting.keeps prev deleteDurable ((remains _ _).mpr mem),
      Persist.save_keeps lasting.stored⟩
  | passed remains =>
    exact ⟨fun prev deleteDurable mem => lasting.keeps prev deleteDurable ((remains _ _).mpr mem), lasting.stored⟩
  | shared head =>
    refine ⟨fun prev deleteDurable mem => lasting.keeps prev deleteDurable ?_, lasting.stored⟩
    rw [head]
    exact mem_cons_of_mem _ mem
  | reconciled head =>
    refine ⟨fun prev deleteDurable mem => lasting.keeps prev deleteDurable ?_, ?_⟩
    · rw [head]
      exact mem_cons_of_mem _ mem
    · have implicit := lasting.keeps _ _ (head ▸ mem_cons_self)
      subst implicit
      unfold reconcilePersist
      dsimp only
      split
      · exact lasting.stored
      · exact Persist.save_keeps lasting.stored

/-! ## Whole runs -/

/-- As long as no event drops an ended session: once the stop of a session that has not ended is
handled by the running daemon, the session has no record and never gets one again.  A record is
deleted in the handling of stop-session events only. -/
theorem stop_removes_record {r₀ : Runtime D} {labels : List (RuntimeLabel D)}
    (wf : r₀.state.graph.WF) (run : Run (SparingStep env) r₀ labels r) :
    (∀ connID reqID sid sess r₁, r.state.lifecycle = .running →
      r.state.sessions.get? sid = some sess → sess.ended = false →
      Step env r (.dispatch (.event connID reqID (.stopSession (.ok sid)))) r₁ →
      ∀ more r₂ rest r₃, Run (SparingStep env) r₁ more r₂ → r₂.work = [] →
        Run (SparingStep env) r₂ rest r₃ → r₃.store.get? sid = none) ∧
      ∀ more r', r.work = [] → Run (Step env) r more r' →
        (∀ ev, .dispatch ev ∈ more → ev.isExplicitSessionDelete = false) →
        ∀ id, r.store.get? id ≠ none → r'.store.get? id ≠ none := by
  have ordered := run.invariant (fun r => r.state.graph.WF) wf fun _ _ _ wf step => step.1.turn.wf wf
  constructor
  · intro connID reqID sid sess r₁ running found live stop more r₂ rest r₃ handled idle later
    have stopped : Stopped sid r₂ := handled.invariant (Stopped sid) (stopped_of_stop ordered running found live stop)
        fun _ _ _ stopped step => stopped.step step
    have absent : r₂.store.get? sid = none := by
      rcases stopped.gone with absent | ⟨_, _, mem, _⟩
      · exact absent
      · rw [idle] at mem
        cases mem
    have forgotten := later.invariant
      (fun r => r.state.graph.WF ∧ r.state.graph.EndedAt sid ∧ r.store.get? sid = none)
      ⟨stopped.wf, stopped.ended, absent⟩ fun _ _ _ ⟨wf, ended, absent⟩ step =>
        ⟨step.1.turn.wf wf, step.1.turn.ended step.2 ended, step.1.turn.absent wf ended absent⟩
    exact forgotten.2.2
  · intro more r' idle steps implicit id stored
    have start : Lasting id r := by
      refine ⟨fun prev deleteDurable mem => ?_, stored⟩
      rw [idle] at mem
      cases mem
    have good := steps.restrict (fun _ a => ∀ ev, a = .dispatch ev → ev.isExplicitSessionDelete = false)
      fun a mem _ ev same => implicit ev (same ▸ mem)
    have lasting : Lasting id r' :=
      good.invariant (Lasting id) start fun _ _ _ lasting step => lasting.step step.1 step.2
    exact lasting.stored

/-! ## Driving the loop -/

/-- The step of the label, where the character is free to make new ids from. -/
def attempt (env : Env D) (r : Runtime D) (input : Char × RuntimeLabel D) : Option (Runtime D × RuntimeLabel D) :=
  if r.state.avoids input.1 then (r.apply env (Draw.tagged input.1) input.2).map fun r' => (r', input.2)
  else none

theorem attempt_run (inputs : List (Char × RuntimeLabel D)) {labels : List (RuntimeLabel D)}
    (driven : drive (attempt env) r inputs = some (r', labels)) : Run (Step env) r labels r' := by
  refine drive_run (fun s input s' a tried => ?_) driven
  obtain ⟨unused, tried⟩ := ite_none_right_eq_some.mp tried
  obtain ⟨_, applied, ⟨⟩⟩ := map_eq_some_iff.mp tried
  exact ⟨_, Draw.tagged_fresh unused, applied⟩

def started : Runtime Unit := { state := State.new {} }

def creating : List (Char × RuntimeLabel Unit) :=
  ('a', .dispatch (.event 1 "q" (.createSession (.ok { project := "p", command := "x" })))) ::
    List.replicate 2 ('b', .next false false)

def driven (r : Runtime Unit) (inputs : List (Char × RuntimeLabel Unit)) : Runtime Unit :=
  ((drive (attempt Env.inert) r inputs).map Prod.fst).getD r

def stopping : List (Char × RuntimeLabel Unit) :=
  [('c', .dispatch (.event 1 "r" (.stopSession (.ok "a"))))]

/-- The effects of that stop and its reconciliation. -/
def handling : List (Char × RuntimeLabel Unit) := List.replicate 8 ('d', .next false false)

def created : Runtime Unit := driven started creating

/-- A session is created and then stopped, and its record is gone for good. -/
theorem stopped_session_has_no_record : (created.store.get? "a").isSome = true ∧
      ∃ r₁ r₂ more, Step Env.inert created (.dispatch (.event 1 "r" (.stopSession (.ok "a")))) r₁ ∧
        Run (SparingStep Env.inert) r₁ more r₂ ∧ r₂.work = [] ∧
        ∀ rest r₃, Run (SparingStep Env.inert) r₂ rest r₃ → r₃.store.get? "a" = none := by
  have creation : Run (Step Env.inert) started (creating.map Prod.snd) created := attempt_run creating rfl
  have sparing := creation.restrict Spares (by
    intro a mem r
    simp only [creating, map_cons, map_replicate, mem_cons, mem_replicate] at mem
    rcases mem with rfl | ⟨_, rfl⟩ <;> trivial)
  have stop : Step Env.inert created (.dispatch (.event 1 "r" (.stopSession (.ok "a"))))
      (driven created stopping) := ⟨Draw.tagged 'c', Draw.tagged_fresh rfl, rfl⟩
  have steps : Run (Step Env.inert) (driven created stopping) (handling.map Prod.snd)
      (driven (driven created stopping) handling) := attempt_run handling rfl
  have handled := steps.restrict Spares (by
    intro a mem r
    simp only [handling, map_replicate, mem_replicate] at mem
    obtain ⟨_, rfl⟩ := mem
    trivial)
  have wf : started.state.graph.WF := Graph.WF.empty
  refine ⟨rfl, _, _, _, stop, handled, rfl, fun rest r₃ later => ?_⟩
  exact (stop_removes_record wf sparing).1 _ _ _ _ _ rfl rfl rfl stop _ _ _ _ handled rfl later

def vanishing : List (Char × RuntimeLabel Unit) :=
  ('c', .dispatch (.frameVanished "aa")) :: List.replicate 6 ('d', .next false false)

def ended : Runtime Unit := driven started (creating ++ vanishing)

/-- The record of a session that ended by itself outlives the stop of the session. -/
theorem stop_leaves_record_of_ended_session :
    (∃ labels, Run (Step Env.inert) started labels ended) ∧ ended.work.isEmpty = true ∧
      (ended.state.sessions.get? "a").map Session.ended = some true ∧
      ∃ r₁ r₂ more, Step Env.inert ended (.dispatch (.event 1 "r" (.stopSession (.ok "a")))) r₁ ∧
        Run (Step Env.inert) r₁ more r₂ ∧ r₂.work.isEmpty = true ∧ (r₂.store.get? "a").isSome = true := by
  have stop : Step Env.inert ended (.dispatch (.event 1 "r" (.stopSession (.ok "a"))))
      (driven ended stopping) := ⟨Draw.tagged 'c', Draw.tagged_fresh rfl, rfl⟩
  have handled : Run (Step Env.inert) (driven ended stopping) _ _ :=
    attempt_run (List.replicate 4 ('d', .next false false)) rfl
  exact ⟨⟨_, attempt_run (creating ++ vanishing) rfl⟩, rfl, rfl, _, _, _, stop, handled, rfl, rfl⟩

end Runtime

end AgentGrid.Host
