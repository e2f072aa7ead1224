import AgentGrid.Host.Origin

/-!
# Teardown of frames

A frame that leaves the session graph is released, unregistered and unwatched
exactly once by the step that removes it, and its window is killed exactly when the
removal was asked for.  A frame that stays is neither killed nor unregistered.
-/

namespace AgentGrid.Host

open AgentGrid.Lib List State Effect

variable {D : Type} {env : Env D} {d : Draw} {s s' : State D} {ev : Event D}
  {effs : List (Effect D)}

inductive TeardownKind where
  | kill | release | unregister | unwatch
  deriving DecidableEq

def Effect.dismantles : Effect D → Option (TeardownKind × FrameID)
  | .killFrame fid => some (.kill, fid)
  | .releaseFrame fid => some (.release, fid)
  | .unregisterFrame fid => some (.unregister, fid)
  | .unwatchFile fid => some (.unwatch, fid)
  | _ => none

/-- How often the effects take the frame apart in the given way. -/
def teardowns (kind : TeardownKind) (fid : FrameID) (effs : List (Effect D)) : Nat :=
  effs.countP fun e => e.dismantles == some (kind, fid)

def Env.TeardownFree (env : Env D) : Prop := ∀ e, env.Emits e → e.dismantles = none

theorem Env.inert_teardownFree : Env.inert.TeardownFree :=
  fun _ emitted => absurd emitted Env.inert_emits

/-- The event stops a session or reports an intentional exit. -/
def Event.kills : Event D → Bool
  | .event _ _ (.stopSession _) => true
  | .frameCommandExited _ code => isIntentionalExit code
  | _ => false

/-! ## Effects that take nothing apart -/

variable {e : Effect D}

theorem Env.TeardownFree.fromDriver (calm : env.TeardownFree) (emitted : env.FromDriver e) : e.dismantles = none := by
  obtain ⟨sid, fid, before, raw, raised, rfl⟩ := emitted
  have untouched := calm raw raised
  cases raw <;> first | exact untouched | rfl | cases untouched

theorem Ordinary.dismantles (calm : env.TeardownFree) (ordinary : Ordinary env ev e) : e.dismantles = none := by
  rcases ordinary with plain | emitted | ⟨client, addressed, _⟩
  · cases e <;> first | rfl | cases plain
  · exact calm.fromDriver emitted
  · cases e <;> first | rfl | cases addressed

theorem Effect.settles_dismantles (settles : e.settles = true) : e.dismantles = none := by
  cases e <;> first | rfl | cases settles

theorem Effect.repliesTo_dismantles {client : ConnID × String}
    (addressed : e.repliesTo = some client) : e.dismantles = none := by cases e <;> first | rfl | cases addressed

theorem failureReply_dismantles : ∀ e ∈ ev.failureReply, e.dismantles = none := by
  intro e mem
  obtain ⟨client, addressed, _⟩ := mem_failureReply mem
  exact repliesTo_dismantles addressed

theorem teardowns_append (kind : TeardownKind) (fid : FrameID) (xs ys : List (Effect D)) :
    teardowns kind fid (xs ++ ys) = teardowns kind fid xs + teardowns kind fid ys :=
  countP_append

variable {kind : TeardownKind} {fid : FrameID}

theorem teardowns_eq_zero (none_torn : ∀ e ∈ effs, e.dismantles = none) : teardowns kind fid effs = 0 := by
  refine countP_eq_zero.mpr ?_
  intro e mem
  simp [none_torn e mem]

theorem teardowns_kill_pos : 0 < teardowns .kill fid effs ↔ .killFrame fid ∈ effs := by
  rw [teardowns, countP_pos_iff]
  constructor
  · rintro ⟨e, mem, taken⟩
    have same : e.dismantles = some (.kill, fid) := by simpa using taken
    cases e <;> cases same
    exact mem
  · intro mem
    exact ⟨_, mem, by simp [Effect.dismantles]⟩

theorem teardowns_teardownOf (kind : TeardownKind) (fid : FrameID) (frames : List FrameID) (kill : Bool) :
    teardowns kind fid (teardownOf frames kill : List (Effect D)) =
      if kind = .kill ∧ kill = false then 0 else frames.count fid := by
  induction frames with
  | nil => simp [teardowns]
  | cons f rest ih =>
    have split : (teardownOf (f :: rest) kill : List (Effect D)) =
        frameTeardownEffects f kill ++ teardownOf rest kill := rfl
    rw [split, teardowns_append, ih, count_cons]
    cases kill <;> cases kind <;>
      simp [teardowns, Effect.dismantles, countP_cons, Nat.add_comm]

/-! ## Removals -/

section Removals

variable {frames : List FrameID} {kill : Bool} {g : Graph} {f : FrameID}

theorem Graph.Holds.of_update {sid : SessionID} {x : Option Node} (held : Graph.Holds (Function.update g sid x) f) :
    (∃ n, x = some n ∧ f ∈ n.frames) ∨ ∃ k n, k ≠ sid ∧ g k = some n ∧ f ∈ n.frames := by
  obtain ⟨k, n, found, mem⟩ := held
  rw [Function.update_apply] at found
  split at found
  · exact .inl ⟨n, found, mem⟩
  · rename_i differs
    exact .inr ⟨k, n, differs, found, mem⟩

section

variable (removal : Removal s ev frames kill g)

include removal

theorem Removal.gone (wf : s.graph.WF) (mem : f ∈ frames) : ¬ g.Holds f := by
  intro held
  cases removal with
  | stop _ found | endRoot _ found _ =>
    rcases held.of_update with ⟨n, same, still⟩ | ⟨k, n, differs, there, still⟩
    · cases same
      cases still
    · exact differs (wf.disjoint there found still mem)
  | dropRoot _ found =>
    rcases held.of_update with ⟨n, same, still⟩ | ⟨k, n, differs, there, still⟩
    · cases same
    · exact differs (wf.disjoint there found still mem)
  | child _ found here =>
    obtain rfl := mem_singleton.mp mem
    rcases held.of_update with ⟨n, same, still⟩ | ⟨k, n, differs, there, still⟩
    · cases same
      rw [Node.evict_frames] at still
      exact (wf.node found).frames_nodup.not_mem_erase still
    · exact differs (wf.disjoint there found still here)

theorem Removal.kept {k : SessionID} (held : s.graph.At k f) : g.At k f ∨ f ∈ frames := by
  cases removal with
  | @stop _ _ sid _ _ there | @endRoot _ _ sid _ _ there _ | @dropRoot _ _ sid _ _ there _ =>
    obtain ⟨n, found, mem⟩ := held
    by_cases same : k = sid
    · subst same
      cases found.symm.trans there
      exact .inr mem
    · exact .inl ⟨n, by rw [Function.update_of_ne same, found], mem⟩
  | @child fid _ _ sid m _ there here _ =>
    by_cases removed : f = fid
    · exact .inr (mem_singleton.mpr removed)
    refine .inl (held.update ?_)
    intro old stored old_mem
    cases there.symm.trans stored
    rw [Node.evict_frames]
    exact (mem_erase_of_ne removed).mpr old_mem

theorem Removal.nodup (wf : s.graph.WF) : frames.Nodup := by
  cases removal with
  | stop _ found | endRoot _ found _ | dropRoot _ found _ => exact (wf.node found).frames_nodup
  | child => exact nodup_singleton _

theorem Removal.kill_eq : kill = ev.kills := by
  have evicted : ∀ {fid disposition}, ev.evicts = some (fid, kill, disposition) → kill = ev.kills := by
    intro fid disposition evicts
    unfold Event.evicts at evicts
    split at evicts
    · cases evicts
      rfl
    · split at evicts <;> cases evicts
      rename_i intentional
      exact intentional.symm
    · cases evicts
      rfl
    · cases evicts
  cases removal with
  | stop asked =>
    subst asked
    rfl
  | endRoot evicts _ _ | dropRoot evicts _ _ | child evicts _ _ _ => exact evicted evicts

end

end Removals

/-! ## The step that removes a frame -/

/-- What the step that removes frames emits: their teardown between effects that take nothing
apart, and a refresh of the stored and shown sessions. -/
structure TornDown (s : State D) (ev : Event D) (g : Graph) (effs : List (Effect D)) : Prop where
  split : ∃ frames kill before after, Removal s ev frames kill g ∧ effs = before ++ teardownOf frames kill ++ after ∧
    (∀ e ∈ before, e.dismantles = none) ∧ ∀ e ∈ after, e.dismantles = none
  persists : .persistSnapshot ∈ effs
  broadcasts : .broadcastSessionsChanged ∈ effs

theorem evictRootFrame_split (sid : SessionID) (sess : Session D) (kill : Bool)
    (disposition : RootDisposition) (reply : List (Effect D)) :
    (evictRootFrame d s sid sess kill disposition).2 ++ reply =
      ((cancelApprovalsForSession d (disposition.dispose s sid sess) sid).2 ++ (cancelQuestionsForSession d
          (cancelApprovalsForSession d (disposition.dispose s sid sess) sid).1 sid).2) ++
        teardownOf sess.node.frames kill ++ ([.persistSnapshot, .broadcastSessionsChanged] ++ reply) := by
  simp only [evictRootFrame, teardownAll_eq, append_assoc]
  rfl

theorem storeChild_split (sid : SessionID) (rest : Session D) (fid : FrameID) (kill : Bool)
    (reply : List (Effect D)) : (storeChild d s sid rest fid fid kill).2 ++ reply =
      (cancelApprovalsForFrame d { s with sessions := s.sessions.set sid rest } fid).2 ++ teardownOf [fid] kill ++
        ((cancelQuestionsForFrame d
          (cancelApprovalsForFrame d { s with sessions := s.sessions.set sid rest } fid).1 fid).2 ++
          [.persistSnapshot, .broadcastSessionsChanged] ++ reply) := by simp [append_assoc]

theorem Removes.tornDown (removes : Removes d s ev s' effs) : TornDown s ev s'.graph effs := by
  have untouched : ∀ {l : List (Effect D)}, (∀ e ∈ l, e.settles = true) → ∀ e ∈ l, e.dismantles = none :=
    fun settle e mem => settles_dismantles (settle e mem)
  have refresh : ∀ e ∈ ([.persistSnapshot, .broadcastSessionsChanged] : List (Effect D)), e.dismantles = none :=
    forall_mem_cons.mpr ⟨rfl, forall_mem_singleton.mpr rfl⟩
  cases removes with
  | stop asked found =>
    refine ⟨⟨_, _, _, _, stop_removal asked found, by rw [teardownAll_eq]; rfl, ?_, ?_⟩, ?_, ?_⟩
    · exact forall_mem_singleton.mpr rfl
    · exact forall_mem_cons.mpr ⟨rfl, forall_mem_singleton.mpr rfl⟩
    · simp
    · simp
  | root evicts found =>
    refine ⟨⟨_, _, _, _, evictRoot_removal evicts found, evictRootFrame_split .., ?_, ?_⟩, ?_, ?_⟩
    · refine forall_mem_append.mpr ⟨?_, ?_⟩
      · exact untouched (cancelForSession_settles _ _ _).1
      · exact untouched (cancelForSession_settles _ _ _).2
    · refine forall_mem_append.mpr ⟨refresh, ?_⟩
      exact failureReply_dismantles
    · simp
    · simp
  | child evicts found child left =>
    refine ⟨⟨_, _, _, _, evictChild_removal evicts found child left, storeChild_split .., ?_, ?_⟩, ?_, ?_⟩
    · exact untouched (cancelForFrame_settles _ _ _).1
    · refine forall_mem_append.mpr ⟨forall_mem_append.mpr ⟨?_, refresh⟩, ?_⟩
      · exact untouched (cancelForFrame_settles _ _ _).2
      · exact failureReply_dismantles
    · simp
    · simp

variable {f : FrameID}

theorem Action.tornDown (fresh : d.Fresh s) (action : Action env d s ev s' effs)
    (held : s.graph.Holds f) (gone : ¬ s'.graph.Holds f) : TornDown s ev s'.graph effs := by
  obtain ⟨sid, here⟩ := held
  rcases action.keeps fresh here with still | removes
  · exact absurd ⟨sid, still⟩ gone
  · exact removes.tornDown

variable {g : Graph}

theorem TornDown.teardowns_eq (torn : TornDown s ev g effs) (wf : s.graph.WF)
    (held : s.graph.Holds f) (gone : ¬ g.Holds f) (kind : TeardownKind) :
    teardowns kind f effs = if kind = .kill ∧ ev.kills = false then 0 else 1 := by
  obtain ⟨frames, kill, before, after, removal, rfl, quietBefore, quietAfter⟩ := torn.split
  obtain ⟨sid, here⟩ := held
  have removed : f ∈ frames := (removal.kept here).resolve_left fun still => gone ⟨sid, still⟩
  have once := count_eq_one_of_mem (removal.nodup wf) removed
  rw [teardowns_append, teardowns_append, teardowns_eq_zero quietBefore,
    teardowns_eq_zero quietAfter, teardowns_teardownOf, once, ← removal.kill_eq]
  omega

theorem Origin.dismantles (calm : env.TeardownFree) (origin : Origin env d s ev g e)
    (taken : e.dismantles = some (kind, f)) :
    kind = .release ∨ ∃ frames kill, Removal s ev frames kill g ∧ f ∈ frames := by
  cases origin with
  | ordinary ordinary =>
    rw [ordinary.dismantles calm] at taken
    cases taken
  | request settles =>
    rw [settles_dismantles settles] at taken
    cases taken
  | spawnNew _ | spawnAsked _ _ _ | spawnDriver _ _ _ | registered _ | shutdown _ => cases taken
  | crashed =>
    cases taken
    exact .inl rfl
  | @teardown _ frames kill removal torn =>
    refine .inr ⟨frames, kill, removal, ?_⟩
    have counted : 0 < teardowns kind f (teardownOf frames kill : List (Effect D)) :=
      countP_pos_iff.mpr ⟨e, torn, by simp [taken]⟩
    rw [teardowns_teardownOf] at counted
    split at counted
    · omega
    · exact count_pos_iff.mp counted

theorem Admitted.dismantles (admitted : Admitted s ev s' effs) (mem : e ∈ effs) : e.dismantles = none := by
  rcases admitted.origin mem with traffic | reply | closing
  · cases e <;> first | rfl | cases traffic
  · cases e <;> first | rfl | cases reply
  · cases e <;> first | rfl | cases closing

/-- A frame that leaves the session graph is released, unregistered and unwatched exactly once, and
killed exactly for a stop and an intentional exit, by a step that also stores and shows the
sessions; a frame that stays is neither killed nor unregistered. -/
theorem frame_teardown_complete (calm : env.TeardownFree) (reachable : Reachable env s)
    (step : Step env s (ev, effs) s') : (∀ fid, s.HasFrame fid → ¬ s'.HasFrame fid →
      teardowns .release fid effs = 1 ∧ teardowns .unregister fid effs = 1 ∧
      teardowns .unwatch fid effs = 1 ∧ (.killFrame fid ∈ effs ↔ ev.kills = true) ∧
      .persistSnapshot ∈ effs ∧ .broadcastSessionsChanged ∈ effs) ∧
    ∀ fid, s'.HasFrame fid → .killFrame fid ∉ effs ∧ .unregisterFrame fid ∉ effs := by
  obtain ⟨cfg, labels, run⟩ := reachable
  have wf := HostRun.graph_wf run
  rcases Step.cases step with ⟨_, d, fresh, action⟩ | ⟨_, admitted⟩
  · constructor
    · intro fid before after
      have held := hasFrame_iff.mp before
      have gone : ¬ s'.graph.Holds fid := fun still => after (hasFrame_iff.mpr still)
      have torn := action.tornDown fresh held gone
      have counts := torn.teardowns_eq wf held gone
      refine ⟨counts .release, counts .unregister, counts .unwatch, ?_, torn.persists, torn.broadcasts⟩
      rw [← teardowns_kill_pos, counts .kill]
      cases ev.kills with
      | false | true => simp
    · intro fid still
      have held := hasFrame_iff.mp still
      have stays : ∀ {kind}, kind ≠ .release → ∀ e ∈ effs, e.dismantles ≠ some (kind, fid) := by
        intro kind differs e mem taken
        rcases (action.origin mem).dismantles calm taken with same | ⟨_, _, removal, removed⟩
        · exact differs same
        · exact removal.gone wf removed held
      exact ⟨fun mem => stays (by decide) _ mem rfl, fun mem => stays (by decide) _ mem rfl⟩
  constructor
  · intro fid before after
    rw [hasFrame_iff, admitted.graph, ← hasFrame_iff] at after
    exact absurd before after
  · intro fid _
    constructor
    all_goals
      intro mem
      cases admitted.dismantles mem

theorem frame_teardown_complete_for_stopped_session : ∃ (s' : State Unit) (effs : List (Effect Unit)),
      Step Env.inert State.oneSession (.event 1 "r" (.stopSession (.ok "a")), effs) s' ∧
      State.oneSession.HasFrame "aa" ∧ ¬ s'.HasFrame "aa" ∧
      teardowns .release "aa" effs = 1 ∧ teardowns .unregister "aa" effs = 1 ∧ teardowns .unwatch "aa" effs = 1 ∧
      (.killFrame "aa" ∈ effs ↔ (Event.event 1 "r" (.stopSession (.ok "a")) : Event Unit).kills = true) ∧
      .persistSnapshot ∈ effs ∧ .broadcastSessionsChanged ∈ effs := by
  have step : Step Env.inert State.oneSession (.event 1 "r" (.stopSession (.ok "a")), _) _ :=
    ⟨Draw.tagged 'b', Draw.tagged_fresh rfl, rfl⟩
  have held : State.oneSession.HasFrame "aa" := ⟨"a", _, rfl, mem_singleton.mpr rfl⟩
  have complete := (frame_teardown_complete Env.inert_teardownFree oneSession_reachable step).1 "aa" held
  have left : ∀ {s' : State Unit}, findFrame (Draw.tagged 'c') s' "aa" = none →
      ¬ s'.HasFrame "aa" := findFrame_eq_none.mp
  exact ⟨_, _, step, held, left rfl, complete (left rfl)⟩

end AgentGrid.Host
