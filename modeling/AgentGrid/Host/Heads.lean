import AgentGrid.Host.SessionGraph
import AgentGrid.Host.Surfaces

/-!
# The frame that receives input

Terminal input and output of a session go to its head frame.  A session record without
frames still resolves to a frame when it carries a command and a driver state: the
resolver builds one from the record.  Only ended sessions have such records.
-/

namespace AgentGrid.Host

open AgentGrid.Lib List Option

variable {D : Type} {env : Env D} {d : Draw} {s s' : State D} {ev : Event D}
  {effs : List (Effect D)}

/-! ## The resolvers -/

/-- `sessionHeadFrame`, the runtime's copy of the resolver. -/
def sessionHeadFrame (sess : Session D) : Option (SessionFrame D) :=
  if sess.frames.isEmpty then
    if sess.command = "" || sess.driver.isNone then none
    else some
      { id := sess.id, project := sess.project, command := sess.command
        launchOptions := sess.launchOptions, createdAt := sess.createdAt, driver := sess.driver }
  else
    (if sess.headFrameID = "" then none
      else sess.frames.find? fun f => f.id = sess.headFrameID).or sess.frames.getLast?

/-- `sessionHeadFrameTarget`: where the runtime sends the session's input; empty is nowhere. -/
def sessionHeadFrameTarget (s : State D) (sid : SessionID) : FrameID :=
  match s.sessions.get? sid with
  | none => ""
  | some sess => ((sessionHeadFrame sess).map SessionFrame.id).getD ""

theorem sessionHeadFrame_eq (sess : Session D) : sessionHeadFrame sess = headFrame sess := by
  unfold sessionHeadFrame headFrame
  cases frames : sess.frames with
  | nil => simp [rootFrame, frames]
  | cons first rest =>
    rw [isEmpty_cons, if_neg Bool.false_ne_true, getLast?_eq_some_getLast (cons_ne_nil _ _)]
    generalize (if sess.headFrameID = "" then none
      else (first :: rest).find? fun f => f.id = sess.headFrameID) = chosen
    cases chosen <;> rfl

/-- The record has a frame, or nothing from which the resolver would build one. -/
def Session.Headed (sess : Session D) : Prop :=
  sess.frames ≠ [] ∨ sess.command = "" ∨ sess.driver = none

variable {sess : Session D}

theorem headFrame_mem (live : sess.frames ≠ []) : ∃ f ∈ sess.frames, headFrame sess = some f := by
  unfold headFrame
  cases frames : sess.frames with
  | nil => exact absurd frames live
  | cons =>
    dsimp only
    split
    · rename_i f chosen
      split at chosen
      · cases chosen
      · exact ⟨f, mem_of_find?_eq_some chosen, rfl⟩
    · exact ⟨_, getLast_mem _, rfl⟩

theorem headFrame_frameless (frameless : sess.frames = []) : (headFrame sess).isSome = true ↔ ¬ sess.Headed := by
  unfold headFrame rootFrame Session.Headed
  simp only [frameless, ne_eq, not_true_eq_false, false_or, not_or]
  split
  · rename_i unknown
    rw [Bool.or_eq_true, decide_eq_true_iff, isNone_iff_eq_none] at unknown
    refine ⟨nofun, fun known => ?_⟩
    exact (unknown.elim known.1 known.2).elim
  rename_i known
  rw [Bool.or_eq_true, decide_eq_true_iff, isNone_iff_eq_none, not_or] at known
  exact ⟨fun _ => known, fun _ => rfl⟩

theorem headFrame_live_iff (sess : Session D) : (∀ f, headFrame sess = some f → f ∈ sess.frames) ↔ sess.Headed := by
  by_cases frameless : sess.frames = []
  · have resolves := headFrame_frameless frameless
    constructor
    · intro live
      by_contra unheaded
      obtain ⟨f, found⟩ := isSome_iff_exists.mp (resolves.mpr unheaded)
      have held := live f found
      rw [frameless] at held
      cases held
    · intro headed f found
      refine absurd headed (resolves.mp ?_)
      rw [found]
      rfl
  obtain ⟨f, held, found⟩ := headFrame_mem frameless
  refine ⟨fun _ => .inl frameless, fun _ f' found' => ?_⟩
  cases found.symm.trans found'
  exact held

/-! ## Sessions without frames -/

/-- A session that has a driver state but no frames has ended. -/
def Node.Accounted (n : Node) : Prop :=
  n.frames = [] → n.hasDriver = true → n.endedAt.isSome = true

def Graph.Accounted (g : Graph) : Prop := ∀ sid n, g sid = some n → n.Accounted

variable {g : Graph}

theorem Graph.Accounted.update (accounted : g.Accounted) (sid : SessionID) {entry : Option Node}
    (new : ∀ n, entry = some n → n.Accounted) : Graph.Accounted (Function.update g sid entry) := by
  intro sid' n found
  rw [Function.update_apply] at found
  split at found
  · exact new n found
  · exact accounted sid' n found

variable {n : Node}

theorem Graph.Accounted.put (accounted : g.Accounted) (sid : SessionID) (new : n.Accounted) :
    Graph.Accounted (Function.update g sid (some n)) :=
  accounted.update sid fun _ same => some.inj same ▸ new

theorem Node.Accounted.of_frames (live : n.frames ≠ []) : n.Accounted :=
  fun frameless => absurd frameless live

theorem Pushed.accounted {k : Nat} {g' : Graph} {raws pushed : List (Effect D)}
    (resolved : Pushed d k g raws g' pushed) (accounted : g.Accounted) : g'.Accounted := by
  induction resolved with
  | nil => exact accounted
  | pass _ ih | skip _ ih => exact ih accounted
  | push _ _ ih => exact ih (accounted.put _ (.of_frames (by simp)))

theorem Removal.accounted {frames : List FrameID} {kill : Bool}
    (removal : Removal s ev frames kill g) (accounted : s.graph.Accounted) : g.Accounted := by
  cases removal with
  | stop | endRoot => exact accounted.put _ fun _ _ => rfl
  | dropRoot =>
    refine accounted.update _ ?_
    rintro n ⟨⟩
  | @child fid _ _ _ n _ _ held notRoot =>
    refine accounted.put _ (.of_frames ?_)
    rw [Node.evict_frames]
    cases shape : n.frames with
    | nil =>
      rw [shape] at held
      cases held
    | cons root =>
      rw [shape] at notRoot
      have other : root ≠ fid := fun same => notRoot (by rw [same]; rfl)
      rw [erase_cons_tail (by simpa using other)]
      exact cons_ne_nil _ _

theorem Rewrite.accounted (rewrite : Rewrite env d s ev g) (accounted : s.graph.Accounted) : g.Accounted := by
  cases rewrite with
  | same => exact accounted
  | create => exact accounted.put _ (.of_frames (cons_ne_nil _ _))
  | push => exact accounted.put _ (.of_frames (by simp))
  | driven driven => exact driven.pushed.accounted accounted
  | select found held => exact accounted.put _ (.of_frames (ne_nil_of_mem held))
  | publish => exact accounted.put _ fun _ driven => by cases driven
  | remove removal => exact removal.accounted accounted

theorem HostRun.accounted {cfg : Config} {labels : List (Event D × List (Effect D))}
    (run : HostRun env cfg labels s) : s.graph.Accounted := by
  refine run.invariant (fun s => s.graph.Accounted) ?_ ?_
  · rintro sid n ⟨⟩
  · intro s label s' accounted step
    rcases Step.cases step with ⟨_, d, _, action⟩ | ⟨_, admitted⟩
    · exact action.rewrite.accounted accounted
    · rwa [admitted.graph]

/-! ## Routing -/

def EvSurfaceSubscribe.wellSized (e : EvSurfaceSubscribe) : Bool :=
  decide (e.cols ≠ 0 ∧ e.rows ≠ 0) && (validateSizeHint e.cols.toNat e.rows.toNat).isNone

/-- The answer to a viewer whose session has no frame to show. -/
def frameNotReady (e : EvSurfaceSubscribe) : Effect D :=
  errResp e.connID e.reqID errCodeFrameNotReady ("frame-not-ready: " ++ e.sessionID)

theorem Surfacing.started_ready (surfacing : Surfacing d s ev s' effs) {connID : ConnID}
    {sid : SessionID} {sub : SubscriberID} {cols rows : UInt16}
    (started : .surfaceSubscribeStart connID sid sub cols rows ∈ effs) :
    ∃ sess, s.sessions.get? sid = some sess ∧ (headFrame sess).isSome = true := by
  cases surfacing with
  | untouched untouched => cases untouched.2 _ started
  | added _ _ _ found ready =>
    simp only [okResp, mem_cons, not_mem_nil, or_false, Effect.surfaceSubscribeStart.injEq, reduceCtorEq] at started
    obtain ⟨_, rfl, _⟩ := started
    exact ⟨_, found, ready⟩
  | removed _ _ silent =>
    rcases mem_cons.mp started with first | last
    · cases first
    · rw [← mem_singleton.mp last] at silent
      cases silent
  | closed =>
    obtain ⟨_, _, stopped⟩ := List.mem_map.mp started
    cases stopped

theorem reduceSurfaceSubscribe_not_ready {e : EvSurfaceSubscribe} (sized : e.wellSized = true)
    (found : s.sessions.get? e.sessionID = some sess) :
    (reduceSurfaceSubscribe s e).2 = [frameNotReady e] ↔ (headFrame sess).isNone = true := by
  unfold EvSurfaceSubscribe.wellSized at sized
  rw [Bool.and_eq_true, decide_eq_true_iff, isNone_iff_eq_none] at sized
  rw [reduceSurfaceSubscribe, if_neg (not_or.mpr sized.1), sized.2, found]
  dsimp only
  split
  · rename_i unready
    exact ⟨fun _ => unready, fun _ => rfl⟩
  rename_i ready
  refine ⟨fun told => ?_, fun unready => absurd unready ready⟩
  split at told
  · cases told
  split at told
  · simp [frameNotReady, errResp, errCodeFrameNotReady, errCodeResourceExhausted] at told
  · cases told

/-- Terminal input and output are routed to frames of the session as long as its record has a
frame or nothing to build one from; the other records are those of ended sessions. -/
theorem head_frames_live_iff (silent : ∀ e, env.Emits e → e.relays = false) {sid : SessionID}
    {sess : Session D} (found : s.sessions.get? sid = some sess) :
    ((∀ f, headFrame sess = some f → f ∈ sess.frames) ↔ sess.Headed) ∧
      ((∀ f, sessionHeadFrame sess = some f → f ∈ sess.frames) ↔ sess.Headed) ∧
      (∀ ev effs s' connID sub cols rows, Step env s (ev, effs) s' →
        .surfaceSubscribeStart connID sid sub cols rows ∈ effs → (sess.frames ≠ [] ↔ sess.Headed)) ∧
      (∀ e effs s', Step env s (.surfaceSubscribe e, effs) s' → s.lifecycle = .running →
        e.sessionID = sid → e.wellSized = true → sess.frames = [] → (effs = [frameNotReady e] ↔ sess.Headed)) ∧
      ∀ cfg labels, HostRun env cfg labels s → ¬ sess.Headed → sess.endedAt.isSome = true := by
  refine ⟨headFrame_live_iff sess, ?_, ?_, ?_, ?_⟩
  · simp only [sessionHeadFrame_eq]
    exact headFrame_live_iff sess
  · intro ev effs s' connID sub cols rows step started
    obtain ⟨_, surfacing⟩ := step.surfacing silent
    obtain ⟨sess', found', ready⟩ := surfacing.started_ready started
    cases found.symm.trans found'
    refine ⟨.inl, fun headed frameless => ?_⟩
    exact (headFrame_frameless frameless).mp ready headed
  · intro e effs s' step running asked sized frameless
    subst asked
    obtain ⟨d, _, reduced⟩ := step
    unfold reduce at reduced
    rw [running] at reduced
    have replied : effs = (reduceSurfaceSubscribe s e).2 := (congrArg Prod.snd (Except.ok.inj reduced)).symm
    rw [replied, reduceSurfaceSubscribe_not_ready sized found]
    rw [← not_iff_not, ← headFrame_frameless frameless, isNone_iff_eq_none, isSome_iff_ne_none]
  · intro cfg labels run unheaded
    refine run.accounted sid sess.node (State.graph_of_get? found) ?_ ?_
    · have frameless : sess.frames = [] := by
        by_contra live
        exact unheaded (.inl live)
      rw [Session.node, frameless]
      rfl
    · exact isSome_iff_ne_none.mpr fun none => unheaded (.inr (.inr none))

/-- A viewer of a running session is sent to the session's frame. -/
theorem running_session_routed_to_frame : ∃ (sess : Session Unit) (f : SessionFrame Unit),
      State.oneSession.sessions.get? "a" = some sess ∧ headFrame sess = some f ∧ f ∈ sess.frames := by
  obtain ⟨sess, found⟩ : ∃ sess, State.oneSession.sessions.get? "a" = some sess := ⟨_, rfl⟩
  have routed := head_frames_live_iff (fun e emitted => absurd emitted Env.inert_emits) found
  cases found
  exact ⟨_, _, rfl, rfl, routed.1.mpr (.inl (cons_ne_nil _ _)) _ rfl⟩

/-- A session whose only frame vanished still resolves to a frame it does not have, under the
session's own id, and a relay is started for it. -/
theorem ended_session_routed_to_no_frame : ∃ (s s' : State Unit) (sess : Session Unit) (f : SessionFrame Unit)
      (effs : List (Effect Unit)), Reachable Env.inert s ∧ s.sessions.get? "a" = some sess ∧ sess.frames = [] ∧
        headFrame sess = some f ∧ sessionHeadFrameTarget s "a" = "a" ∧
        Step Env.inert s (.surfaceSubscribe ⟨1, "r", "a", "v", 80, 24⟩, effs) s' ∧
        .surfaceSubscribeStart 1 "a" "v" 80 24 ∈ effs :=
  ⟨_, _, _, _, _, replay_reachable Env.inert {} [('a', .creates), ('b', .frameVanished "aa")] rfl,
    rfl, rfl, rfl, rfl, ⟨Draw.tagged 'c', Draw.tagged_fresh rfl, rfl⟩, mem_cons_self⟩

end AgentGrid.Host
