import AgentGrid.Host.Books
import AgentGrid.Lib.Switch

/-!
# Surface subscriptions

The table of surface subscriptions and the relay commands that start and stop the
relays behind them tell one story: each key of the table is a switch, and the
commands are the signals of its flips.  The table holds no connection without
subscriptions and none with more than eight.
-/

namespace AgentGrid.Host

open AgentGrid.Lib List Option GoMap Effect

variable {D : Type} {env : Env D} {d : Draw} {s s' : State D} {ev : Event D}
  {effs : List (Effect D)}

/-! ## Vocabulary -/

structure RelayKey where
  connID : ConnID
  sessionID : SessionID
  subscriberID : SubscriberID
  deriving DecidableEq

/-- What an effect signals about a relay: `true` starts it, `false` stops it. -/
def Effect.signal (k : RelayKey) : Effect D → Option Bool
  | .surfaceSubscribeStart connID sid sub _ _ => if ⟨connID, sid, sub⟩ = k then some true else none
  | .surfaceSubscribeStop connID sid sub => if ⟨connID, sid, sub⟩ = k then some false else none
  | _ => none

/-- The signals about a relay in a list of effects, in order. -/
def relaySignals (k : RelayKey) (effs : List (Effect D)) : List Bool :=
  effs.filterMap (Effect.signal k)

def State.surfacesOf (s : State D) (connID : ConnID) : GoMap SurfaceSubscription SurfaceGeometry :=
  (s.surfaceSubs.get? connID).getD ∅

def State.subscribed (s : State D) (k : RelayKey) : Bool :=
  ((s.surfacesOf k.connID).get? ⟨k.sessionID, k.subscriberID⟩).isSome

/-- Every connection in the table has at least one subscription and at most eight. -/
def State.SurfacesBounded (s : State D) : Prop :=
  ∀ connID subs, s.surfaceSubs.get? connID = some subs → subs.entries ≠ [] ∧ subs.entries.length ≤ 8

def EvSurfaceSubscribe.key (e : EvSurfaceSubscribe) : RelayKey :=
  ⟨e.connID, e.sessionID, e.subscriberID⟩

def EvSurfaceUnsubscribe.key (e : EvSurfaceUnsubscribe) : RelayKey :=
  ⟨e.connID, e.sessionID, e.subscriberID⟩

/-- The table is as it was and no relay is signalled. -/
def Untouched (s : State D) (effs : List (Effect D)) (s' : State D) : Prop :=
  s'.surfaceSubs = s.surfaceSubs ∧ ∀ e ∈ effs, e.relays = false

theorem Effect.signal_of_silent {e : Effect D} (silent : e.relays = false) (k : RelayKey) : e.signal k = none := by
  cases e <;> first | rfl | cases silent

/-! ## The three reducers of the table -/

def State.withSurface (s : State D) (k : RelayKey) (geometry : SurfaceGeometry) : State D :=
  { s with
    surfaceSubs := s.surfaceSubs.set k.connID ((s.surfacesOf k.connID).set ⟨k.sessionID, k.subscriberID⟩ geometry) }

/-- The table without a key; a connection that loses its last subscription goes with it. -/
def State.withoutSurface (s : State D) (k : RelayKey) : State D :=
  let left := (s.surfacesOf k.connID).delete ⟨k.sessionID, k.subscriberID⟩
  { s with
    surfaceSubs := if left.entries.isEmpty then s.surfaceSubs.delete k.connID
      else s.surfaceSubs.set k.connID left }

/-- What a step does to the table: nothing, add a key that was absent and had room, remove a key
that was present, or drop a connection.  A key is added for a session with a head frame only. -/
inductive Surfacing (d : Draw) (s : State D) (ev : Event D) :
    State D → List (Effect D) → Prop where
  | untouched {s' : State D} {effs : List (Effect D)} (untouched : Untouched s effs s') : Surfacing d s ev s' effs
  | added {e : EvSurfaceSubscribe} (asked : ev = .surfaceSubscribe e)
      (absent : s.subscribed e.key = false) (room : (s.surfacesOf e.connID).entries.length < 8)
      {sess : Session D} (found : s.sessions.get? e.sessionID = some sess)
      (ready : (headFrame sess).isSome = true) : Surfacing d s ev (s.withSurface e.key ⟨e.cols, e.rows⟩)
        [.surfaceSubscribeStart e.connID e.sessionID e.subscriberID e.cols e.rows, okResp e.connID e.reqID .empty]
  | removed {e : EvSurfaceUnsubscribe} {reply : Effect D} (asked : ev = .surfaceUnsubscribe e)
      (present : s.subscribed e.key = true) (silent : reply.relays = false) :
      Surfacing d s ev (s.withoutSurface e.key) [.surfaceSubscribeStop e.connID e.sessionID e.subscriberID, reply]
  | closed {connID : ConnID} (asked : ev = .connClosed connID) :
      Surfacing d s ev (reduceConnClosed d s connID).1 (reduceConnClosed d s connID).2

theorem reduceSurfaceSubscribe_surfacing {e : EvSurfaceSubscribe} (asked : ev = .surfaceSubscribe e) :
    Surfacing d s ev (reduceSurfaceSubscribe s e).1 (reduceSurfaceSubscribe s e).2 := by
  fun_cases reduceSurfaceSubscribe s e
  case case7 found ready _ _ absent room =>
    rw [Bool.not_eq_true, isNone_eq_false_iff] at ready
    exact .added asked (Bool.not_eq_true _ ▸ absent) (Nat.lt_of_not_le room) found ready
  all_goals exact .untouched ⟨rfl, by simp [errResp, okResp, surfaceNotFound, Effect.relays]⟩

theorem reduceSurfaceUnsubscribe_surfacing {e : EvSurfaceUnsubscribe} (asked : ev = .surfaceUnsubscribe e) :
    Surfacing d s ev (reduceSurfaceUnsubscribe s e).1 (reduceSurfaceUnsubscribe s e).2 := by
  unfold reduceSurfaceUnsubscribe
  dsimp only
  split
  · exact .untouched ⟨rfl, by simp [okResp, Effect.relays]⟩
  rename_i present
  refine .removed asked ?_ ?_
  · exact isSome_iff_ne_none.mpr fun none => present (isNone_iff_eq_none.mpr none)
  · split <;> rfl

theorem Booked.untouched (silent : ∀ e, env.Emits e → e.relays = false)
    (booked : Booked env s effs s') : Untouched s effs s' := by
  refine ⟨booked.surfaces, ?_⟩
  intro e mem
  cases relays : e.relays with
  | false => rfl
  | true =>
    rw [silent e (booked.relays e mem relays)] at relays
    cases relays

theorem Prepared.untouched {e : EvRepository} (prepared : Prepared d s e (s', effs)) : Untouched s effs s' :=
  ⟨prepared.aside.1, fun x mem => (unbooked_iff.mp (prepared.aside.2.2 x mem)).1⟩

theorem Booking.surfacing (silent : ∀ e, env.Emits e → e.relays = false)
    (booking : Booking env d s ev s' effs) : Surfacing d s ev s' effs := by
  cases booking with
  | routine booked => exact .untouched (booked.untouched silent)
  | subscribe asked => exact reduceSurfaceSubscribe_surfacing asked
  | unsubscribe asked => exact reduceSurfaceUnsubscribe_surfacing asked
  | closed asked => exact .closed asked
  | repository _ prepared => exact .untouched prepared.untouched
  | creation _ _ prepared => exact .untouched prepared.untouched
  | capsuleDone _ _ _ booked =>
    have after := booked.untouched silent
    exact .untouched ⟨after.1, after.2⟩
  | jobDone _ _ _ booked =>
    have after := booked.untouched silent
    exact .untouched ⟨after.1, after.2⟩
  | spawned _ unreported booked =>
    have after := booked.untouched silent
    exact .untouched ⟨after.1.trans unreported.surfaces, after.2⟩

theorem Step.surfacing (silent : ∀ e, env.Emits e → e.relays = false)
    (step : Step env s (ev, effs) s') : ∃ d : Draw, Surfacing d s ev s' effs := by
  obtain ⟨d, _, booking⟩ := step.booking
  exact ⟨d, booking.surfacing silent⟩

/-! ## The table and its switches -/

theorem subscribed_congr (same : s'.surfaceSubs = s.surfaceSubs) (k : RelayKey) :
    s'.subscribed k = s.subscribed k := by
  unfold State.subscribed State.surfacesOf
  rw [same]

theorem subscribed_withSurface (s : State D) (k k' : RelayKey) (geometry : SurfaceGeometry) :
    (s.withSurface k geometry).subscribed k' = (decide (k = k') || s.subscribed k') := by
  obtain ⟨connID, sid, sub⟩ := k
  obtain ⟨connID', sid', sub'⟩ := k'
  unfold State.withSurface State.subscribed State.surfacesOf
  rw [get?_set]
  by_cases here : connID' = connID
  · subst here
    rw [if_pos rfl, getD_some, get?_set]
    by_cases same : (⟨sid', sub'⟩ : SurfaceSubscription) = ⟨sid, sub⟩
    · obtain ⟨rfl, rfl⟩ := SurfaceSubscription.mk.inj same
      simp
    have other : (⟨connID', sid, sub⟩ : RelayKey) ≠ ⟨connID', sid', sub'⟩ := by
      intro both
      obtain ⟨_, rfl, rfl⟩ := RelayKey.mk.inj both
      exact same rfl
    rw [if_neg same, decide_eq_false other, Bool.false_or]
  have other : (⟨connID, sid, sub⟩ : RelayKey) ≠ ⟨connID', sid', sub'⟩ :=
    fun both => here (RelayKey.mk.inj both).1.symm
  rw [if_neg here, decide_eq_false other, Bool.false_or]

theorem get?_withoutSurface (s : State D) (k : RelayKey) (connID : ConnID) (sub : SurfaceSubscription) :
    ((s.withoutSurface k).surfacesOf connID).get? sub =
      if connID = k.connID ∧ sub = ⟨k.sessionID, k.subscriberID⟩ then none else (s.surfacesOf connID).get? sub := by
  have left : ((s.withoutSurface k).surfacesOf connID).get? sub =
      if connID = k.connID then ((s.surfacesOf connID).delete ⟨k.sessionID, k.subscriberID⟩).get? sub
      else (s.surfacesOf connID).get? sub := by
    unfold State.withoutSurface State.surfacesOf
    dsimp only
    split
    · rename_i emptied
      rw [get?_delete]
      split
      · rename_i here
        rw [here]
        exact (get?_of_entries_nil (List.isEmpty_iff.mp emptied) sub).symm
      · rfl
    rw [get?_set]
    split
    · rename_i here
      rw [here]
      rfl
    · rfl
  rw [left, get?_delete]
  by_cases here : connID = k.connID <;> simp [here]

theorem subscribed_withoutSurface (s : State D) (k k' : RelayKey) :
    (s.withoutSurface k).subscribed k' = (!decide (k = k') && s.subscribed k') := by
  rw [State.subscribed, get?_withoutSurface]
  by_cases same : k = k'
  · subst same
    simp
  have other : ¬ (k'.connID = k.connID ∧ (⟨k'.sessionID, k'.subscriberID⟩ : SurfaceSubscription) =
        ⟨k.sessionID, k.subscriberID⟩) := by
    rintro ⟨conn, both⟩
    obtain ⟨sid, sub⟩ := SurfaceSubscription.mk.inj both
    exact same (by cases k; cases k'; simp_all)
  rw [if_neg other, decide_eq_false same]
  rfl

theorem Untouched.flips (untouched : Untouched s effs s') (k : RelayKey) :
    Flips (s.subscribed k) (relaySignals k effs) (s'.subscribed k) := by
  have silent : relaySignals k effs = [] :=
    filterMap_eq_nil_iff.mpr fun e mem => signal_of_silent (untouched.2 e mem) k
  rw [silent, subscribed_congr untouched.1]
  exact .rest _

theorem relaySignals_answered (k : RelayKey) (first : Effect D) {reply : Effect D} (silent : reply.relays = false) :
    relaySignals k [first, reply] = (first.signal k).toList := by
  rw [relaySignals, filterMap_cons]
  cases first.signal k <;> simp [signal_of_silent silent k]

theorem reduceConnClosed_flips (d : Draw) (s : State D) (connID : ConnID) (k : RelayKey) :
    Flips (s.subscribed k) (relaySignals k (reduceConnClosed d s connID).2)
      ((reduceConnClosed d s connID).1.subscribed k) := by
  obtain ⟨connID', sid, sub⟩ := k
  have signals : relaySignals ⟨connID', sid, sub⟩ (reduceConnClosed d s connID).2 =
      if connID = connID' then ((s.surfacesOf connID).get? ⟨sid, sub⟩).toList.map fun _ => false
      else [] := by
    rw [relaySignals, reduceConnClosed, filterMap_map]
    by_cases here : connID = connID'
    · subst here
      rw [if_pos rfl, ← range_filterMap_key d.toRangeOrder]
      refine filterMap_congr fun entry _ => ?_
      obtain ⟨⟨sid', sub'⟩, _⟩ := entry
      simp [Effect.signal]
    rw [if_neg here, filterMap_eq_nil_iff]
    intro entry _
    exact if_neg fun both => here (RelayKey.mk.inj both).1
  have gone : (reduceConnClosed d s connID).1.surfacesOf connID' =
      if connID' = connID then ∅ else s.surfacesOf connID' := by
    rw [reduceConnClosed, State.surfacesOf, get?_delete]
    split <;> rfl
  rw [signals]
  unfold State.subscribed
  rw [gone]
  by_cases here : connID = connID'
  · subst here
    rw [if_pos rfl, if_pos rfl]
    cases (s.surfacesOf connID).get? ⟨sid, sub⟩ with
    | none => exact .rest false
    | some => exact .flip false
  · rw [if_neg here, if_neg (Ne.symm here)]
    exact .rest _

/-! ## Steps and runs -/

theorem Surfacing.flips (surfacing : Surfacing d s ev s' effs) (k : RelayKey) :
    Flips (s.subscribed k) (relaySignals k effs) (s'.subscribed k) := by
  cases surfacing with
  | untouched untouched => exact untouched.flips k
  | @added e _ absent =>
    have started : (.surfaceSubscribeStart e.connID e.sessionID e.subscriberID e.cols e.rows :
        Effect D).signal k = if e.key = k then some true else none := rfl
    rw [relaySignals_answered k _ rfl, started, subscribed_withSurface]
    by_cases same : e.key = k
    · subst same
      rw [if_pos rfl, absent, decide_eq_true rfl]
      exact .flip true
    · rw [if_neg same, decide_eq_false same, Bool.false_or]
      exact .rest _
  | @removed e _ _ present silent =>
    have stopped : (.surfaceSubscribeStop e.connID e.sessionID e.subscriberID :
        Effect D).signal k = if e.key = k then some false else none := rfl
    rw [relaySignals_answered k _ silent, stopped, subscribed_withoutSurface]
    by_cases same : e.key = k
    · subst same
      rw [if_pos rfl, present, decide_eq_true rfl]
      exact .flip false
    · rw [if_neg same, decide_eq_false same]
      exact .rest _
  | closed => exact reduceConnClosed_flips d s _ k

theorem State.SurfacesBounded.withSurface (bounded : s.SurfacesBounded) {k : RelayKey}
    (absent : s.subscribed k = false) (room : (s.surfacesOf k.connID).entries.length < 8)
    (geometry : SurfaceGeometry) : (s.withSurface k geometry).SurfacesBounded := by
  intro connID subs held
  unfold State.withSurface at held
  rw [get?_set] at held
  split at held
  · cases held
    have grown := length_set_of_absent (isSome_eq_false_iff.mp absent |> isNone_iff_eq_none.mp) geometry
    refine ⟨ne_nil_of_length_pos ?_, ?_⟩
    · rw [grown]
      exact Nat.succ_pos _
    · rwa [grown]
  · exact bounded connID subs held

theorem State.SurfacesBounded.withoutSurface (bounded : s.SurfacesBounded) (k : RelayKey) :
    (s.withoutSurface k).SurfacesBounded := by
  intro connID subs held
  unfold State.withoutSurface at held
  dsimp only at held
  split at held
  · exact bounded connID subs (get?_of_delete held).2
  rename_i remains
  rcases get?_of_set held with ⟨-, rfl⟩ | before
  · refine ⟨fun empty => remains (List.isEmpty_iff.mpr empty), ?_⟩
    refine Nat.le_trans (length_delete_le _ _) ?_
    unfold State.surfacesOf
    cases known : s.surfaceSubs.get? k.connID with
    | none => exact Nat.zero_le 8
    | some subs => exact (bounded _ subs known).2
  · exact bounded connID subs before

theorem Surfacing.bounded (surfacing : Surfacing d s ev s' effs) (bounded : s.SurfacesBounded) :
    s'.SurfacesBounded := by
  cases surfacing with
  | untouched untouched =>
    intro connID subs held
    rw [untouched.1] at held
    exact bounded connID subs held
  | added _ absent room => exact bounded.withSurface absent room _
  | removed => exact bounded.withoutSurface _
  | closed =>
    intro connID subs held
    exact bounded connID subs (get?_of_delete held).2

/-- The requests about surfaces that change nothing. -/
inductive Idle (s : State D) (effs : List (Effect D)) : Event D → Prop where
  | resubscribe {e : EvSurfaceSubscribe} (held : s.subscribed e.key = true) : Idle s effs (.surfaceSubscribe e)
  | rejected {e : EvSurfaceSubscribe} {connID : ConnID} {reqID code message : String}
      {details : List (String × String)}
      (refused : .sendError connID reqID code message details ∈ effs) : Idle s effs (.surfaceSubscribe e)
  | absent {e : EvSurfaceUnsubscribe} (free : s.subscribed e.key = false) : Idle s effs (.surfaceUnsubscribe e)

theorem Surfacing.idle_untouched (surfacing : Surfacing d s ev s' effs) (idle : Idle s effs ev) :
    Untouched s effs s' := by
  cases surfacing with
  | untouched untouched => exact untouched
  | added asked absent =>
    subst asked
    cases idle with
    | resubscribe held => cases absent.symm.trans held
    | rejected refused => simp [okResp] at refused
  | removed asked present =>
    subst asked
    cases idle with
    | absent free => cases free.symm.trans present
  | closed asked =>
    subst asked
    cases idle

/-- The table of subscriptions agrees with the relay commands: it is bounded, the commands of each
key alternate beginning with a start, the key is in the table exactly when the last of them was a
start, and the requests that change nothing command nothing. -/
theorem surface_subscriptions_agree (silent : ∀ e, env.Emits e → e.relays = false) {cfg : Config}
    {labels : List (Event D × List (Effect D))} (run : HostRun env cfg labels s) :
    s.SurfacesBounded ∧ (∀ k, Alternates (labels.flatMap fun label => relaySignals k label.2) ∧
        (s.subscribed k = true ↔ (labels.flatMap fun label => relaySignals k label.2).getLast? = some true)) ∧
      ∀ ev effs s', Step env s (ev, effs) s' → Idle s effs ev → Untouched s effs s' := by
  refine ⟨?_, ?_, ?_⟩
  · refine run.invariant State.SurfacesBounded ?_ ?_
    · rintro connID subs ⟨⟩
    · intro s label s' bounded step
      obtain ⟨d, surfacing⟩ := Step.surfacing silent step
      exact surfacing.bounded bounded
  · intro k
    have reported := run.reported (fun label k => relaySignals k label.2)
      (fun s k => s.subscribed k) (fun k => rfl) (fun s label s' step k => by
        obtain ⟨d, surfacing⟩ := Step.surfacing silent step
        exact surfacing.flips k) k
    exact ⟨reported.alternates, reported.last⟩
  · intro ev effs s' step idle
    obtain ⟨d, surfacing⟩ := step.surfacing silent
    exact surfacing.idle_untouched idle

/-- A viewer that comes, goes and comes back is in the table after three commands. -/
theorem returning_viewer_subscribed : ∃ (labels : List (Event Unit × List (Effect Unit))) (s : State Unit),
      HostRun Env.inert {} labels s ∧ s.SurfacesBounded ∧ s.subscribed ⟨1, "a", "v"⟩ = true ∧
      (labels.flatMap fun label => relaySignals ⟨1, "a", "v"⟩ label.2) = [true, false, true] := by
  have run := replay_hostRun Env.inert {} [('a', .creates), ('b', .surfaceSubscribe ⟨1, "r", "a", "v", 80, 24⟩),
      ('c', .surfaceUnsubscribe ⟨1, "r", "a", "v"⟩), ('d', .surfaceSubscribe ⟨1, "r", "a", "v", 80, 24⟩)] rfl
  obtain ⟨bounded, agree, _⟩ := surface_subscriptions_agree (fun e emitted => absurd emitted Env.inert_emits) run
  exact ⟨_, _, run, bounded, (agree ⟨1, "a", "v"⟩).2.mpr rfl, rfl⟩

end AgentGrid.Host
