import AgentGrid.Host.Surfaces
import AgentGrid.Lib.Slots

/-!
# Viewers of one session

All viewers share the daemon connection of the gateway.  A terminal WebSocket subscribes to its
session without a name of its own and takes every output of it; a lifecycle WebSocket has a
subscriber id and takes only what is for it.  The daemon's table has one entry for a session and a
name.
-/

namespace AgentGrid.Gateway

open AgentGrid.Lib List Option
open AgentGrid.Host (ConnID SessionID SubscriberID RelayKey reduceSurfaceSubscribe
  reduceSurfaceUnsubscribe)

/-- What a relay sends: the screen after so many chunks, or a chunk. -/
inductive SurfaceData where
  | snapshot (chunks : Nat) | chunk (data : String)
  deriving DecidableEq

/-- `EvtSurfaceOutput`. -/
structure SurfaceOutput where
  sessionID : SessionID
  subscriberID : SubscriberID
  data : SurfaceData
  deriving DecidableEq

/-- A WebSocket that shows a session: with its subscriber id if it is a lifecycle WebSocket. -/
structure Viewer where
  sessionID : SessionID
  lifecycle : Option SubscriberID
  /-- How many chunks the session had when the viewer came. -/
  since : Nat
  got : List SurfaceData := []
  deriving DecidableEq

namespace Viewer

def subscriberID (v : Viewer) : SubscriberID := v.lifecycle.getD ""

def key (v : Viewer) : SessionID × SubscriberID := (v.sessionID, v.subscriberID)

/-- The filter of `writeOutbound`, or of `lifecycleFrames`. -/
def takes (v : Viewer) (e : SurfaceOutput) : Bool :=
  e.sessionID = v.sessionID && match v.lifecycle with
    | none => true
    | some id => e.subscriberID = id

/-- The viewers do not show one session, or are lifecycle WebSockets with different ids. -/
def Apart (v w : Viewer) : Prop :=
  v.sessionID = w.sessionID → v.lifecycle ≠ none ∧ w.lifecycle ≠ none ∧ v.lifecycle ≠ w.lifecycle
  deriving Decidable

/-- The viewer takes from the events of the connection. -/
def send (events : List SurfaceOutput) (v : Viewer) : Viewer :=
  { v with got := v.got ++ (events.filter v.takes).map SurfaceOutput.data }

end Viewer

/-- The daemon, the relays of the gateway's connection, and the viewers that are attached. -/
structure Viewing (D : Type) where
  host : Host.State D
  relays : List (SessionID × SubscriberID) := []
  chunks : List (SessionID × String) := []
  viewers : List Viewer := []

inductive ViewingLabel where
  /-- `AttachWS`, or a subscription of a lifecycle WebSocket. -/
  | attach (lifecycle : Option SubscriberID) (sessionID : SessionID) (reqID : String)
      (cols rows : UInt16)
  | detach (k : Nat) (reqID : String)
  /-- A session puts out a chunk. -/
  | output (sessionID : SessionID) (data : String)
  deriving DecidableEq

def refuses {D : Type} : Host.Effect D → Bool
  | .sendError .. => true
  | _ => false

def chunksOf (chunks : List (SessionID × String)) (sid : SessionID) : List String :=
  (chunks.filter fun c => c.1 = sid).map Prod.snd

/-- What a viewer should have: its own snapshot, and every chunk after it once. -/
def Viewer.due (chunks : List (SessionID × String)) (v : Viewer) : List SurfaceData :=
  .snapshot v.since :: ((chunksOf chunks v.sessionID).drop v.since).map .chunk

namespace Viewing

variable {D : Type} (connID : ConnID)

variable (s : Viewing D)

/-- The relays of the connection start with a snapshot. -/
def apply : Host.Effect D → Viewing D
  | .surfaceSubscribeStart conn sid sub _ _ =>
    if conn = connID then
      { s with
        relays := s.relays ++ [(sid, sub)]
        viewers := s.viewers.map (Viewer.send [⟨sid, sub, .snapshot (chunksOf s.chunks sid).length⟩]) }
    else s
  | .surfaceSubscribeStop conn sid sub =>
    if conn = connID then { s with relays := s.relays.filter (· ≠ (sid, sub)) } else s
  | _ => s

def attach (lifecycle : Option SubscriberID) (sid : SessionID) (reqID : String) (cols rows : UInt16) : Viewing D :=
  let v : Viewer := { sessionID := sid, lifecycle, since := (chunksOf s.chunks sid).length }
  let (host, effs) := reduceSurfaceSubscribe s.host ⟨connID, reqID, sid, v.subscriberID, cols, rows⟩
  if effs.any refuses then { s with host }
  else effs.foldl (apply connID) { s with host, viewers := s.viewers ++ [v] }

def detach (k : Nat) (v : Viewer) (reqID : String) : Viewing D :=
  let (host, effs) := reduceSurfaceUnsubscribe s.host ⟨connID, reqID, v.sessionID, v.subscriberID⟩
  effs.foldl (apply connID) { s with host, viewers := s.viewers.eraseIdx k }

def output (sid : SessionID) (data : String) : Viewing D :=
  let events := (s.relays.filter fun r => r.1 = sid).map fun r => ⟨sid, r.2, .chunk data⟩
  { s with chunks := s.chunks ++ [(sid, data)], viewers := s.viewers.map (Viewer.send events) }

def act : ViewingLabel → Option (Viewing D)
  | .attach lifecycle sid reqID cols rows => some (s.attach connID lifecycle sid reqID cols rows)
  | .detach k reqID => s.viewers[k]?.map fun v => s.detach connID k v reqID
  | .output sid data => some (s.output sid data)

def Step (label : ViewingLabel) (s' : Viewing D) : Prop :=
  s.act connID label = some s'

/-- A viewer comes only to a session that no other viewer shows, lifecycle WebSockets with other ids
beside it if it is one itself. -/
def alone : ViewingLabel → Bool
  | .attach lifecycle sid _ _ _ => decide (∀ v ∈ s.viewers, v.Apart ⟨sid, lifecycle, 0, []⟩)
  | _ => true

/-- Every viewer has a relay and an entry of the daemon's table for itself, and what is due to it. -/
structure Served (s : Viewing D) : Prop where
  apart : s.viewers.Pairwise Viewer.Apart
  relays : s.relays = s.viewers.map Viewer.key
  table : ∀ sid sub, s.host.subscribed ⟨connID, sid, sub⟩ = decide ((sid, sub) ∈ s.relays)
  since : ∀ v ∈ s.viewers, v.since ≤ (chunksOf s.chunks v.sessionID).length
  due : ∀ v ∈ s.viewers, v.got = v.due s.chunks

end Viewing

section

variable {D : Type} {s s' : Viewing D} {connID : ConnID}

theorem reduceSurfaceSubscribe_absent {host : Host.State D} {e : Host.EvSurfaceSubscribe}
    (absent : host.subscribed e.key = false) :
    (∃ code message, reduceSurfaceSubscribe host e = (host, [Host.errResp e.connID e.reqID code message])) ∨
    reduceSurfaceSubscribe host e = (host.withSurface e.key ⟨e.cols, e.rows⟩,
      [.surfaceSubscribeStart e.connID e.sessionID e.subscriberID e.cols e.rows,
        Host.okResp e.connID e.reqID .empty]) := by
  fun_cases reduceSurfaceSubscribe host e
  case case5 present => exact absurd (present.symm.trans absent) (by decide)
  case case7 => exact .inr rfl
  all_goals exact .inl ⟨_, _, rfl⟩

theorem reduceSurfaceUnsubscribe_present {host : Host.State D} {e : Host.EvSurfaceUnsubscribe}
    (present : host.subscribed e.key = true) :
    ∃ reply, reply.relays = false ∧ reduceSurfaceUnsubscribe host e = (host.withoutSurface e.key,
      [.surfaceSubscribeStop e.connID e.sessionID e.subscriberID, reply]) := by
  fun_cases reduceSurfaceUnsubscribe host e
  · have none := Option.isSome_eq_false_iff.mpr ‹_›
    cases none.symm.trans present
  · refine ⟨_, ?_, rfl⟩
    split <;> rfl

namespace Viewer

variable {v w : Viewer}

theorem Apart.symm (apart : v.Apart w) : w.Apart v := fun same =>
  have ⟨left, right, other⟩ := apart same.symm
  ⟨right, left, other.symm⟩

theorem Apart.takes_other (apart : v.Apart w) (data : SurfaceData) :
    v.takes ⟨w.sessionID, w.subscriberID, data⟩ = false := by
  refine Bool.eq_false_iff.mpr fun taken => ?_
  obtain ⟨same, filter⟩ := Bool.and_eq_true_iff.mp taken
  obtain ⟨left, right, other⟩ := apart (of_decide_eq_true same).symm
  obtain ⟨id, mine⟩ := ne_none_iff_exists'.mp left
  obtain ⟨id', its⟩ := ne_none_iff_exists'.mp right
  simp only [mine, subscriberID, its, getD_some, decide_eq_true_eq] at filter
  exact other (by rw [mine, its, filter])

theorem Apart.key_ne (apart : v.Apart w) : v.key ≠ w.key := by
  intro same
  have taken := apart.takes_other (.snapshot 0)
  obtain ⟨session, sub⟩ := Prod.mk.inj same
  rw [← session, ← sub, takes, subscriberID] at taken
  cases lifecycle : v.lifecycle <;> simp [lifecycle] at taken

end Viewer

theorem send_other {events : List SurfaceOutput} {v : Viewer}
    (other : ∀ e ∈ events, v.takes e = false) : v.send events = v := by
  have none : events.filter v.takes = [] := filter_eq_nil_iff.mpr fun e mem => by simp [other e mem]
  rw [Viewer.send, none]
  simp

theorem send_own (v : Viewer) (data : SurfaceData) :
    v.send [⟨v.sessionID, v.subscriberID, data⟩] = { v with got := v.got ++ [data] } := by
  have taken : v.takes ⟨v.sessionID, v.subscriberID, data⟩ = true := by
    unfold Viewer.takes Viewer.subscriberID
    cases v.lifecycle <;> simp
  rw [Viewer.send, filter_cons_of_pos taken]
  rfl

theorem apply_silent {e : Host.Effect D} (silent : e.relays = false) : Viewing.apply connID s e = s := by
  cases e <;> first | rfl | cases silent

namespace Viewing

theorem Served.start {host : Host.State D} (fresh : ∀ sid sub, host.subscribed ⟨connID, sid, sub⟩ = false) :
    Served connID ({ host } : Viewing D) :=
  ⟨.nil, rfl, fun sid sub => by rw [fresh]; rfl, forall_mem_nil _, forall_mem_nil _⟩

theorem Served.attach (served : Served connID s) {lifecycle : Option SubscriberID}
    {sid : SessionID} {reqID : String} {cols rows : UInt16}
    (alone : ∀ v ∈ s.viewers, v.Apart ⟨sid, lifecycle, 0, []⟩) :
    Served connID (s.attach connID lifecycle sid reqID cols rows) := by
  let v : Viewer := { sessionID := sid, lifecycle, since := (chunksOf s.chunks sid).length }
  let asked : Host.EvSurfaceSubscribe := ⟨connID, reqID, sid, v.subscriberID, cols, rows⟩
  have unrelayed : v.key ∉ s.relays := by
    intro mem
    rw [served.relays] at mem
    obtain ⟨w, there, same⟩ := List.mem_map.mp mem
    exact (alone w there).key_ne same
  have absent : s.host.subscribed asked.key = false := by
    rw [Host.EvSurfaceSubscribe.key, served.table]
    exact decide_eq_false unrelayed
  rcases reduceSurfaceSubscribe_absent absent with ⟨code, message, refused⟩ | added
  · have same : s.attach connID lifecycle sid reqID cols rows = s := by
      rw [Viewing.attach, show reduceSurfaceSubscribe s.host _ = _ from refused]
      rfl
    rwa [same]
  have sent : (s.viewers ++ [v]).map (Viewer.send [⟨sid, v.subscriberID, .snapshot v.since⟩]) =
      s.viewers ++ [{ v with got := [.snapshot v.since] }] := by
    rw [map_append]
    congr 1
    · refine (map_congr_left fun w mem => ?_).trans (List.map_id _)
      refine send_other fun e mem' => ?_
      obtain rfl := mem_singleton.mp mem'
      exact (alone w mem).takes_other _
    · exact congrArg (fun w => [w]) (send_own v _)
  have same : s.attach connID lifecycle sid reqID cols rows =
      { s with
        host := s.host.withSurface asked.key ⟨cols, rows⟩, relays := s.relays ++ [(sid, v.subscriberID)]
        viewers := s.viewers ++ [{ v with got := [.snapshot v.since] }] } := by
    rw [Viewing.attach, show reduceSurfaceSubscribe s.host _ = _ from added]
    dsimp only
    rw [if_neg (by simp [refuses, Host.okResp]), foldl_cons, foldl_cons, foldl_nil,
      apply_silent rfl, apply, if_pos rfl, ← sent]
  rw [same]
  refine ⟨?_, ?_, fun sid' sub' => ?_, fun w mem => ?_, fun w mem => ?_⟩
  · refine pairwise_append.mpr ⟨served.apart, pairwise_singleton _ _, fun w mem w' mem' => ?_⟩
    obtain rfl := mem_singleton.mp mem'
    exact alone w mem
  · rw [map_append, served.relays]
    rfl
  · have here : asked.key = ⟨connID, sid', sub'⟩ ↔ (sid', sub') = (sid, v.subscriberID) := by
      simp [Host.EvSurfaceSubscribe.key, asked, eq_comm]
    rw [Host.subscribed_withSurface, served.table, Bool.eq_iff_iff, Bool.or_eq_true,
      decide_eq_true_iff, decide_eq_true_iff, decide_eq_true_iff, here, mem_append, mem_singleton, or_comm]
  · rcases mem_append.mp mem with old | new
    · exact served.since w old
    · obtain rfl := mem_singleton.mp new
      exact Nat.le_refl _
  · rcases mem_append.mp mem with old | new
    · exact served.due w old
    · obtain rfl := mem_singleton.mp new
      simp [Viewer.due, v]

theorem Served.detach (served : Served connID s) {k : Nat} {v : Viewer} {reqID : String}
    (found : s.viewers[k]? = some v) : Served connID (s.detach connID k v reqID) := by
  obtain ⟨before, after, split, -, erased⟩ := slot found
  have apart := served.apart
  rw [split, pairwise_middle Viewer.Apart.symm, pairwise_cons] at apart
  obtain ⟨single, rest⟩ := apart
  have relays := served.relays
  rw [split, map_append, map_cons] at relays
  let asked : Host.EvSurfaceUnsubscribe := ⟨connID, reqID, v.sessionID, v.subscriberID⟩
  have present : s.host.subscribed asked.key = true := by
    rw [Host.EvSurfaceUnsubscribe.key, served.table, relays]
    exact decide_eq_true (by simp [asked, Viewer.key])
  obtain ⟨reply, silent, removed⟩ := reduceSurfaceUnsubscribe_present present
  have left : s.relays.filter (· ≠ v.key) = (before ++ after).map Viewer.key := by
    rw [relays, filter_append, filter_cons_of_neg (by simp), ← filter_append, ← map_append]
    refine filter_eq_self.mpr fun r mem => ?_
    obtain ⟨w, there, rfl⟩ := List.mem_map.mp mem
    simpa using (single w there).key_ne.symm
  have same : s.detach connID k v reqID =
      { s with
        host := s.host.withoutSurface asked.key, relays := (before ++ after).map Viewer.key
        viewers := before ++ after } := by
    rw [Viewing.detach, show reduceSurfaceUnsubscribe s.host _ = _ from removed]
    dsimp only
    rw [foldl_cons, foldl_cons, foldl_nil, apply_silent silent, apply, if_pos rfl, erased, ← left]
    rfl
  have kept : ∀ w ∈ before ++ after, w ∈ s.viewers := by
    intro w mem
    rw [split]
    exact mem_append.mpr ((mem_append.mp mem).imp_right fun after => mem_cons_of_mem _ after)
  rw [same]
  refine ⟨rest, rfl, fun sid sub => ?_, fun w mem => served.since w (kept w mem),
    fun w mem => served.due w (kept w mem)⟩
  have here : asked.key = ⟨connID, sid, sub⟩ ↔ (sid, sub) = v.key := by
    simp [Host.EvSurfaceUnsubscribe.key, asked, Viewer.key, eq_comm]
  rw [Host.subscribed_withoutSurface, served.table, ← left, Bool.eq_iff_iff, Bool.and_eq_true,
    Bool.not_eq_true', decide_eq_false_iff_not, decide_eq_true_iff, decide_eq_true_iff, here,
    mem_filter, decide_eq_true_iff, and_comm]

/-- Of what the relays of its session send, a viewer takes what its own one does. -/
theorem Served.taken (served : Served connID s) {v : Viewer} (mem : v ∈ s.viewers) (data : SurfaceData) :
    ((s.relays.filter fun r => r.1 = v.sessionID).map fun r => ⟨v.sessionID, r.2, data⟩).filter v.takes =
      [⟨v.sessionID, v.subscriberID, data⟩].filter v.takes := by
  obtain ⟨before, after, split⟩ := append_of_mem mem
  have apart := served.apart
  rw [split, pairwise_middle Viewer.Apart.symm, pairwise_cons] at apart
  have none : ∀ l : List Viewer, (∀ w ∈ l, w ∈ before ++ after) → (((l.map Viewer.key).filter fun r =>
      r.1 = v.sessionID).map fun r => ⟨v.sessionID, r.2, data⟩).filter v.takes = [] := by
    intro l inside
    refine filter_eq_nil_iff.mpr fun e mem => ?_
    obtain ⟨r, kept, rfl⟩ := List.mem_map.mp mem
    obtain ⟨there, same⟩ := mem_filter.mp kept
    obtain ⟨w, listed, rfl⟩ := List.mem_map.mp there
    rw [← of_decide_eq_true same]
    exact Bool.eq_false_iff.mp ((apart.1 w (inside w listed)).takes_other data)
  rw [served.relays, split, map_append, map_cons, filter_append, filter_cons_of_pos (by simp [Viewer.key]), map_append,
    filter_append, none before fun w mem => mem_append_left _ mem, nil_append, map_cons, filter_cons,
    none after fun w mem => mem_append_right _ mem, filter_cons]
  rfl

theorem chunksOf_append (chunks : List (SessionID × String)) (sid sid' : SessionID) (data : String) :
    chunksOf (chunks ++ [(sid, data)]) sid' =
      if sid = sid' then chunksOf chunks sid' ++ [data] else chunksOf chunks sid' := by
  unfold chunksOf
  split <;> simp [*]

theorem Served.output (served : Served connID s) (sid : SessionID) (data : String) :
    Served connID (s.output sid data) := by
  have each : ∀ v ∈ s.viewers, v.send ((s.relays.filter fun r => r.1 = sid).map fun r =>
      ⟨sid, r.2, .chunk data⟩) = if v.sessionID = sid then { v with got := v.got ++ [.chunk data] } else v := by
    intro v mem
    split
    · rename_i shown
      subst shown
      rw [Viewer.send, served.taken mem]
      exact send_own v _
    rename_i other
    refine send_other fun e mem => ?_
    obtain ⟨r, -, rfl⟩ := List.mem_map.mp mem
    simp [Viewer.takes, Ne.symm other]
  have viewers : (s.output sid data).viewers = s.viewers.map fun v =>
      if v.sessionID = sid then { v with got := v.got ++ [.chunk data] } else v :=
    map_congr_left each
  have same : ∀ v : Viewer, (if v.sessionID = sid then { v with got := v.got ++ [.chunk data] }
      else v).lifecycle = v.lifecycle ∧ (if v.sessionID = sid then { v with got := v.got ++ [.chunk data] }
      else v).sessionID = v.sessionID := by
    intro v
    split <;> exact ⟨rfl, rfl⟩
  refine ⟨?_, ?_, served.table, fun w mem => ?_, fun w mem => ?_⟩
  · rw [viewers, pairwise_map]
    refine served.apart.imp fun {v w} apart => ?_
    rwa [Viewer.Apart, (same v).1, (same v).2, (same w).1, (same w).2]
  · rw [viewers, List.map_map]
    refine served.relays.trans (map_congr_left fun v _ => ?_)
    simp only [Function.comp_apply, Viewer.key, Viewer.subscriberID, (same v).1, (same v).2]
  · rw [viewers] at mem
    obtain ⟨v, there, rfl⟩ := List.mem_map.mp mem
    have before := served.since v there
    show _ ≤ (chunksOf (s.chunks ++ [(sid, data)]) _).length
    rw [(same v).2, chunksOf_append]
    split
    · rename_i shown
      rw [if_pos shown.symm, length_append]
      exact Nat.le_add_right_of_le before
    rename_i other
    rwa [if_neg (Ne.symm other)]
  · rw [viewers] at mem
    obtain ⟨v, there, rfl⟩ := List.mem_map.mp mem
    have due := served.due v there
    show _ = Viewer.due (s.chunks ++ [(sid, data)]) _
    split
    · rename_i shown
      rw [Viewer.due, chunksOf_append, if_pos shown.symm,
        drop_append_of_le_length (served.since v there), map_append, due]
      rfl
    rename_i other
    rw [Viewer.due, chunksOf_append, if_neg (Ne.symm other), due]
    rfl

theorem Served.step (served : Served connID s) {label : ViewingLabel}
    (step : Step connID s label s') (good : s.alone label = true) : Served connID s' := by
  cases label with
  | attach =>
    cases step
    exact served.attach (of_decide_eq_true good)
  | detach =>
    obtain ⟨v, found, rfl⟩ := map_eq_some_iff.mp step
    exact served.detach found
  | output sid data =>
    cases step
    exact served.output sid data

end Viewing

end

open Viewing

end AgentGrid.Gateway
