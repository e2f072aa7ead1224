import AgentGrid.Gateway.Fanout

/-!
# From the daemon socket to one browser

What the daemon sends takes three bounded hops before a lifecycle WebSocket writes it: the event
channel of the client, the buffer of the WebSocket's subscriber, and the set of sessions it shows.
The first drops what finds it full, the second ends the WebSocket, the third passes over what it
does not have yet.
-/

namespace AgentGrid.Gateway

open AgentGrid.Lib List Option Chan

inductive OutletEvent where
  | surfaceOutput (subscriberID sessionID data : String) | sessionsChanged
  /-- Written as it is: tails, notifications, approvals, questions, diagnostics and outcomes. -/
  | lifecycle (name : String) | ignored
  deriving DecidableEq

/-- How the daemon answers a command, or that no answer comes. -/
inductive Reply where
  | ok | refused | lost
  deriving DecidableEq

inductive OutletEnvelope where
  | event (ev : OutletEvent) | response (handler : Nat) (reply : Reply)
  deriving DecidableEq

@[simp] def OutletEnvelope.event? : OutletEnvelope → Option OutletEvent
  | .event ev => some ev
  | .response _ _ => none

/-- The goroutines that change the set of sessions. -/
inductive HandlerKind where
  /-- `handleLifecycleDesired`, with what is desired. -/
  | desire (desired : Bool)
  /-- `handleLifecycleSubscribe`. -/
  | subscribe
  /-- `handleLifecycleUnsubscribe`. -/
  | unsubscribe
  deriving DecidableEq

structure Handler where
  kind : HandlerKind
  sessionID : String
  /-- What `subs.add` answered before the command was sent. -/
  added : Bool := false
  reply : Option Reply := none
  deriving DecidableEq

inductive LifecycleFrame where
  | hello | server (ev : OutletEvent)
  deriving DecidableEq

def LifecycleFrame.event? : LifecycleFrame → Option OutletEvent
  | .hello => none
  | .server ev => some ev

/-- The client, the fan-out to one subscriber, and its WebSocket. -/
structure Outlet where
  /-- All events of the daemon, which nothing reads. -/
  sent : List OutletEvent := []
  socket : List OutletEnvelope := []
  events : Chan OutletEvent := { cap := 64 }
  /-- The event that a broadcast has for the subscriber. -/
  held : Option OutletEvent := none
  sub : Chan OutletEvent := { cap := perSubscriberBuf }
  handlers : List Handler := []
  subs : List String := []
  helloSent : Bool := false
  written : List LifecycleFrame := []
  departed : Bool := false
  deriving DecidableEq

inductive OutletLabel where
  /-- The daemon writes on the socket. -/
  | daemon (env : OutletEnvelope)
  /-- The reader of the client takes an envelope and dispatches it. -/
  | read
  /-- The fan-out takes an event, and has the subscriber in its snapshot. -/
  | fetch
  /-- The fan-out takes an event after the subscriber has left. -/
  | skip
  /-- The broadcast sends to the subscriber, or severs it. -/
  | send
  /-- The subscriber is closed: by its context, by a full push channel or with all others. -/
  | close
  /-- The pump of the WebSocket takes an event. -/
  | pump
  /-- The pump ends for another reason. -/
  | depart
  /-- A goroutine for an inbound frame sends its command. -/
  | ask (kind : HandlerKind) (sessionID : String)
  /-- A command gets no answer. -/
  | lose (k : Nat)
  /-- A goroutine goes on with its answer. -/
  | settle (k : Nat)
  deriving DecidableEq

namespace Outlet

/-- `subs.add` and `subs.remove`. -/
def add (sessionID : String) (s : Outlet) : Outlet :=
  if sessionID ∈ s.subs then s else { s with subs := s.subs ++ [sessionID] }

def remove (sessionID : String) (s : Outlet) : Outlet :=
  { s with subs := s.subs.filter (· ≠ sessionID) }

def ask (s : Outlet) (kind : HandlerKind) (sessionID : String) : Outlet :=
  match kind with
  | .subscribe =>
    let added := decide (sessionID ∉ s.subs)
    { s.add sessionID with handlers := s.handlers ++ [{ kind, sessionID, added }] }
  | .desire _ | .unsubscribe => { s with handlers := s.handlers ++ [{ kind, sessionID }] }

def answer (s : Outlet) (k : Nat) (reply : Reply) : Outlet :=
  { s with handlers := s.handlers.modify k fun h => { h with reply := some reply } }

/-- The rest of a handler, once it has its answer. -/
def settle (s : Outlet) (h : Handler) (reply : Reply) : Outlet :=
  match h.kind, reply with
  | .desire true, .ok => s.add h.sessionID
  | .desire true, _ => s.remove h.sessionID
  | .desire false, .ok => s.remove h.sessionID
  | .desire false, _ => s
  | .subscribe, .refused => if h.added then s.remove h.sessionID else s
  | .subscribe, _ => s
  | .unsubscribe, .ok => s.remove h.sessionID
  | .unsubscribe, _ => s

variable (subscriberID ownerID : String)

/-- The frames of an event, and whether the hello is sent after them. -/
def lifecycleFrames (s : Outlet) : OutletEvent → List LifecycleFrame × Bool
  | .sessionsChanged => if s.helloSent then ([.server .sessionsChanged], true) else ([.hello], true)
  | .lifecycle name => ([.server (.lifecycle name)], s.helloSent)
  | .surfaceOutput id sid data =>
    if (id ≠ subscriberID ∧ id ≠ ownerID) ∨ sid ∉ s.subs then ([], s.helloSent)
    else ([.server (.surfaceOutput id sid data)], s.helloSent)
  | .ignored => ([], s.helloSent)

def dispatch (s : Outlet) : OutletEnvelope → Outlet
  | .response k reply => s.answer k reply
  | .event ev =>
    match s.events.offer ev with
    | .sent events => { s with events }
    | .full | .panicked => s

def pump (s : Outlet) : Option Outlet :=
  match s.sub.receive with
  | .got ev sub =>
    let (frames, helloSent) := s.lifecycleFrames subscriberID ownerID ev
    some { s with sub, helloSent, written := s.written ++ frames }
  | .drained => some { s with departed := true }
  | .empty => none

def act (s : Outlet) : OutletLabel → Option Outlet
  | .daemon env => some { s with socket := s.socket ++ [env], sent := s.sent ++ env.event?.toList }
  | .read =>
    match s.socket with
    | [] => none
    | env :: socket => some (({ s with socket } : Outlet).dispatch env)
  | .fetch =>
    if s.held.isSome || s.sub.closed then none
    else
      match s.events.receive with
      | .got ev events => some { s with events, held := some ev }
      | .drained | .empty => none
  | .skip =>
    if s.held.isSome || !s.sub.closed then none
    else
      match s.events.receive with
      | .got _ events => some { s with events }
      | .drained | .empty => none
  | .send =>
    s.held.bind fun ev =>
      match s.sub.offer ev with
      | .sent sub => some { s with sub, held := none }
      | .full => some { s with sub := { s.sub with closed := true }, held := none }
      | .panicked => none
  | .close => s.sub.close.map fun sub => { s with sub }
  | .pump => if s.departed then none else s.pump subscriberID ownerID
  | .depart => some { s with departed := true }
  | .ask kind sessionID => some (s.ask kind sessionID)
  | .lose k => some (s.answer k .lost)
  | .settle k =>
    s.handlers[k]?.bind fun h =>
      h.reply.map fun reply => ({ s with handlers := s.handlers.eraseIdx k } : Outlet).settle h reply

def Step (s : Outlet) (label : OutletLabel) (s' : Outlet) : Prop :=
  s.act subscriberID ownerID label = some s'

/-- No event of the subscription finds the client's channel full, and the pump has its session when
it takes one. -/
def lossless (mine : OutletEvent → Bool) (s : Outlet) : OutletLabel → Bool
  | .read =>
    match s.socket with
    | .event ev :: _ => !mine ev || decide (s.events.buf.length < s.events.cap)
    | _ => true
  | .pump =>
    match s.sub.buf with
    | .surfaceOutput id sid data :: _ => !mine (.surfaceOutput id sid data) || decide (sid ∈ s.subs)
    | _ => true
  | _ => true

/-- The events that were written, and those that are in the buffer of the subscriber. -/
def past (s : Outlet) : List OutletEvent := s.written.filterMap LifecycleFrame.event? ++ s.sub.buf

@[simp] def coming (s : Outlet) : List OutletEvent :=
  s.held.toList ++ (s.events.buf ++ s.socket.filterMap OutletEnvelope.event?)

/-- Nothing of the subscription is missing before the end of what has come. -/
structure Flowing (mine : OutletEvent → Bool) (s : Outlet) : Prop where
  ready : s.events.closed = false
  whole : s.sub.closed = false → (s.past ++ s.coming).filter mine = s.sent.filter mine
  front : s.past.filter mine <+: s.sent.filter mine

variable {subscriberID ownerID : String} {mine : OutletEvent → Bool} {s s' : Outlet}

theorem Flowing.start : Flowing mine {} := ⟨rfl, fun _ => rfl, prefix_refl _⟩

section

variable (flowing : Flowing mine s)

include flowing

theorem Flowing.of_same (sent : s'.sent = s.sent := by rfl) (events : s'.events = s.events := by rfl)
    (sub : s'.sub = s.sub := by rfl) (past : s'.past = s.past := by rfl)
    (coming : s'.coming = s.coming := by rfl) : Flowing mine s' :=
  ⟨events ▸ flowing.ready, by rw [sub, past, coming, sent]; exact flowing.whole,
    by rw [past, sent]; exact flowing.front⟩

theorem Flowing.add (sessionID : String) : Flowing mine (s.add sessionID) := by
  unfold Outlet.add
  split
  · exact flowing
  · exact flowing.of_same

theorem Flowing.remove (sessionID : String) : Flowing mine (s.remove sessionID) := flowing.of_same

theorem Flowing.ask (kind : HandlerKind) (sessionID : String) : Flowing mine (s.ask kind sessionID) := by
  cases kind with
  | subscribe => exact (flowing.add sessionID).of_same
  | desire | unsubscribe => exact flowing.of_same

theorem Flowing.answer (k : Nat) (reply : Reply) : Flowing mine (s.answer k reply) := flowing.of_same

theorem Flowing.settle (h : Handler) (reply : Reply) : Flowing mine (s.settle h reply) := by
  fun_cases s.settle h reply
  case case1 => exact flowing.add _
  all_goals first | exact flowing | exact flowing.remove _

end

theorem front_of_whole (whole : (s.past ++ s.coming).filter mine = s.sent.filter mine) :
    s.past.filter mine <+: s.sent.filter mine := by
  rw [← whole, filter_append]
  exact prefix_append _ _

theorem Flowing.daemon (flowing : Flowing mine s) (env : OutletEnvelope) : Flowing mine
      { s with socket := s.socket ++ [env], sent := s.sent ++ env.event?.toList } := by
  refine ⟨flowing.ready, fun still => ?_, ?_⟩
  · have whole := flowing.whole still
    have longer : coming { s with socket := s.socket ++ [env], sent := s.sent ++ env.event?.toList } =
        s.coming ++ env.event?.toList := by
      simp [filterMap_append, filterMap_cons]
      cases env.event? <;> rfl
    show (s.past ++ coming _).filter mine = _
    rw [longer, ← append_assoc, filter_append, whole, filter_append]
  · rw [filter_append]
    exact flowing.front.trans (prefix_append _ _)

theorem Flowing.read (flowing : Flowing mine s) {env : OutletEnvelope}
    {socket : List OutletEnvelope} (first : s.socket = env :: socket) (good : s.lossless mine .read = true) :
    Flowing mine (({ s with socket } : Outlet).dispatch env) := by
  cases env with
  | response k reply =>
    refine Flowing.answer (s := { s with socket }) (flowing.of_same rfl rfl rfl rfl ?_) k reply
    simp [first, filterMap_cons]
  | event ev =>
    have room : mine ev = true → s.events.buf.length < s.events.cap := by
      simpa [lossless, first, imp_iff_not_or] using good
    unfold dispatch
    by_cases fits : s.events.buf.length < s.events.cap
    · have sent : s.events.offer ev = .sent { s.events with buf := s.events.buf ++ [ev] } := by
        simp [Chan.offer, flowing.ready, fits]
      dsimp only
      rw [sent]
      have same : coming { s with socket, events := { s.events with buf := s.events.buf ++ [ev] } } = s.coming := by
        simp [first]
      exact ⟨flowing.ready, by rw [same]; exact flowing.whole, flowing.front⟩
    have full : s.events.offer ev = .full := by simp [Chan.offer, flowing.ready, fits]
    dsimp only
    rw [full]
    have other : mine ev = false := by simpa using mt room fits
    refine ⟨flowing.ready, fun still => ?_, flowing.front⟩
    have whole := flowing.whole still
    rw [← whole]
    show (s.past ++ coming { s with socket }).filter mine = _
    simp [first, other]

variable {ev : OutletEvent} {events : Chan OutletEvent}

section

variable (flowing : Flowing mine s)

include flowing

theorem Flowing.fetch (free : s.held = none) (got : s.events.receive = .got ev events) :
    Flowing mine { s with events, held := some ev } := by
  obtain ⟨front, closed⟩ := eq_of_receive got
  have same : coming { s with events, held := some ev } = s.coming := by simp [free, front]
  exact ⟨closed.trans flowing.ready, by rw [same]; exact flowing.whole, flowing.front⟩

theorem Flowing.skip (left : s.sub.closed = true) (got : s.events.receive = .got ev events) :
    Flowing mine { s with events } := by
  obtain ⟨-, closed⟩ := eq_of_receive got
  exact ⟨closed.trans flowing.ready, fun still => absurd (left.symm.trans still) (by decide), flowing.front⟩

theorem Flowing.deliver {sub : Chan OutletEvent} (held : s.held = some ev) (sent : s.sub.offer ev = .sent sub) :
    Flowing mine { s with sub, held := none } := by
  obtain ⟨still, rfl⟩ := eq_of_offer sent
  have whole := flowing.whole still
  have same : past { s with sub := { s.sub with buf := s.sub.buf ++ [ev] }, held := none } ++
      coming { s with sub := { s.sub with buf := s.sub.buf ++ [ev] }, held := none } = s.past ++ s.coming := by
    simp [past, held]
  rw [← same] at whole
  exact ⟨flowing.ready, fun _ => whole, front_of_whole whole⟩

theorem Flowing.shut (held : Option OutletEvent) :
    Flowing mine { s with sub := { s.sub with closed := true }, held } :=
  ⟨flowing.ready, fun still => absurd still (by simp), flowing.front⟩

end

section

variable (own : ∀ ev, mine ev = true → ∃ id sid data,
  ev = .surfaceOutput id sid data ∧ (id = subscriberID ∨ id = ownerID))

theorem mem_lifecycleFrames {ev ev' : OutletEvent}
    (mem : LifecycleFrame.server ev' ∈ (s.lifecycleFrames subscriberID ownerID ev).1) : ev' = ev := by
  revert mem
  fun_cases lifecycleFrames subscriberID ownerID s ev <;> simp_all

include own

theorem shown_eq {ev : OutletEvent}
    (known : mine ev = true → ∀ id sid data, ev = .surfaceOutput id sid data → sid ∈ s.subs) :
    ((s.lifecycleFrames subscriberID ownerID ev).1.filterMap LifecycleFrame.event?).filter mine =
      [ev].filter mine := by
  cases picked : mine ev with
  | true =>
    obtain ⟨id, sid, data, rfl, ours⟩ := own ev picked
    have passes : ¬ ((id ≠ subscriberID ∧ id ≠ ownerID) ∨ sid ∉ s.subs) := by
      rintro (⟨first, second⟩ | unknown)
      · exact ours.elim first second
      · exact unknown (known picked id sid data rfl)
    rw [lifecycleFrames, if_neg passes]
    rfl
  | false =>
    rw [filter_eq_nil_iff.mpr, filter_eq_nil_iff.mpr]
    · simp [picked]
    · intro ev' mem
      obtain ⟨frame, mem, is⟩ := mem_filterMap.mp mem
      cases frame with
      | hello => cases is
      | server =>
        cases is
        rw [mem_lifecycleFrames mem, picked]
        decide

theorem Flowing.pump (flowing : Flowing mine s) (good : s.lossless mine .pump = true)
    (step : s.pump subscriberID ownerID = some s') : Flowing mine s' := by
  unfold Outlet.pump at step
  split at step
  · rename_i ev sub got
    obtain ⟨first, closed⟩ := eq_of_receive got
    have shown := @shown_eq _ _ _ s own ev fun picked id sid data same => by
      subst same
      simpa [lossless, first, picked] using good
    generalize s.lifecycleFrames subscriberID ownerID ev = out at shown step
    obtain ⟨frames, helloSent⟩ := out
    cases step
    have same : ((s.written ++ frames).filterMap LifecycleFrame.event? ++ sub.buf).filter mine =
        s.past.filter mine := by
      rw [past, first, ← singleton_append, filterMap_append, append_assoc]
      simp only [filter_append, shown]
    refine ⟨flowing.ready, fun still => ?_, ?_⟩
    · have whole := flowing.whole (closed.symm.trans still)
      rw [filter_append] at whole ⊢
      exact (congrArg (· ++ s.coming.filter mine) same).trans whole
    · exact (congrArg (· <+: s.sent.filter mine) same).mpr flowing.front
  · cases step
    exact flowing.of_same
  · cases step

theorem Flowing.step {label : OutletLabel} (flowing : Flowing mine s)
    (step : Step subscriberID ownerID s label s') (good : s.lossless mine label = true) : Flowing mine s' := by
  revert step
  unfold Step
  fun_cases act subscriberID ownerID s label <;> intro step <;> try cases step
  case case1 env => exact flowing.daemon env
  case case3 arrived => exact flowing.read arrived good
  case case5 free _ _ got => exact flowing.fetch (by simpa using (by simpa using free : _ ∧ _).1) got
  case case9 left _ _ got => exact flowing.skip (by simpa using (by simpa using left : _ ∧ _).2) got
  case case12 =>
    obtain ⟨ev, held, step⟩ := bind_eq_some_iff.mp step
    split at step
    · cases step
      exact flowing.deliver held ‹_›
    · cases step
      exact flowing.shut none
    · cases step
  case case13 =>
    obtain ⟨sub, closed, rfl⟩ := map_eq_some_iff.mp step
    unfold Chan.close at closed
    split at closed <;> cases closed
    exact flowing.shut s.held
  case case15 => exact flowing.pump own good step
  case case16 => exact flowing.of_same
  case case17 kind sessionID => exact flowing.ask kind sessionID
  case case18 k => exact flowing.answer k .lost
  case case19 =>
    obtain ⟨h, -, step⟩ := bind_eq_some_iff.mp step
    obtain ⟨reply, -, rfl⟩ := map_eq_some_iff.mp step
    refine Flowing.settle (flowing.of_same ?_ ?_ ?_ ?_ ?_) h reply <;> rfl

end

end Outlet

open Outlet

/-- Where no event of a subscription finds the client's channel full, and the pump finds its session
in the set when it takes one, the WebSocket has the events of the subscription from the first one
on, without a gap. -/
theorem written_without_gap {subscriberID ownerID : String} {mine : OutletEvent → Bool}
    (own : ∀ ev, mine ev = true → ∃ id sid data, ev = .surfaceOutput id sid data ∧ (id = subscriberID ∨ id = ownerID))
    {labels : List OutletLabel} {s : Outlet} (run : Run (fun s label s' => Step subscriberID ownerID s label s' ∧
      s.lossless mine label = true) {} labels s) :
    (s.written.filterMap LifecycleFrame.event?).filter mine <+: s.sent.filter mine := by
  have flowing := run.invariant (Flowing mine) .start fun _ _ _ flowing step => flowing.step own step.1 step.2
  refine List.IsPrefix.trans ?_ flowing.front
  rw [past, filter_append]
  exact prefix_append _ _

/-- What belongs to a subscription of session `a`. -/
def ofA : OutletEvent → Bool
  | .surfaceOutput id sid _ => decide ((id = "web-1" ∨ id = "owner-1") ∧ sid = "a")
  | _ => false

theorem ofA_own (ev : OutletEvent) (picked : ofA ev = true) : ∃ id sid data,
    ev = .surfaceOutput id sid data ∧ (id = "web-1" ∨ id = "owner-1") := by
  cases ev with
  | surfaceOutput id sid data => exact ⟨id, sid, data, rfl, (of_decide_eq_true picked).1⟩
  | sessionsChanged | lifecycle | ignored => cases picked

def through (ev : OutletEvent) : List OutletLabel :=
  [.daemon (.event ev), .read, .fetch, .send, .pump]

/-- The session is added before the command is sent. -/
def orderlySubscribe : List OutletLabel :=
  through .sessionsChanged ++ [.ask .subscribe "a", .daemon (.response 0 .ok), .read, .settle 0] ++
    through (.surfaceOutput "web-1" "a" "snapshot") ++ through (.surfaceOutput "web-2" "a" "other") ++
    [.daemon (.event (.surfaceOutput "web-1" "a" "chunk")), .read, .fetch, .close]

theorem written_without_gap_orderlySubscribe : ∃ s,
    Run (fun s label s' => Step "web-1" "owner-1" s label s' ∧ s.lossless ofA label = true) {} orderlySubscribe s ∧
    s.written = [.hello, .server (.surfaceOutput "web-1" "a" "snapshot")] ∧
    (s.written.filterMap LifecycleFrame.event?).filter ofA <+: s.sent.filter ofA := by
  have facts : (replay (guarded (act "web-1" "owner-1") fun s label => s.lossless ofA label = true) {}
      orderlySubscribe).map Outlet.written = some [.hello, .server (.surfaceOutput "web-1" "a" "snapshot")] := by
    decide +kernel
  obtain ⟨s, replayed, written⟩ := map_eq_some_iff.mp facts
  have run := guarded_run replayed
  exact ⟨s, run, written, written_without_gap ofA_own run⟩

/-- The pump takes the snapshot before the handler adds the session. -/
def lateSession : List OutletLabel :=
  [.ask (.desire true) "a"] ++ through (.surfaceOutput "owner-1" "a" "snapshot") ++
    [.daemon (.response 0 .ok), .read, .settle 0] ++ through (.surfaceOutput "owner-1" "a" "chunk")

/-- The fan-out is slow, and the client's channel is full when the snapshot comes. -/
def fullChannel : List OutletLabel :=
  [.ask .subscribe "a"] ++ (List.replicate 64 [.daemon (.event .ignored), .read]).flatten ++
    [.daemon (.event (.surfaceOutput "web-1" "a" "snapshot")), .read] ++
    (List.replicate 64 [.fetch, .send, .pump]).flatten ++ through (.surfaceOutput "web-1" "a" "chunk")

/-- Both times the snapshot is lost and the chunk after it is written. -/
theorem snapshot_lost : ∃ s t,
    Run (Step "web-1" "owner-1") {} lateSession s ∧ Run (Step "web-1" "owner-1") {} fullChannel t ∧
    s.sent.filter ofA = [.surfaceOutput "owner-1" "a" "snapshot", .surfaceOutput "owner-1" "a" "chunk"] ∧
    s.written = [.server (.surfaceOutput "owner-1" "a" "chunk")] ∧
    t.sent.filter ofA = [.surfaceOutput "web-1" "a" "snapshot", .surfaceOutput "web-1" "a" "chunk"] ∧
    t.written = [.server (.surfaceOutput "web-1" "a" "chunk")] := by
  have late : (replay (act "web-1" "owner-1") {} lateSession).map (fun s => (s.sent.filter ofA, s.written)) =
        some ([.surfaceOutput "owner-1" "a" "snapshot", .surfaceOutput "owner-1" "a" "chunk"],
          [.server (.surfaceOutput "owner-1" "a" "chunk")]) := by
    decide +kernel
  have full : (replay (act "web-1" "owner-1") {} fullChannel).map (fun s => (s.sent.filter ofA, s.written)) =
        some ([.surfaceOutput "web-1" "a" "snapshot", .surfaceOutput "web-1" "a" "chunk"],
          [.server (.surfaceOutput "web-1" "a" "chunk")]) := by
    decide +kernel
  obtain ⟨s, first, found⟩ := map_eq_some_iff.mp late
  obtain ⟨t, second, found'⟩ := map_eq_some_iff.mp full
  obtain ⟨sent, written⟩ := Prod.mk.inj found
  obtain ⟨sent', written'⟩ := Prod.mk.inj found'
  exact ⟨s, t, replay_run first, replay_run second, sent, written, sent', written'⟩

end AgentGrid.Gateway
