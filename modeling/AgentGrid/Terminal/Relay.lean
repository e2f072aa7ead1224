import AgentGrid.Terminal.Types

/-!
# The terminal relay and the event loop

The code of the relay, of the terminals and of the part of the event loop that concerns
surfaces, cut where another goroutine can come in: at locks, channel operations and calls into a
terminal.  The rest of the daemon is the reducer, whose effects the loop executes.  Which
lifecycle effects are started, and which subscriptions they release, is left open.
-/

namespace AgentGrid.Terminal

open AgentGrid.Lib AgentGrid.Host

/-- How a terminal answers a subscriber: the size is refused, the snapshot fails and with it the
terminal, or the snapshot is taken. -/
inductive Attach where
  | refused | broken | snapshot (data : Bytes)

inductive Label (D : Type) where
  | exec (t : Thread) (attach : Attach) | take | dispatch (ev : Host.Event D) | connOpen
  | connClose (connID : ConnID) (released : List SurfaceKey) | lifecycle (released : List SurfaceKey)
  | effect (i : Nat) (key : SurfaceKey) (target : Option (FrameID × Nat × Nat))
  | fanReceive (ref : Ref) | fanCancel (ref : Ref) | forwardReceive (ref : Ref) | forwardCancel (ref : Ref)
  | start (frameID : FrameID) | fanout (frameID : FrameID) (ev : TermEvent) | exit (frameID : FrameID)
  | write (connID : ConnID)

/-! ## Terminals -/

/-- One subscriber's part of `fanout`: a subscriber whose buffer is full is dropped. -/
def Chan.put (c : Chan) (ev : TermEvent) : Chan :=
  if c.closed then c
  else if c.buf.length < subBuffer then
    { c with buf := c.buf ++ [ev] }
  else { c with closed := true }

def Chan.close (c : Chan) : Chan := { c with closed := true }

namespace World

variable {D : Type}

def fanout (w : World D) (frameID : FrameID) (ev : TermEvent) : World D :=
  { w with chans := w.chans.mapVal fun ref c => if ref.frameID = frameID then c.put ev else c }

def handleExit (w : World D) (frameID : FrameID) : World D :=
  let w := w.fanout frameID .exit
  { w with
    chans := w.chans.mapVal fun ref c => if ref.frameID = frameID then c.close else c
    terms := w.terms.set frameID { (w.terms.get? frameID).getD {} with exited := true } }

/-- `SubscribeSurface`, with `subscribeCmd`: the new subscriber's channel begins with the
snapshot.  A terminal that is not there or has exited refuses. -/
def subscribeSurface (w : World D) (frameID : FrameID) (attach : Attach) : World D × Option Ref :=
  match w.terms.get? frameID with
  | none => (w, none)
  | some term =>
    if term.exited then (w, none)
    else
      match attach with
      | .refused => (w, none)
      | .broken => (w.handleExit frameID, none)
      | .snapshot data =>
        let ref : Ref := ⟨frameID, term.nextID + 1⟩
        ({ w with
            terms := w.terms.set frameID { term with nextID := term.nextID + 1 }
            chans := w.chans.set ref { buf := [.output data] } },
          some ref)

/-- `UnsubscribeSurface`, with `unsubscribeCmd`. -/
def unsubscribeSurface (w : World D) (ref : Ref) : World D :=
  match w.chans.get? ref with
  | none => w
  | some c => { w with chans := w.chans.set ref c.close }

end World

/-! ## Effects of the reducer -/

section Effects

variable {D : Type}

variable (draw : Draw) (s : State D)

def sessionHeadFrameTarget (sid : SessionID) : FrameID :=
  match s.sessions.get? sid with
  | none => ""
  | some sess => ((headFrame sess).map SessionFrame.id).getD ""

/-- `sessionIDForFrame`: the session that a loop over the sessions finds first. -/
def sessionIDForFrame (frameID : FrameID) : SessionID :=
  ((s.sessions.range draw.toRangeOrder).findSome? fun e =>
    if e.2.frames.any fun f => f.id = frameID then some e.1 else none).getD ""

def broadcastSurfaceOutput (sid : SessionID) (data : Bytes) : List Instr :=
  (s.surfaceSubs.range draw.toRangeOrder).flatMap fun c =>
    (c.2.range draw.toRangeOrder).filterMap fun e =>
      if e.1.sessionID = sid then
        some (.queueWireToConn c.1 (.surfaceOutput sid e.1.subscriberID data) ⟨c.1, sid, e.1.subscriberID⟩)
      else none

/-- `broadcastPromptEvent`: one message for each connection with a viewer of the session. -/
def broadcastPromptEvent (frameID : FrameID) (phase : String) (exitCode : Int) : List Instr :=
  let sid := sessionIDForFrame draw s frameID
  if sid = "" then []
  else
    (s.surfaceSubs.range draw.toRangeOrder).filterMap fun c =>
      ((c.2.range draw.toRangeOrder).find? fun e => e.1.sessionID = sid).map fun e =>
        .queueWireToConn c.1 (.promptEvent frameID phase exitCode) ⟨c.1, sid, e.1.subscriberID⟩

/-- `execute`, of the effects that concern surfaces and connections. -/
def execute : Effect D → List Instr
  | .surfaceSubscribeStart connID sid sub cols rows =>
    if sessionHeadFrameTarget s sid = "" then []
    else [.subscribeOwned ⟨connID, sid, sub⟩ (sessionHeadFrameTarget s sid) cols.toNat rows.toNat]
  | .surfaceSubscribeStop connID sid sub => [.unsubscribeOwned ⟨connID, sid, sub⟩]
  | .sendResponseSync connID _ (.surfaceUnsubscribed sid sub) => [.pushUnsubscribed connID sid sub]
  | .sendResponseSync connID _ _ => [.writeWire connID]
  | .closeConn connID => [.closeConn connID]
  | .broadcastSurfaceOutput sid data => broadcastSurfaceOutput draw s sid data
  | .broadcastPromptEvent frameID phase exitCode => broadcastPromptEvent draw s frameID phase exitCode
  | _ => []

/-- `reconcileSurfaceRelay`: every viewer follows the head of its session. -/
def reconcileSurfaceRelay : List Instr :=
  (s.surfaceSubs.range draw.toRangeOrder).flatMap fun c =>
    (c.2.range draw.toRangeOrder).map fun e =>
      let key : SurfaceKey := ⟨c.1, e.1.sessionID, e.1.subscriberID⟩
      if sessionHeadFrameTarget s e.1.sessionID = "" then .unsubscribeOwned key
      else .rebindOwned key (sessionHeadFrameTarget s e.1.sessionID) e.2.cols.toNat e.2.rows.toNat

end Effects

/-- The subscription that the instruction is to open is of a connection that was accepted. -/
def Instr.accepted (nextConn : ConnID) : Instr → Bool
  | .subscribeOwned key _ _ _ => decide (key.connID ≤ nextConn)
  | .subscribeSurface key _ _ _ => decide (key.connID ≤ nextConn)
  | .install key _ _ _ => decide (key.connID ≤ nextConn)
  | .rebindOwned key _ _ _ => decide (key.connID ≤ nextConn)
  | _ => true

namespace World

variable {D : Type}

variable (env : Env D) (w : World D) (key : SurfaceKey) (draw : Draw) (ref : Ref)

def todo (t : Thread) : List Instr := (w.threads.get? t).getD []

def setTodo (t : Thread) (instrs : List Instr) : World D :=
  { w with threads := w.threads.set t instrs }

def setObject (sub : SurfaceSub) : World D :=
  { w with objects := w.objects.set ref sub }

/-- `isActiveSub`, and `isCurrentOwnedSubscription`. -/
def active : Bool :=
  decide (w.subs.get? key = some ref)

def shouldApplySlowClose : Bool :=
  match w.subs.get? key with
  | none => true
  | some cur => decide (cur = ref)

/-- `dispatch`.  Requests come from connections that were accepted. -/
def dispatch (w : World D) (ev : Host.Event D) : Option (World D × List Instr) :=
  match reduce env draw w.host ev with
  | .error _ => none
  | .ok r =>
    let instrs := r.2.flatMap (execute draw r.1) ++ reconcileSurfaceRelay draw r.1
    if instrs.all (Instr.accepted w.nextConn) then some ({ w with host := r.1 }, instrs) else none

/-- `queueWireLane`, on the interactive lane: where it is full the subscription is severed. -/
def queueWireToConn (connID : ConnID) (wire : Wire) (sub : SurfaceKey) : World D × List Instr :=
  match w.conns.get? connID with
  | none => (w, [])
  | some lane =>
    if lane.length < ipcOutboxLaneSize then ({ w with conns := w.conns.set connID (lane ++ [wire]) }, [])
    else (w, if sub.sessionID ≠ "" then [.severOwned sub] else [])

/-- The part of `sendResponseSync` for a surface that the daemon closed: it waits for room. -/
def pushUnsubscribed (connID : ConnID) (sid : SessionID) (sub : SubscriberID) : Option (World D) :=
  match w.conns.get? connID with
  | none => some w
  | some lane =>
    if lane.length < ipcOutboxLaneSize then
      some { w with conns := w.conns.set connID (lane ++ [.unsubscribed sid sub]) }
    else none

/-- `sendInternalNow`, of the end of a surface: it waits for room. -/
def sendNow : Option (World D) :=
  if w.interactive.length < lifecycleMailboxSize then
    some { w with interactive := w.interactive ++ [.surfaceClosed key ref] }
  else none

/-- Execute one instruction; what it leads to comes next.  None where the goroutine has to
wait; that a client reads what is written to its socket is taken for granted. -/
def perform (w : World D) (attach : Attach) : Instr → Option (World D × List Instr)
  | .subscribeOwned key frameID cols rows =>
    if (w.subs.get? key).isSome then some (w, [])
    else some (w, [.subscribeSurface key frameID cols rows])
  | .subscribeSurface key frameID cols rows =>
    let r := w.subscribeSurface frameID attach
    some (r.1, r.2.toList.map fun ref => .install key ref cols rows)
  | .install key ref cols rows =>
    if (w.subs.get? key).isSome then some (w, [.release ref])
    else
      some ({ w with
        subs := w.subs.set key ref, objects := w.objects.set ref { key := key, cols := cols, rows := rows } }, [])
  | .rebindOwned key frameID cols rows =>
    match w.subs.get? key with
    | none => some (w, [.subscribeOwned key frameID cols rows])
    | some old =>
      if old.frameID = frameID && ((w.objects.get? old).any fun sub =>
          sub.cols = cols && sub.rows = rows) then some (w, [])
      else
        some ({ w with subs := w.subs.delete key },
          [.cancel old, .release old, .subscribeOwned key frameID cols rows])
  | .unsubscribeOwned key =>
    match w.subs.get? key with
    | none => some (w, [])
    | some ref => some ({ w with subs := w.subs.delete key }, [.cancel ref, .release ref])
  | .severOwned key =>
    match w.subs.get? key with
    | none => some (w, [])
    | some ref => some ({ w with subs := w.subs.delete key }, [.cancel ref, .release ref, .sendNow key ref])
  | .cancel ref =>
    match w.objects.get? ref with
    | none => some (w, [])
    | some sub => some (w.setObject ref { sub with cancelled := true }, [])
  | .release ref => some (w.unsubscribeSurface ref, [])
  | .sendNow key ref => (w.sendNow key ref).map fun w' => (w', [])
  | .dispatchInternal (.broadcastSurface c) =>
    if w.active c.key c.ref then some (w, [.queueWireToConn c.key.connID (.chunk c) c.key])
    else some (w, [])
  | .dispatchInternal (.surfaceClosed key ref) =>
    if w.shouldApplySlowClose key ref then
      w.dispatch env draw (.surfaceUnsubscribe ⟨key.connID, "", key.sessionID, key.subscriberID⟩)
    else some (w, [])
  | .queueWireToConn connID wire sub => some (w.queueWireToConn connID wire sub)
  | .pushUnsubscribed connID sid sub => (w.pushUnsubscribed connID sid sub).map fun w' => (w', [])
  | .closeConn connID => some ({ w with conns := w.conns.delete connID }, [])
  | .number ref data =>
    match w.objects.get? ref with
    | none => some (w, [])
    | some sub =>
      if w.active sub.key ref then
        some (w.setObject ref { sub with seq := sub.seq + 1 }, [.relay ⟨sub.key, ref, data, sub.seq⟩])
      else some (w.setObject ref { sub with fanDone := true }, [])
  | .relay c =>
    match w.objects.get? c.ref with
    | none => some (w, [])
    | some sub =>
      if sub.relay.length < defaultSeveranceThreshold then
        some (w.setObject c.ref { sub with relay := sub.relay ++ [c] }, [])
      else some (w, [.severOwned c.key, .fanReturn c.ref])
  | .surfaceEnded ref =>
    match w.objects.get? ref with
    | none => some (w, [])
    | some sub =>
      some (if w.active sub.key ref then { w with subs := w.subs.delete sub.key } else w,
        [.sendNow sub.key ref, .fanReturn ref])
  | .fanReturn ref =>
    match w.objects.get? ref with
    | none => some (w, [])
    | some sub => some (w.setObject ref { sub with fanDone := true }, [])
  | .forward c =>
    if w.active c.key c.ref then some (w, [.send c])
    else
      match w.objects.get? c.ref with
      | none => some (w, [])
      | some sub => some (w.setObject c.ref { sub with forwardDone := true }, [])
  | .send c =>
    match w.objects.get? c.ref with
    | none => some (w, [])
    | some sub =>
      if w.interactive.length < lifecycleMailboxSize then
        some ({ w with
          interactive := w.interactive ++ [InternalEvent.broadcastSurface c]
          objects := w.objects.set c.ref { sub with backlog := sub.backlog - 1 } }, [])
      else some (w, [.severOwned c.key, .countBacklog c.ref])
  | .countBacklog ref =>
    match w.objects.get? ref with
    | none => some (w, [])
    | some sub =>
      some (w.setObject ref { sub with backlog := sub.backlog + 1 },
        if defaultSeveranceThreshold ≤ sub.backlog + 1 then [.severOwned sub.key, .forwardReturn ref] else [])
  | .forwardReturn ref =>
    match w.objects.get? ref with
    | none => some (w, [])
    | some sub => some (w.setObject ref { sub with forwardDone := true }, [])
  | .writeWire _ => some (w, [])

/-- The idle event loop receives something: a surface event, another event, a new or a closed
connection, or a lifecycle event, which may release subscriptions. -/
def receive (w : World D) : Label D → Option (World D × List Instr)
  | .take =>
    match w.interactive with
    | [] => none
    | ev :: rest => some ({ w with interactive := rest }, [.dispatchInternal ev])
  | .dispatch ev => w.dispatch env draw ev
  | .connOpen =>
    { w with
      nextConn := w.nextConn + 1
      conns := w.conns.set (w.nextConn + 1) [] }.dispatch env draw (.connOpened (w.nextConn + 1))
  | .connClose connID released =>
    (w.dispatch env draw (.connClosed connID)).map fun r =>
      (r.1, released.map Instr.unsubscribeOwned ++ .closeConn connID :: r.2)
  | .lifecycle released => some (w, released.map Instr.unsubscribeOwned)
  | _ => none

/-- `fanOut` receives from its terminal. -/
def fanReceive : Option (World D) :=
  match w.objects.get? ref, w.chans.get? ref with
  | some sub, some c =>
    if sub.fanDone || !(w.todo (.fanOut ref)).isEmpty then none
    else
      match c.buf with
      | .output data :: rest =>
        some ({ w with chans := w.chans.set ref { c with buf := rest } }.setTodo (.fanOut ref) [.number ref data])
      | _ :: rest => some { w with chans := w.chans.set ref { c with buf := rest } }
      | [] => if c.closed then some (w.setTodo (.fanOut ref) [.surfaceEnded ref]) else none
  | _, _ => none

/-- `relayForward` receives from the relay. -/
def forwardReceive : Option (World D) :=
  match w.objects.get? ref with
  | none => none
  | some sub =>
    if sub.forwardDone || !(w.todo (.relayForward ref)).isEmpty then none
    else
      match sub.relay with
      | [] => none
      | c :: rest => some ((w.setObject ref { sub with relay := rest }).setTodo (.relayForward ref) [.forward c])

def apply (w : World D) : Label D → Option (World D)
  | .exec t attach =>
    match w.todo t with
    | [] => none
    | i :: rest => (w.perform env draw attach i).map fun r => r.1.setTodo t (r.2 ++ rest)
  | .effect i key target =>
    if (w.todo (.effect i)).isEmpty && decide (key.connID ≤ w.nextConn) then
      some (w.setTodo (.effect i) [target.elim (.unsubscribeOwned key) fun t => .rebindOwned key t.1 t.2.1 t.2.2])
    else none
  | .fanReceive ref => w.fanReceive ref
  | .fanCancel ref =>
    match w.objects.get? ref with
    | none => none
    | some sub =>
      if sub.cancelled && !sub.fanDone && (w.todo (.fanOut ref)).isEmpty then
        some (w.setObject ref { sub with fanDone := true })
      else none
  | .forwardReceive ref => w.forwardReceive ref
  | .forwardCancel ref =>
    match w.objects.get? ref with
    | none => none
    | some sub =>
      if sub.cancelled && !sub.forwardDone && (w.todo (.relayForward ref)).isEmpty then
        some (w.setObject ref { sub with forwardDone := true })
      else none
  | .start frameID =>
    if (w.terms.get? frameID).isSome then none
    else some { w with terms := w.terms.set frameID {} }
  | .fanout frameID ev =>
    if ((w.terms.get? frameID).any fun term => !term.exited) then some (w.fanout frameID ev)
    else none
  | .exit frameID =>
    if ((w.terms.get? frameID).any fun term => !term.exited) then some (w.handleExit frameID)
    else none
  | .write connID =>
    match w.conns.get? connID with
    | some (_ :: rest) => some { w with conns := w.conns.set connID rest }
    | _ => none
  | a =>
    if (w.todo .loop).isEmpty then (w.receive env draw a).map fun r => r.1.setTodo .loop r.2
    else none

def Step (a : Label D) (w' : World D) : Prop :=
  ∃ draw, w.apply env draw a = some w'

end World

/-- The daemon starts with no connection and no subscription. -/
def World.new {D : Type} (host : State D) : World D := { host := host }

end AgentGrid.Terminal
