import AgentGrid.Host.Reduce

/-!
# The vocabulary of the terminal relay

A browser's subscription to a terminal is served by two goroutines.  One reads the events of
the terminal and numbers its output, the other hands the chunks to the event loop, which queues
them for the browser's connection.  Between them are bounded buffers.  A subscription is named by
its terminal and the subscriber id that the terminal gave it; a terminal gives no id twice.
-/

namespace AgentGrid.Terminal

open AgentGrid.Lib AgentGrid.Host

abbrev Bytes := List UInt8

/-- `surfaceKey`, and `SubscriptionKey`. -/
structure SurfaceKey where
  connID : ConnID
  sessionID : SessionID
  subscriberID : SubscriberID
  deriving DecidableEq

structure Ref where
  frameID : FrameID
  subID : Nat
  deriving DecidableEq

/-- `termvt.Event`. -/
inductive TermEvent where
  | output (data : Bytes) | control | exit
  deriving DecidableEq

/-- `internalBroadcastSurface`. -/
structure Chunk where
  key : SurfaceKey
  ref : Ref
  data : Bytes
  sequence : Nat
  deriving DecidableEq

/-- The events of the loop's interactive lane that concern surfaces. -/
inductive InternalEvent where
  | broadcastSurface (chunk : Chunk) | surfaceClosed (key : SurfaceKey) (ref : Ref)
  deriving DecidableEq

/-- A message to a client on the interactive lane of its connection. -/
inductive Wire where
  | chunk (chunk : Chunk) | unsubscribed (sessionID : SessionID) (subscriberID : SubscriberID)
  | surfaceOutput (sessionID : SessionID) (subscriberID : SubscriberID) (data : Bytes)
  | promptEvent (frameID : FrameID) (phase : String) (exitCode : Int)
  deriving DecidableEq

/-- `lifecycleMailboxSize`, the buffer of `internalChInteractive`. -/
def lifecycleMailboxSize : Nat := 16

/-- The buffer of `outboxInteractive`. -/
def ipcOutboxLaneSize : Nat := 32

/-- The buffer of the relay of a subscription, and the backlog at which it is severed. -/
def defaultSeveranceThreshold : Nat := 64

/-- `subBuffer`, the buffer of a subscriber of a terminal. -/
def subBuffer : Nat := 256

/-- The channel of a subscriber of a terminal.  The terminal closes it when it drops the
subscriber. -/
structure Chan where
  buf : List TermEvent
  closed : Bool := false

/-- A terminal, `termvt.Session`. -/
structure Term where
  nextID : Nat := 0
  exited : Bool := false

/-- `surfaceSub`, with what its two goroutines remember. -/
structure SurfaceSub where
  key : SurfaceKey
  (cols rows : Nat)
  cancelled : Bool := false
  seq : Nat := 0
  relay : List Chunk := []
  /-- The count of failed sends in `relayForward`. -/
  backlog : Nat := 0
  (fanDone forwardDone : Bool := false)

inductive Instr where
  | subscribeOwned (key : SurfaceKey) (frameID : FrameID) (cols rows : Nat)
  | subscribeSurface (key : SurfaceKey) (frameID : FrameID) (cols rows : Nat)
  | install (key : SurfaceKey) (ref : Ref) (cols rows : Nat)
  | rebindOwned (key : SurfaceKey) (frameID : FrameID) (cols rows : Nat) | unsubscribeOwned (key : SurfaceKey)
  | severOwned (key : SurfaceKey) | cancel (ref : Ref) | release (ref : Ref)
  | sendNow (key : SurfaceKey) (ref : Ref) | dispatchInternal (ev : InternalEvent)
  | queueWireToConn (connID : ConnID) (wire : Wire) (sub : SurfaceKey)
  | pushUnsubscribed (connID : ConnID) (sessionID : SessionID) (subscriberID : SubscriberID)
  | closeConn (connID : ConnID) | number (ref : Ref) (data : Bytes) | relay (chunk : Chunk)
  | surfaceEnded (ref : Ref) | fanReturn (ref : Ref) | forward (chunk : Chunk) | send (chunk : Chunk)
  | countBacklog (ref : Ref) | forwardReturn (ref : Ref)
  /-- The loop itself writes a reply to the socket. -/
  | writeWire (connID : ConnID)
  deriving DecidableEq

/-- The goroutines: the event loop, the lifecycle effects, and two for each subscription. -/
inductive Thread where
  | loop | effect (i : Nat) | fanOut (ref : Ref) | relayForward (ref : Ref)
  deriving DecidableEq

structure World (D : Type) where
  host : State D
  nextConn : ConnID := 0
  /-- The interactive lanes of the connections that are not shut. -/
  conns : GoMap ConnID (List Wire) := ∅
  /-- `internalChInteractive`. -/
  interactive : List InternalEvent := []
  /-- The table of the relay. -/
  subs : GoMap SurfaceKey Ref := ∅
  objects : GoMap Ref SurfaceSub := ∅
  terms : GoMap FrameID Term := ∅
  chans : GoMap Ref Chan := ∅
  threads : GoMap Thread (List Instr) := ∅

end AgentGrid.Terminal
