import AgentGrid.Terminal.Revisions
import AgentGrid.Terminal.Table

/-!
# The lifecycle of a terminal subscription

A client says which terminal it wants in commands that carry revisions.  The event loop admits a
newer revision, releases the subscription of the one before where that was for another terminal,
and starts a goroutine that opens or closes the subscription; a mutex lets these take turns, in no
order.  Relay, terminals and loop are those of the daemon; what was admitted and how the last
attempt to open a subscription ended is written down beside it.
-/

namespace AgentGrid.Terminal

open AgentGrid.Lib AgentGrid.Host Option

structure CmdLifecycleDesired where
  correlation : PublicCorrelation
  sessionID : SessionID
  subscriberID : SubscriberID := ""
  (cols rows : Nat)
  desired : Bool
  deriving DecidableEq

/-- The subscription that a command over the connection is about. -/
def CmdLifecycleDesired.key (cmd : CmdLifecycleDesired) (connID : ConnID) : SurfaceKey :=
  ⟨connID, cmd.sessionID, cmd.subscriberID⟩

structure LifecycleBinding where
  connID : ConnID
  sessionID : SessionID
  subscriberID : SubscriberID
  correlation : PublicCorrelation
  deriving DecidableEq

def LifecycleBinding.key (b : LifecycleBinding) : SurfaceKey :=
  ⟨b.connID, b.sessionID, b.subscriberID⟩

def lifecycleBindingKey (connID : ConnID) (c : PublicCorrelation) : String :=
  toString connID ++ "/" ++ c.clientInstanceID ++ "/" ++ toString c.connectionGeneration

/-- A goroutine in `runLifecycleEffect`. -/
structure LifecycleEffect where
  connID : ConnID
  cmd : CmdLifecycleDesired
  frameID : FrameID
  /-- The goroutine has got the mutex. -/
  started : Bool := false
  /-- The delays that `rebindLifecycleWithRetry` has still to wait for. -/
  delays : Nat := 3
  /-- The last attempt returned an error. -/
  failed : Bool := false
  deriving DecidableEq

def LifecycleEffect.key (e : LifecycleEffect) : SurfaceKey := e.cmd.key e.connID

def LifecycleEffect.target (e : LifecycleEffect) : Option (FrameID × Nat × Nat) :=
  if e.cmd.desired then some (e.frameID, e.cmd.cols, e.cmd.rows) else none

/-- A command that was admitted, with the connection it came over. -/
structure Admission where
  connID : ConnID
  cmd : CmdLifecycleDesired
  deriving DecidableEq

def Admission.key (a : Admission) : SurfaceKey := a.cmd.key a.connID

def Admission.revision (a : Admission) : Nat := a.cmd.correlation.clientRevision

def Admission.binding (a : Admission) : LifecycleBinding :=
  ⟨a.connID, a.cmd.sessionID, a.cmd.subscriberID, a.cmd.correlation⟩

structure Lifecycle (D : Type) where
  world : World D
  actor : Actor := {}
  bindings : GoMap String LifecycleBinding := ∅
  effects : GoMap Nat LifecycleEffect := ∅
  nextEffect : Nat := 0
  /-- Whether `lifecycleEffectMu` is held. -/
  locked : Bool := false
  /-- The results of effects that the loop has not taken up, each with its error. -/
  results : List (CmdLifecycleDesired × Option String) := []
  /-- The commands admitted so far. -/
  admitted : List Admission := []
  /-- Whether the last attempt to open the subscription of a revision succeeded. -/
  bound : GoMap PublicCorrelation Bool := ∅

inductive LifecycleLabel (D : Type) where
  | desired (connID : ConnID) (cmd : CmdLifecycleDesired) | start (i : Nat) | exec (i : Nat) (attach : Attach)
  | retry (i : Nat) | finish (i : Nat) (err : Option String) | result | deadline (c : PublicCorrelation)
  | expiry (connID : ConnID) (c : PublicCorrelation) | connClose (connID : ConnID) | daemon (a : Label D)

def sizeHintRejectReason (cols rows : Int) : String :=
  if (validateSizeHint cols rows).isNone then ""
  else if decide (cols = 0) != decide (rows = 0) then "asymmetric size hint"
  else if cols < 1 ∨ cols > maxDim then "cols out of range"
  else if rows < 1 ∨ rows > maxDim then "rows out of range"
  else "invalid size hint"

/-- The frame that gets the input of the session. -/
def headFrameOf {D : Type} (s : State D) (sid : SessionID) : Option FrameID :=
  ((s.sessions.get? sid).bind headFrame).map SessionFrame.id

def Label.beside {D : Type} : Label D → Bool
  | .exec (.effect _) _ | .effect _ _ _ | .lifecycle _ | .connClose _ _ => false
  | _ => true

namespace Lifecycle

variable {D : Type}

variable (env : Env D) (draw : Draw) (s : Lifecycle D) (a : Admission) (connID : ConnID)
  (cmd : CmdLifecycleDesired)

/-- The error that `handleLifecycleDesired` answers with, if the command is refused. -/
def refusal : Option (String × String) :=
  let c := cmd.correlation
  if c.clientInstanceID = "" || c.connectionGeneration = 0 || c.clientRevision = 0 || cmd.sessionID = "" then
    some (errCodeInvalidArgument, "lifecycle desired requires public correlation and session")
  else if cmd.desired then
    if cmd.cols = 0 || cmd.rows = 0 then some (errCodeInvalidArgument, "lifecycle desired requires non-zero geometry")
    else if sizeHintRejectReason cmd.cols cmd.rows ≠ "" then
      some (errCodeInvalidArgument, sizeHintRejectReason cmd.cols cmd.rows)
    else
      match s.world.host.sessions.get? cmd.sessionID with
      | none => some (errCodeNotFound, "session not found: " ++ cmd.sessionID)
      | some sess =>
        if (headFrame sess).isNone then some (errCodeFrameNotReady, "frame-not-ready: " ++ cmd.sessionID)
        else if (s.bindings.get? (lifecycleBindingKey connID c)).isNone && decide (8 ≤ s.bindings.entries.length) then
          some (errCodeResourceExhausted, "lifecycle owner cap (8) exceeded")
        else none
  else none

/-- The command with the subscriber id it gets where it names none. -/
def named : CmdLifecycleDesired :=
  if cmd.subscriberID = "" then { cmd with subscriberID := "lifecycle-" ++ toString connID }
  else cmd

def replaced : Option LifecycleBinding :=
  (s.bindings.get? (lifecycleBindingKey a.connID a.cmd.correlation)).filter fun old =>
    old.correlation.clientRevision < a.revision

/-- The subscription that the loop releases for the command: the older one for another target. -/
def released : Option SurfaceKey :=
  ((s.replaced a).filter fun old =>
    old.sessionID ≠ a.cmd.sessionID || old.subscriberID ≠ a.cmd.subscriberID).map LifecycleBinding.key

def rebinding : GoMap String LifecycleBinding :=
  let key := lifecycleBindingKey a.connID a.cmd.correlation
  let kept := if (s.replaced a).isSome then s.bindings.delete key else s.bindings
  if a.cmd.desired then kept.set key a.binding else kept.delete key

/-- The idle loop calls `UnsubscribeOwned`, and closes and releases the subscription afterwards. -/
def unsubscribing (w : World D) : Option SurfaceKey → Option (World D)
  | none => if (w.todo .loop).isEmpty then some w else none
  | some key => (w.apply env draw (.lifecycle [key])).bind fun w => w.apply env draw (.exec .loop .refused)

/-- `handleLifecycleDesired`, of a command that is not refused. -/
def admission : Option (Lifecycle D) :=
  let c := a.cmd.correlation
  let out := s.actor.admitRevision c
  if out.2.status = .rejected || (s.actor.lookup c).isSome then some { s with actor := out.1 }
  else
    (unsubscribing env draw s.world (s.released a)).map fun world =>
      let frameID := if a.cmd.desired then (headFrameOf s.world.host a.cmd.sessionID).getD "" else ""
      { s with
        world := world, actor := (out.1.markWaiting c).1, bindings := s.rebinding a
        effects := s.effects.set s.nextEffect ⟨a.connID, a.cmd, frameID, false, 3, false⟩
        nextEffect := s.nextEffect + 1, admitted := s.admitted ++ [a] }

def handleLifecycleDesired : Option (Lifecycle D) :=
  if (s.world.todo .loop).isEmpty then
    if (s.refusal connID cmd).isSome then some s
    else admission env draw s ⟨connID, named connID cmd⟩
  else none

def attempting (i : Nat) (e : LifecycleEffect) : Option (Lifecycle D) :=
  (s.world.apply env draw (.effect i e.key e.target)).map fun world =>
    { s with world := world, locked := true, effects := s.effects.set i e }

/-- The instruction asks a terminal for a subscriber, and the terminal refuses. -/
def refused (w : World D) (attach : Attach) : List Instr → Bool
  | .subscribeSurface _ frameID _ _ :: _ => (w.subscribeSurface frameID attach).2.isNone
  | _ => false

def handleLifecycleEffectResult (err : Option String) : Lifecycle D :=
  let status : RevisionOutcomeKind := if err.isSome then .degraded else if cmd.desired then .applied else .released
  { s with actor := (s.actor.complete cmd.correlation status 0 0 (err.getD "")).1 }

def handleLifecycleExpiry (c : PublicCorrelation) : Option (Lifecycle D) :=
  if (s.world.todo .loop).isEmpty then
    match s.bindings.get? (lifecycleBindingKey connID c) with
    | none => some s
    | some binding =>
      if binding.correlation.clientRevision ≠ c.clientRevision then some s
      else
        (unsubscribing env draw s.world (some binding.key)).map fun world =>
          { s with
            world := world, bindings := s.bindings.delete (lifecycleBindingKey connID c)
            actor := (s.actor.complete c .released 0 0 "lease_expired").1 }
  else none

/-- The bindings that `releaseLifecycleBindings` finds. -/
def bindingsOf : List (String × LifecycleBinding) :=
  (s.bindings.range draw.toRangeOrder).filter fun e => e.2.connID = connID

def apply : LifecycleLabel D → Option (Lifecycle D)
  | .desired connID cmd => s.handleLifecycleDesired env draw connID cmd
  | .start i =>
    (s.effects.get? i).bind fun e =>
      if e.started || s.locked then none
      else s.attempting env draw i { e with started := true }
  | .exec i attach =>
    (s.effects.get? i).bind fun e =>
      if e.started then
        (s.world.apply env draw (.exec (.effect i) attach)).map fun world =>
          { s with
            world := world, effects := s.effects.set i
              { e with failed := e.failed || refused s.world attach (s.world.todo (.effect i)) } }
      else none
  | .retry i =>
    (s.effects.get? i).bind fun e =>
      if e.started && e.failed && decide (0 < e.delays) then
        s.attempting env draw i { e with failed := false, delays := e.delays - 1 }
      else none
  | .finish i err =>
    (s.effects.get? i).bind fun e =>
      if e.started && (s.world.todo (.effect i)).isEmpty && (!e.failed || err.isSome) then
        some { s with
          locked := false, effects := s.effects.delete i, results := s.results ++ [(e.cmd, err)]
          bound := if e.cmd.desired then s.bound.set e.cmd.correlation !e.failed else s.bound }
      else none
  | .result =>
    match s.world.todo .loop, s.results with
    | [], (cmd, err) :: rest => some ({ s with results := rest }.handleLifecycleEffectResult cmd err)
    | _, _ => none
  | .deadline c =>
    if (s.world.todo .loop).isEmpty then
      some { s with actor := (s.actor.complete c .degraded 0 0 "apply_deadline_exceeded").1 }
    else none
  | .expiry connID c => s.handleLifecycleExpiry env draw connID c
  | .connClose connID =>
    let found := s.bindingsOf draw connID
    (s.world.apply env draw (.connClose connID (found.map fun e => e.2.key))).map fun world =>
      { s with world := world, bindings := found.foldl (fun bindings e => bindings.delete e.1) s.bindings }
  | .daemon a =>
    if a.beside then (s.world.apply env draw a).map fun world => { s with world := world }
    else none

def Step (a : LifecycleLabel D) (s' : Lifecycle D) : Prop :=
  ∃ draw : Draw, draw.Fresh s.world.host ∧ s.apply env draw a = some s'

def new (host : State D) : Lifecycle D := { world := World.new host }

def Quiet : Prop := ∀ i, s.effects.get? i = none

theorem quiet_of_isEmpty {s : Lifecycle D} (none : s.effects.entries.isEmpty = true) : s.Quiet :=
  GoMap.get?_of_entries_nil (List.isEmpty_iff.mp none)

theorem unsubscribing_spec {env : Env D} {draw : Draw} {w w' : World D} {key : Option SurfaceKey}
    (done : unsubscribing env draw w key = some w') :
    w'.host = w.host ∧ (∀ other, w'.subs.get? other = if key = some other then none else w.subs.get? other) ∧
    (∀ i ∈ w'.todo .loop, i.closes = true) ∧ ∀ t, t ≠ .loop → w'.todo t = w.todo t := by
  cases key with
  | none =>
    simp only [unsubscribing, ite_none_right_eq_some, some.injEq, List.isEmpty_iff] at done
    obtain ⟨idle, rfl⟩ := done
    refine ⟨rfl, fun other => ?_, ?_, fun _ _ => rfl⟩
    · simp
    · simp [idle]
  | some key =>
    obtain ⟨mid, took, done⟩ := bind_eq_some_iff.mp done
    obtain ⟨host, free, others, closes, threads⟩ := World.apply_unsubscribe took done
    refine ⟨host, fun other => ?_, closes, threads⟩
    by_cases same : key = other
    · subst same
      rw [if_pos rfl, free]
    · rw [if_neg (by simpa using same), others other (Ne.symm same)]

/-! ## Replay -/

/-- A command of revision `n`. -/
def command (n : Nat) (subscriberID : SubscriberID) (desired : Bool) : CmdLifecycleDesired :=
  ⟨⟨"w", 1, n⟩, "a", subscriberID, 80, 24, desired⟩

/-- Take a step with the identifiers that the character stands for. -/
def attempt (s : Lifecycle Unit) (input : Char × LifecycleLabel Unit) :
    Option (Lifecycle Unit × LifecycleLabel Unit) :=
  if s.world.host.avoids input.1 then (s.apply Env.inert (Draw.tagged input.1) input.2).map (·, input.2)
  else none

theorem attempt_step {s s' : Lifecycle Unit} {input : Char × LifecycleLabel Unit}
    {a : LifecycleLabel Unit} (taken : attempt s input = some (s', a)) : Step Env.inert s a s' := by
  simp only [attempt, ite_none_right_eq_some, map_eq_some_iff, Prod.mk.injEq] at taken
  obtain ⟨unused, next, applied, rfl, rfl⟩ := taken
  exact ⟨_, Draw.tagged_fresh unused, applied⟩

theorem attempt_run {s s' : Lifecycle Unit} {inputs : List (Char × LifecycleLabel Unit)}
    {labels : List (LifecycleLabel Unit)} (driven : drive attempt s inputs = some (s', labels)) :
    Run (Step Env.inert) s labels s' := by
  refine drive_run ?_ driven
  intro s input s' a taken
  exact attempt_step taken

/-- A client connects and creates a session, whose terminal starts. -/
def connecting : List (Char × LifecycleLabel Unit) :=
  [('b', .daemon .connOpen), ('a', .daemon (.dispatch
      (.event 1 "q" (.createSession (.ok { project := "p", command := "x" }))))),
    ('b', .daemon (.start "aa"))]

def running (i instrs : Nat) : List (Char × LifecycleLabel Unit) :=
  ('b', .start i) :: List.replicate instrs ('b', .exec i (.snapshot [0])) ++ [('b', .finish i none)]

end Lifecycle

end AgentGrid.Terminal
