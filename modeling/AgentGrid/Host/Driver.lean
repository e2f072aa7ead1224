import AgentGrid.Host.Effect

/-!
# Drivers

The interface between the reducer and the drivers it is given, and the registry
that resolves a command to its driver.  A driver is a record of functions; the
optional interfaces of the source are optional fields.  Everything proved about
the reducer holds for every registry unless a statement says otherwise.
-/

namespace AgentGrid.Host

structure FrameContext where
  id : FrameID
  (project command : String)
  launchOptions : LaunchOptions
  createdAt : Time
  isRoot : Bool

inductive SubsystemKind where
  | cli | stream | other (source : String)
  deriving DecidableEq

inductive SubsystemEventKind where
  | sessionReady | failed | promptSubmitted | turnStarted | turnCompleted | toolStarted | toolCompleted
  | approvalRequested | approvalResolved | questionRequested | questionResolved | planUpdated | diffUpdated
  | messageUpdated | titleUpdated | metadataUpdated | other (kind : String)
  deriving DecidableEq

structure SubsystemApproval where
  id : String
  (kind command path reason : String := "")
  (autoApprove resolved denied : Bool := false)
  deriving DecidableEq

structure SubsystemQuestion where
  id : String
  (prompt answer : String := "")
  deriving DecidableEq

/-- A subsystem payload; `rest` holds the fields only drivers read. -/
structure SubsystemPayload (D : Type) where
  targetID : String := ""
  approval : Option SubsystemApproval := none
  question : Option SubsystemQuestion := none
  rest : D

inductive TerminalSignalKind where
  | unknown | windowTitle | notification | progress | bell
  deriving DecidableEq

inductive PromptPhase where
  | none | start | input | command | complete
  deriving DecidableEq

/-- The events the reducer hands to a driver's `Step`. -/
inductive DriverEvent (D : Type) where
  | hook (event : String) (timestamp : Time) (roostSessionID : String) (payload : String)
  | subsystem (source : SubsystemKind) (kind : SubsystemEventKind) (timestamp : Time)
      (payload : SubsystemPayload D)
  | tick (now : Time) (watched : Bool) (project : String) (n : UInt64) (seq : Nat)
  | jobResult (result : JobResult D) (err : Option String) (now : Time) | fileChanged (path : String)
  | frameOsc (cmd : Int) (kind : TerminalSignalKind) (title body : String)
      (progressState progressValue : Int) (now : Time)
  | framePrompt (phase : PromptPhase) (exitCode : Option Int) (now : Time)
  | worktreeResolved (startDir name : String) | commandExited (exitCode : Int) (timestamp : Time)

inductive Status where
  | running | waiting | idle | stopped | pending
  deriving DecidableEq

structure Forkable (D : Type) where
  forkCommand : DriverState D → String → Option String
  forkChildState : DriverState D → Time → DriverState D

structure StartDirAware (D : Type) where
  startDir : DriverState D → String
  withStartDir : DriverState D → String → DriverState D

/-- A driver plugin, with its optional capabilities. -/
structure Driver (D : Type) where
  name : String
  newState : Time → DriverState D
  step : DriverState D → FrameContext → DriverEvent D → DriverState D × List (Effect D)
  status : DriverState D → Status
  /-- `PrepareLaunch` in create mode, the only mode the reducer asks for. -/
  prepareLaunch : DriverState D → (project baseCommand : String) → LaunchOptions → Except String (LaunchPlan D)
  prepareCreate : Option (DriverState D → SessionID → (project command : String) →
    LaunchOptions → Except String (DriverState D × CreateLaunch)) := none
  forkable : Option (Forkable D) := none
  withForkSessionID : Option (DriverState D → SessionID → DriverState D) := none
  bootstrapSessionStart : Option (DriverState D → FrameContext → Time → DriverState D × List (Effect D)) := none
  startDirAware : Option (StartDirAware D) := none
  capsuleTurns : Option (DriverState D → List CapsuleTurn) := none

/-- What is fixed while the daemon runs: the driver registry, its default factory, and SHA-256
in hexadecimal. -/
structure Env (D : Type) where
  registry : String → Option (Driver D)
  defaultFactory : Option (String → Option (Driver D)) := none
  sha256Hex : List UInt8 → String

variable {D : Type}

/-- `FirstToken`: the command up to its first blank or tab. -/
def firstToken (command : String) : String :=
  String.ofList (command.toList.takeWhile fun c => c != ' ' && c != '\t')

def Env.getDriver (env : Env D) (command : String) : Option (Driver D) :=
  match env.registry (firstToken command) with
  | some drv => some drv
  | none =>
    match env.defaultFactory with
    | some factory => factory command
    | none => env.registry ""

/-- An effect that some driver of the registry returns from `Step` or from its bootstrap. -/
inductive Env.Emits (env : Env D) : Effect D → Prop where
  | step {command : String} {drv : Driver D} {ds : DriverState D} {ctx : FrameContext}
      {ev : DriverEvent D} {eff : Effect D} :
      env.getDriver command = some drv → eff ∈ (drv.step ds ctx ev).2 → env.Emits eff
  | bootstrap {command : String} {drv : Driver D}
      {boot : DriverState D → FrameContext → Time → DriverState D × List (Effect D)}
      {ds : DriverState D} {ctx : FrameContext} {now : Time} {eff : Effect D} :
      env.getDriver command = some drv → drv.bootstrapSessionStart = some boot →
        eff ∈ (boot ds ctx now).2 → env.Emits eff

/-- A driver that keeps its state and asks for nothing. -/
def Driver.inert (plan : LaunchPlan D) (state : D) : Driver D where
  name := "inert"
  newState _ := some state
  step ds _ _ := (ds, [])
  status _ := .idle
  prepareLaunch _ _ _ _ := .ok plan

/-- The registry whose only driver, the fallback, is inert. -/
def Env.inert : Env Unit where
  registry name := if name = "" then some (Driver.inert ⟨"", {}, ()⟩ ()) else none
  sha256Hex _ := ""

theorem Env.inert_emits {eff : Effect Unit} : ¬ Env.inert.Emits eff := by
  have only : ∀ {command drv}, Env.inert.getDriver command = some drv → drv = Driver.inert ⟨"", {}, ()⟩ () := by
    intro command drv found
    unfold Env.getDriver Env.inert at found
    by_cases blank : firstToken command = ""
    all_goals simpa [blank] using found.symm
  intro emitted
  cases emitted with
  | step found mem =>
    rw [only found] at mem
    cases mem
  | bootstrap found boot =>
    rw [only found] at boot
    cases boot

end AgentGrid.Host
