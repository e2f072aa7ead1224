import AgentGrid.Host.Types
import AgentGrid.Lib.Run

/-!
# Spawning and reaping backends

All frames of a session share one backend.  A spawn gets it from the factory in its own goroutine
and binds its frame; the event loop registers the frame when the spawn completes.  The release of
the last registered frame reaps the backend, and a goroutine then removes it from the factory and
stops it.  A frame that a cold start restores is bound and never registered.  Goroutines, loop and
locked sections of the factory interleave.
-/

namespace AgentGrid.Stream.Reaping

open AgentGrid.Lib AgentGrid.Host List Option GoMap

/-- How far a spawn has come; a backend is named by the number of its creation. -/
inductive Stage where
  | waiting | starting (backend : Nat) | ensured (backend : Nat) | bound (backend : Nat)
  deriving DecidableEq

def Stage.backend : Stage → Option Nat
  | .waiting => none
  | .starting backend | .ensured backend | .bound backend => some backend

/-- A goroutine of `spawnFrameWindow`. -/
structure Spawn where
  sessionID : SessionID
  stage : Stage := .waiting
  deriving DecidableEq

def makeID (sessionID : SessionID) : SubsystemID := "stream:session:" ++ sessionID

/-- The frames of the loop's state, the spawns in flight, the factory, and the loop's tables. -/
structure System where
  frames : GoMap FrameID SessionID := ∅
  spawns : GoMap FrameID Spawn := ∅
  /-- The factory's `backends`. -/
  backends : GoMap SubsystemID Nat := ∅
  created : Nat := 0
  /-- The frames bound to a backend, by `BindFrame` and until `ReleaseFrame`. -/
  bindings : GoMap FrameID Nat := ∅
  frameSubsystems : GoMap FrameID Nat := ∅
  frameSubsystemIDs : GoMap FrameID SubsystemID := ∅
  /-- The goroutines that are to `Remove` a backend. -/
  removals : List SubsystemID := []
  /-- The goroutines of `discardSpawnResult` that are to release a frame. -/
  discarded : List FrameID := []
  stopped : List Nat := []

inductive Label where
  | spawn (frameID : FrameID) (sessionID : SessionID) | ensure (frameID : FrameID)
  | started (frameID : FrameID) | startFailed (frameID : FrameID) | bindFrame (frameID : FrameID)
  | fail (frameID : FrameID) | handleSpawnComplete (frameID : FrameID) | leave (frameID : FrameID)
  | releaseFrame (frameID : FrameID) | releaseDiscarded (frameID : FrameID) | remove (subsystemID : SubsystemID)
  deriving DecidableEq

namespace System

variable (s : System)

def advance (f : FrameID) (spawn : Spawn) (stage : Stage) : System :=
  { s with spawns := s.spawns.set f { spawn with stage := stage } }

/-- `Ensure`: the backend of the session, or a new one. -/
def ensure (f : FrameID) (spawn : Spawn) : System :=
  (s.backends.get? (makeID spawn.sessionID)).elim (advance
      { s with backends := s.backends.set (makeID spawn.sessionID) s.created, created := s.created + 1 }
      f spawn (.starting s.created))
    fun backend => s.advance f spawn (.ensured backend)

def reapSubsystemIfLast (f : FrameID) : System :=
  match s.frameSubsystemIDs.get? f with
  | none => s
  | some id =>
    let ids := s.frameSubsystemIDs.delete f
    { s with
      frameSubsystemIDs := ids
      removals := if ids.entries.any fun e => e.2 == id then s.removals else s.removals ++ [id] }

/-- `releaseFrameSubsystem`. -/
def releaseFrame (f : FrameID) : System :=
  if (s.frameSubsystems.get? f).isSome then
    reapSubsystemIfLast { s with bindings := s.bindings.delete f, frameSubsystems := s.frameSubsystems.delete f } f
  else s

def remove (id : SubsystemID) : System :=
  { s with
    backends := s.backends.delete id, removals := s.removals.erase id
    stopped := s.stopped ++ (s.backends.get? id).toList }

/-- `handleSpawnComplete`, and `discardSpawnResult` where the frame is gone: a goroutine releases it
later. -/
def handleSpawnComplete (f : FrameID) (spawn : Spawn) (backend : Nat) : System :=
  if (s.frames.get? f).isSome then
    { s with
      spawns := s.spawns.delete f, frameSubsystems := s.frameSubsystems.set f backend
      frameSubsystemIDs := s.frameSubsystemIDs.set f (makeID spawn.sessionID) }
  else { s with spawns := s.spawns.delete f, discarded := f :: s.discarded }

def apply : Label → Option System
  | .spawn f sid =>
    if (s.frames.get? f).isNone && (s.spawns.get? f).isNone && (s.frameSubsystems.get? f).isNone &&
        (s.bindings.get? f).isNone && decide (f ∉ s.discarded) then
      some { s with frames := s.frames.set f sid, spawns := s.spawns.set f { sessionID := sid } }
    else none
  | .ensure f => (s.spawns.get? f).bind fun spawn => if spawn.stage = .waiting then some (s.ensure f spawn) else none
  | .started f =>
    (s.spawns.get? f).bind fun spawn =>
      match spawn.stage with
      | .starting backend => some (s.advance f spawn (.ensured backend))
      | _ => none
  | .startFailed f =>
    (s.spawns.get? f).bind fun spawn =>
      match spawn.stage with
      | .starting _ =>
        some { s with backends := s.backends.delete (makeID spawn.sessionID), spawns := s.spawns.delete f }
      | _ => none
  | .bindFrame f =>
    (s.spawns.get? f).bind fun spawn =>
      match spawn.stage with
      | .ensured backend => some (advance { s with bindings := s.bindings.set f backend } f spawn (.bound backend))
      | _ => none
  | .fail f => (s.spawns.get? f).map fun _ => { s with spawns := s.spawns.delete f, bindings := s.bindings.delete f }
  | .handleSpawnComplete f =>
    (s.spawns.get? f).bind fun spawn =>
      match spawn.stage with
      | .bound backend => some (s.handleSpawnComplete f spawn backend)
      | _ => none
  | .leave f => some { s with frames := s.frames.delete f }
  | .releaseFrame f => some (s.releaseFrame f)
  | .releaseDiscarded f =>
    if f ∈ s.discarded then some { s with bindings := s.bindings.delete f, discarded := s.discarded.erase f }
    else none
  | .remove id => if id ∈ s.removals then some (s.remove id) else none

/-- How far the launch of a restored frame comes: not to a backend, to one that it is released from
again because the launch fails, or to the end. -/
inductive Launch where
  | skipped | released | launched
  deriving DecidableEq

/-- A frame that is restored before the event loop runs. -/
structure Restored where
  frameID : FrameID
  sessionID : SessionID
  launch : Launch

/-- `spawnFrameWindow` of a cold start. -/
def coldStart (e : Restored) : System :=
  let id := makeID e.sessionID
  let backend := (s.backends.get? id).getD s.created
  let s := { s with frames := s.frames.set e.frameID e.sessionID }
  let s := if e.launch = .skipped ∨ (s.backends.get? id).isSome then s
    else { s with backends := s.backends.set id s.created, created := s.created + 1 }
  if e.launch = .launched then { s with
    bindings := s.bindings.set e.frameID backend, frameSubsystems := s.frameSubsystems.set e.frameID backend }
  else s

/-- The system when the event loop starts. -/
def start (restored : List Restored) : System := restored.foldl coldStart {}

def Step (s : System) (a : Label) (s' : System) : Prop := s.apply a = some s'

/-- Nobody has or uses the backend: no spawn in flight has obtained it, no frame has it. -/
structure Unused (inFlight : GoMap FrameID Spawn) (owned : GoMap FrameID Nat) (backend : Nat) : Prop where
  spawns : ∀ f spawn, inFlight.get? f = some spawn → spawn.stage.backend ≠ some backend
  owners : ∀ f, owned.get? f ≠ some backend

structure Sound (s : System) : Prop where
  numbered : ∀ id b, s.backends.get? id = some b → b < s.created
  distinct : ∀ id id' b, s.backends.get? id = some b → s.backends.get? id' = some b → id = id'
  obtained : ∀ f spawn b, s.spawns.get? f = some spawn → spawn.stage.backend = some b →
    b < s.created ∧ ∀ id, s.backends.get? id = some b → id = makeID spawn.sessionID
  owned : ∀ f b, s.frameSubsystems.get? f = some b → b < s.created ∧
    ∀ id, s.backends.get? id = some b → ∀ id', s.frameSubsystemIDs.get? f = some id' → id = id'
  bound : ∀ f b, s.bindings.get? f = some b → s.frameSubsystems.get? f = some b ∨
      (∃ spawn, s.spawns.get? f = some spawn ∧ spawn.stage = .bound b) ∨ f ∈ s.discarded
  apart : ∀ f spawn, s.spawns.get? f = some spawn → s.frameSubsystems.get? f = none
  idle : ∀ id ∈ s.removals, ∀ b, s.backends.get? id = some b → Unused s.spawns s.frameSubsystems b
  halted : ∀ b ∈ s.stopped, b < s.created ∧ (∀ id, s.backends.get? id ≠ some b) ∧
    Unused s.spawns s.frameSubsystems b
  gone : ∀ f ∈ s.discarded, s.frames.get? f = none

/-- No frame is registered with the backend of the session but the given one. -/
def LastOf (s : System) (f : FrameID) (id : SubsystemID) : Prop :=
  ∀ g, s.frameSubsystemIDs.get? g = some id → g = f

/-- The release of the last registered frame finds no spawn in flight with the backend and no
restored frame on it, and no spawn asks for a backend that is about to be removed. -/
def Quiet (s : System) : Label → Prop
  | .releaseFrame f => ∀ id, s.frameSubsystemIDs.get? f = some id → s.LastOf f id →
      ∀ b, s.backends.get? id = some b →
        (∀ g spawn, s.spawns.get? g = some spawn → spawn.stage.backend ≠ some b) ∧
        ∀ g, s.frameSubsystems.get? g = some b → s.frameSubsystemIDs.get? g ≠ none
  | .ensure f => ∀ spawn, s.spawns.get? f = some spawn → makeID spawn.sessionID ∉ s.removals
  | _ => True

def QuietStep (s : System) (a : Label) (s' : System) : Prop := Step s a s' ∧ s.Quiet a

variable {s s' : System} {f : FrameID} {spawn : Spawn}

namespace Sound

theorem new : Sound {} := by
  refine ⟨nofun, nofun, nofun, nofun, nofun, nofun, ?_, ?_, ?_⟩
  · rintro id ⟨⟩
  · rintro b ⟨⟩
  · rintro f ⟨⟩

section

variable (sound : s.Sound)

include sound

theorem unbound {b : Nat} (unused : Unused s.spawns s.frameSubsystems b) {sid : SessionID}
    (there : s.frames.get? f = some sid) : s.bindings.get? f ≠ some b := by
  intro bound
  rcases sound.bound f b bound with owned | ⟨spawn, inFlight, stage⟩ | discarded
  · exact unused.owners f owned
  · refine unused.spawns f spawn inFlight ?_
    rw [stage]
    rfl
  · rw [sound.gone f discarded] at there
    cases there

theorem put (early : ∀ old b, s.spawns.get? f = some old → old.stage ≠ .bound b)
    (unregistered : s.frameSubsystems.get? f = none) (known : ∀ b, spawn.stage.backend = some b → b < s.created ∧
      (∀ id, s.backends.get? id = some b → id = makeID spawn.sessionID) ∧
      (∀ id ∈ s.removals, s.backends.get? id ≠ some b) ∧ b ∉ s.stopped) :
    Sound { s with spawns := s.spawns.set f spawn } := by
  have unused : ∀ b, Unused s.spawns s.frameSubsystems b → spawn.stage.backend ≠ some b →
      Unused (s.spawns.set f spawn) s.frameSubsystems b := by
    intro b unused other
    refine ⟨fun g spawn' found => ?_, unused.owners⟩
    rcases get?_of_set found with ⟨-, rfl⟩ | found
    · exact other
    · exact unused.spawns g spawn' found
  refine ⟨sound.numbered, sound.distinct, ?_, sound.owned, ?_, ?_, ?_, ?_, sound.gone⟩
  · intro g spawn' b found held
    rcases get?_of_set found with ⟨-, rfl⟩ | found
    · exact ⟨(known b held).1, (known b held).2.1⟩
    · exact sound.obtained g spawn' b found held
  · intro g b bound
    rcases sound.bound g b bound with enrolled | ⟨spawn', found, bound'⟩ | discarded
    · exact .inl enrolled
    · by_cases same : g = f
      · subst same
        exact absurd bound' (early spawn' b found)
      · exact .inr (.inl ⟨spawn', (get?_set_of_ne _ same _).trans found, bound'⟩)
    · exact .inr (.inr discarded)
  · intro g spawn' found
    rcases get?_of_set found with ⟨here, -⟩ | found
    · exact here ▸ unregistered
    · exact sound.apart g spawn' found
  · intro id mem b found
    exact unused b (sound.idle id mem b found) fun held => (known b held).2.2.1 id mem found
  · intro b mem
    obtain ⟨below, absent, unusedBefore⟩ := sound.halted b mem
    exact ⟨below, absent, unused b unusedBefore fun held => (known b held).2.2.2 mem⟩

theorem known (inFlight : s.spawns.get? f = some spawn) {b : Nat} (held : spawn.stage.backend = some b) :
    b < s.created ∧ (∀ id, s.backends.get? id = some b → id = makeID spawn.sessionID) ∧
      (∀ id ∈ s.removals, s.backends.get? id ≠ some b) ∧ b ∉ s.stopped :=
  ⟨(sound.obtained f spawn b inFlight held).1, (sound.obtained f spawn b inFlight held).2,
    fun id mem found => (sound.idle id mem b found).spawns f spawn inFlight held,
    fun mem => (sound.halted b mem).2.2.spawns f spawn inFlight held⟩

theorem rebind {frames : GoMap FrameID SessionID} {bindings : GoMap FrameID Nat} {discarded : List FrameID}
    (bound : ∀ f b, bindings.get? f = some b → s.frameSubsystems.get? f = some b ∨
        (∃ spawn, s.spawns.get? f = some spawn ∧ spawn.stage = .bound b) ∨ f ∈ discarded)
    (gone : ∀ f ∈ discarded, frames.get? f = none) :
    Sound { s with frames := frames, bindings := bindings, discarded := discarded } :=
  ⟨sound.numbered, sound.distinct, sound.obtained, sound.owned, bound, sound.apart, sound.idle, sound.halted, gone⟩

theorem frames {frames : GoMap FrameID SessionID}
    (gone : ∀ f ∈ s.discarded, frames.get? f = none) : Sound { s with frames := frames } :=
  sound.rebind sound.bound gone

theorem retire {bindings : GoMap FrameID Nat}
    (released : ∀ g b, bindings.get? g = some b → s.bindings.get? g = some b ∧ (g = f → f ∈ s.discarded ∨
        ∀ spawn, s.spawns.get? g = some spawn → spawn.stage ≠ .bound b)) :
    Sound { s with spawns := s.spawns.delete f, bindings := bindings } := by
  have left : ∀ {g spawn}, (s.spawns.delete f).get? g = some spawn → s.spawns.get? g = some spawn :=
    fun found => (get?_of_delete found).2
  have unused : ∀ b, Unused s.spawns s.frameSubsystems b → Unused (s.spawns.delete f) s.frameSubsystems b :=
    fun b unused => ⟨fun g spawn found => unused.spawns g spawn (left found), unused.owners⟩
  refine ⟨sound.numbered, sound.distinct, ?_, sound.owned, ?_,
    fun g spawn found => sound.apart g spawn (left found), ?_, ?_, sound.gone⟩
  · intro g spawn b found held
    exact sound.obtained g spawn b (left found) held
  · intro g b bound
    obtain ⟨before, early⟩ := released g b bound
    rcases sound.bound g b before with enrolled | ⟨spawn, found, stage⟩ | discarded
    · exact .inl enrolled
    · by_cases same : g = f
      · rcases early same with discarded | unbound
        · exact .inr (.inr (same ▸ discarded))
        · exact absurd stage (unbound spawn found)
      · exact .inr (.inl ⟨spawn, (get?_delete_of_ne _ same).trans found, stage⟩)
    · exact .inr (.inr discarded)
  · intro id mem b found
    exact unused b (sound.idle id mem b found)
  · intro b mem
    obtain ⟨below, absent, before⟩ := sound.halted b mem
    exact ⟨below, absent, unused b before⟩

theorem fail : Sound { s with spawns := s.spawns.delete f, bindings := s.bindings.delete f } := by
  refine sound.retire fun g b found => ?_
  obtain ⟨other, found⟩ := get?_of_delete found
  exact ⟨found, fun same => absurd same other⟩

theorem discard (gone : s.frames.get? f = none) :
    Sound { s with discarded := f :: s.discarded } := by
  refine sound.rebind ?_ (forall_mem_cons.mpr ⟨gone, sound.gone⟩)
  intro g b bound
  rcases sound.bound g b bound with enrolled | inFlight | discarded
  · exact .inl enrolled
  · exact .inr (.inl inFlight)
  · exact .inr (.inr (mem_cons_of_mem f discarded))

theorem releaseDiscarded :
    Sound { s with bindings := s.bindings.delete f, discarded := s.discarded.erase f } := by
  refine sound.rebind ?_ fun g mem => sound.gone g (mem_of_mem_erase mem)
  intro g b bound
  obtain ⟨other, bound⟩ := get?_of_delete bound
  rcases sound.bound g b bound with enrolled | inFlight | discarded
  · exact .inl enrolled
  · exact .inr (.inl inFlight)
  · exact .inr (.inr ((mem_erase_of_ne other).mpr discarded))

theorem forget (id : SubsystemID) : Sound { s with backends := s.backends.delete id } := by
  have left : ∀ {k b}, (s.backends.delete id).get? k = some b → s.backends.get? k = some b :=
    fun found => (get?_of_delete found).2
  refine ⟨fun k b found => sound.numbered k b (left found),
    fun k k' b found found' => sound.distinct k k' b (left found) (left found'), ?_, ?_,
    sound.bound, sound.apart, fun k mem b found => sound.idle k mem b (left found), ?_, sound.gone⟩
  · intro g spawn b found held
    obtain ⟨below, own⟩ := sound.obtained g spawn b found held
    exact ⟨below, fun k there => own k (left there)⟩
  · intro g b found
    obtain ⟨below, own⟩ := sound.owned g b found
    exact ⟨below, fun k there => own k (left there)⟩
  · intro b mem
    obtain ⟨below, absent, unused⟩ := sound.halted b mem
    exact ⟨below, fun k there => absent k (left there), unused⟩

theorem create (id : SubsystemID) (kept : id ∉ s.removals) :
    Sound { s with backends := s.backends.set id s.created, created := s.created + 1 } := by
  have older : ∀ {k b}, (s.backends.set id s.created).get? k = some b → b < s.created →
      s.backends.get? k = some b := by
    intro k b found below
    rcases get?_of_set found with ⟨-, rfl⟩ | found
    · exact absurd below (Nat.lt_irrefl _)
    · exact found
  refine ⟨?_, ?_, ?_, ?_, sound.bound, sound.apart, ?_, ?_, sound.gone⟩
  · intro k b found
    rcases get?_of_set found with ⟨-, rfl⟩ | found
    · exact Nat.lt_succ_self _
    · exact Nat.lt_succ_of_lt (sound.numbered k b found)
  · intro k k' b found found'
    rcases get?_of_set found with ⟨here, rfl⟩ | found
    · rcases get?_of_set found' with ⟨here', -⟩ | found'
      · exact here.trans here'.symm
      · exact absurd (sound.numbered k' _ found') (Nat.lt_irrefl _)
    rcases get?_of_set found' with ⟨-, rfl⟩ | found'
    · exact absurd (sound.numbered k _ found) (Nat.lt_irrefl _)
    · exact sound.distinct k k' b found found'
  · intro g spawn b found held
    obtain ⟨below, own⟩ := sound.obtained g spawn b found held
    exact ⟨Nat.lt_succ_of_lt below, fun k there => own k (older there below)⟩
  · intro g b found
    obtain ⟨below, own⟩ := sound.owned g b found
    exact ⟨Nat.lt_succ_of_lt below, fun k there => own k (older there below)⟩
  · intro k mem b found
    rcases get?_of_set found with ⟨here, -⟩ | found
    · exact absurd (here ▸ mem) kept
    · exact sound.idle k mem b found
  · intro b mem
    obtain ⟨below, absent, unused⟩ := sound.halted b mem
    exact ⟨Nat.lt_succ_of_lt below, fun k there => absent k (older there below), unused⟩

section

variable (inFlight : s.spawns.get? f = some spawn)

include inFlight

theorem ensure (waiting : spawn.stage = .waiting) (kept : makeID spawn.sessionID ∉ s.removals) :
    (s.ensure f spawn).Sound := by
  have early : ∀ old b, s.spawns.get? f = some old → old.stage ≠ .bound b := by
    intro old b found
    cases inFlight.symm.trans found
    simp [waiting]
  unfold System.ensure
  cases there : s.backends.get? (makeID spawn.sessionID) with
  | none =>
    refine (sound.create _ kept).put early (sound.apart f spawn inFlight) ?_
    rintro b ⟨⟩
    refine ⟨Nat.lt_succ_self _, ?_, ?_, ?_⟩
    · intro id found
      rcases get?_of_set found with ⟨here, -⟩ | found
      · exact here
      · exact absurd (sound.numbered id _ found) (Nat.lt_irrefl _)
    · intro id mem found
      rcases get?_of_set found with ⟨here, -⟩ | found
      · exact kept (here ▸ mem)
      · exact absurd (sound.numbered id _ found) (Nat.lt_irrefl _)
    · intro mem
      exact absurd (sound.halted _ mem).1 (Nat.lt_irrefl _)
  | some =>
    refine sound.put early (sound.apart f spawn inFlight) ?_
    rintro b ⟨⟩
    refine ⟨sound.numbered _ _ there, fun id found => sound.distinct id _ _ found there, ?_, ?_⟩
    · intro id mem found
      exact kept (sound.distinct id _ _ found there ▸ mem)
    · intro mem
      exact (sound.halted _ mem).2.1 _ there

theorem advance {stage : Stage} (early : ∀ b, spawn.stage ≠ .bound b) (same : stage.backend = spawn.stage.backend) :
    (s.advance f spawn stage).Sound := by
  refine sound.put ?_ (sound.apart f spawn inFlight) fun b held => sound.known inFlight (same ▸ held)
  intro old b found
  cases inFlight.symm.trans found
  exact early b

theorem bindFrame {b : Nat}
    (stage : spawn.stage = .bound b) : Sound { s with bindings := s.bindings.set f b } := by
  refine sound.rebind ?_ sound.gone
  intro g b' bound
  rcases get?_of_set bound with ⟨here, rfl⟩ | bound
  · exact .inr (.inl ⟨spawn, here ▸ inFlight, stage⟩)
  · exact sound.bound g b' bound

theorem register {b : Nat} (stage : spawn.stage = .bound b) : Sound { s with
    spawns := s.spawns.delete f, frameSubsystems := s.frameSubsystems.set f b
    frameSubsystemIDs := s.frameSubsystemIDs.set f (makeID spawn.sessionID) } := by
  have held : spawn.stage.backend = some b := by
    rw [stage]
    rfl
  obtain ⟨below, own, kept, running⟩ := sound.known inFlight held
  have left : ∀ {g spawn}, (s.spawns.delete f).get? g = some spawn → s.spawns.get? g = some spawn :=
    fun found => (get?_of_delete found).2
  have unused : ∀ b', Unused s.spawns s.frameSubsystems b' → b ≠ b' →
      Unused (s.spawns.delete f) (s.frameSubsystems.set f b) b' := by
    intro b' unused other
    refine ⟨fun g spawn found => unused.spawns g spawn (left found), fun g found => ?_⟩
    rcases get?_of_set found with ⟨-, rfl⟩ | found
    · exact other rfl
    · exact unused.owners g found
  refine ⟨sound.numbered, sound.distinct, ?_, ?_, ?_, ?_, ?_, ?_, sound.gone⟩
  · intro g spawn b found held
    exact sound.obtained g spawn b (left found) held
  · intro g b' found
    by_cases same : g = f
    · subst same
      cases (get?_set_self _ _ _).symm.trans found
      refine ⟨below, fun id there id' named => ?_⟩
      cases (get?_set_self _ _ _).symm.trans named
      exact own id there
    · dsimp only at found ⊢
      rw [get?_set_of_ne _ same] at found ⊢
      exact sound.owned g b' found
  · intro g b' bound
    rcases sound.bound g b' bound with found | ⟨other, found, stage'⟩ | discarded
    · have same : g ≠ f := by
        rintro rfl
        rw [sound.apart g spawn inFlight] at found
        cases found
      exact .inl ((get?_set_of_ne _ same _).trans found)
    · by_cases same : g = f
      · subst same
        cases inFlight.symm.trans found
        cases stage.symm.trans stage'
        exact .inl (get?_set_self _ _ _)
      · exact .inr (.inl ⟨other, (get?_delete_of_ne _ same).trans found, stage'⟩)
    · exact .inr (.inr discarded)
  · intro g spawn' found
    obtain ⟨other, found⟩ := get?_of_delete found
    exact (get?_set_of_ne _ other _).trans (sound.apart g spawn' found)
  · intro id mem b' found
    exact unused b' (sound.idle id mem b' found) fun same => kept id mem (same ▸ found)
  · intro b' mem
    obtain ⟨below', absent, before⟩ := sound.halted b' mem
    exact ⟨below', absent, unused b' before fun same => running (same ▸ mem)⟩

end

theorem release : Sound { s with
    bindings := s.bindings.delete f, frameSubsystems := s.frameSubsystems.delete f } := by
  have left : ∀ {g b}, (s.frameSubsystems.delete f).get? g = some b → s.frameSubsystems.get? g = some b :=
    fun found => (get?_of_delete found).2
  have unused : ∀ b, Unused s.spawns s.frameSubsystems b → Unused s.spawns (s.frameSubsystems.delete f) b :=
    fun b unused => ⟨unused.spawns, fun g found => unused.owners g (left found)⟩
  refine ⟨sound.numbered, sound.distinct, sound.obtained,
    fun g b found => sound.owned g b (left found), ?_, ?_, ?_, ?_, sound.gone⟩
  · intro g b bound
    obtain ⟨other, bound⟩ := get?_of_delete bound
    rcases sound.bound g b bound with found | inFlight
    · exact .inl ((get?_delete_of_ne _ other).trans found)
    · exact .inr inFlight
  · intro g spawn found
    rw [get?_delete, sound.apart g spawn found, ite_self]
  · intro id mem b found
    exact unused b (sound.idle id mem b found)
  · intro b mem
    obtain ⟨below, absent, before⟩ := sound.halted b mem
    exact ⟨below, absent, unused b before⟩

/-- A frame is forgotten by the table of ids, and removals are started of backends nobody uses. -/
theorem condemn {removals : List SubsystemID} (unused : ∀ id ∈ removals, id ∉ s.removals →
      ∀ b, s.backends.get? id = some b → Unused s.spawns s.frameSubsystems b) :
    Sound { s with frameSubsystemIDs := s.frameSubsystemIDs.delete f, removals := removals } := by
  refine ⟨sound.numbered, sound.distinct, sound.obtained, ?_, sound.bound, sound.apart, ?_, sound.halted, sound.gone⟩
  · intro g b found
    obtain ⟨below, own⟩ := sound.owned g b found
    exact ⟨below, fun id there id' named => own id there id' (get?_of_delete named).2⟩
  · intro k mem b found
    by_cases earlier : k ∈ s.removals
    · exact sound.idle k earlier b found
    · exact unused k mem earlier b found

theorem releaseFrame (quiet : s.Quiet (.releaseFrame f)) : (s.releaseFrame f).Sound := by
  have released := sound.release (f := f)
  unfold System.releaseFrame
  split
  · unfold reapSubsystemIfLast
    dsimp only
    cases named : s.frameSubsystemIDs.get? f with
    | none => exact released
    | some id =>
      refine released.condemn fun k mem fresh b found => ?_
      split at mem
      · exact absurd mem fresh
      rename_i last
      have alone : s.LastOf f id := by
        intro g same
        by_contra other
        exact last (List.any_eq_true.mpr ⟨(g, id), mem_entries.mpr ((get?_delete_of_ne _ other).trans same),
          beq_self_eq_true id⟩)
      obtain rfl := mem_singleton.mp ((mem_append.mp mem).resolve_left fresh)
      obtain ⟨spawns, owners⟩ := quiet k named alone b found
      refine ⟨spawns, fun g held => ?_⟩
      obtain ⟨other, held⟩ := get?_of_delete held
      obtain ⟨k', there⟩ := ne_none_iff_exists'.mp (owners g held)
      exact other (alone g ((sound.owned g b held).2 k found k' there ▸ there))
  · exact sound

theorem remove {id : SubsystemID} (condemned : id ∈ s.removals) : (s.remove id).Sound := by
  have forgotten := sound.forget id
  refine ⟨forgotten.numbered, forgotten.distinct, forgotten.obtained, forgotten.owned,
    forgotten.bound, forgotten.apart, fun k mem => forgotten.idle k (mem_of_mem_erase mem), ?_, forgotten.gone⟩
  intro b mem
  rcases mem_append.mp mem with earlier | here
  · exact forgotten.halted b earlier
  have found := mem_toList.mp here
  refine ⟨sound.numbered id b found, fun k there => ?_, sound.idle id condemned b found⟩
  obtain ⟨other, there⟩ := get?_of_delete there
  exact other (sound.distinct k id b there found)

theorem step {a : Label} (step : Step s a s') (quiet : s.Quiet a) : s'.Sound := by
  unfold Step at step
  cases a with
  | spawn f sid =>
    simp only [apply, ite_none_right_eq_some, some.injEq, Bool.and_eq_true,
      isNone_iff_eq_none, decide_eq_true_eq] at step
    obtain ⟨⟨⟨⟨⟨-, idle⟩, unregistered⟩, -⟩, fresh⟩, rfl⟩ := step
    have kept : Sound { s with spawns := s.spawns.set f { sessionID := sid } } :=
      sound.put (fun old b found => by rw [idle] at found; cases found) unregistered (fun b held => by cases held)
    refine kept.frames fun g mem => ?_
    have other : g ≠ f := fun same => fresh (same ▸ mem)
    exact (get?_set_of_ne _ other _).trans (sound.gone g mem)
  | ensure =>
    obtain ⟨spawn, inFlight, step⟩ := bind_eq_some_iff.mp step
    obtain ⟨waiting, rfl⟩ := of_guard step
    exact sound.ensure inFlight waiting (quiet spawn inFlight)
  | started =>
    obtain ⟨spawn, inFlight, step⟩ := bind_eq_some_iff.mp step
    split at step <;> cases step
    rename_i stage
    exact sound.advance inFlight (fun b' => by simp [stage]) (by rw [stage]; rfl)
  | startFailed =>
    obtain ⟨spawn, inFlight, step⟩ := bind_eq_some_iff.mp step
    split at step <;> cases step
    rename_i stage
    refine (sound.forget (makeID spawn.sessionID)).retire fun g b' bound => ⟨bound, ?_⟩
    rintro rfl
    refine .inr fun other found => ?_
    cases inFlight.symm.trans found
    simp [stage]
  | bindFrame f =>
    obtain ⟨spawn, inFlight, step⟩ := bind_eq_some_iff.mp step
    split at step <;> cases step
    rename_i b stage
    have bound : (s.advance f spawn (.bound b)).Sound :=
      sound.advance inFlight (fun b' => by simp [stage]) (by rw [stage]; rfl)
    exact bound.bindFrame (get?_set_self _ _ _) rfl
  | fail =>
    obtain ⟨spawn, inFlight, rfl⟩ := map_eq_some_iff.mp step
    exact sound.fail
  | handleSpawnComplete =>
    obtain ⟨spawn, inFlight, step⟩ := bind_eq_some_iff.mp step
    split at step <;> cases step
    rename_i stage
    unfold System.handleSpawnComplete
    split
    · exact sound.register inFlight stage
    rename_i gone
    refine (sound.discard (not_isSome_iff_eq_none.mp gone)).retire ?_
    exact fun g b' bound => ⟨bound, fun _ => .inl mem_cons_self⟩
  | leave =>
    cases step
    refine sound.frames fun g mem => ?_
    rw [get?_delete, sound.gone g mem, ite_self]
  | releaseFrame =>
    cases step
    exact sound.releaseFrame quiet
  | releaseDiscarded =>
    obtain ⟨-, rfl⟩ := of_guard step
    exact sound.releaseDiscarded
  | remove =>
    obtain ⟨condemned, rfl⟩ := of_guard step
    exact sound.remove condemned

end

end Sound

/-- Nothing runs yet while the frames are restored. -/
structure Booting (s : System) : Prop where
  sound : s.Sound
  idle : s.spawns = ∅ ∧ s.frameSubsystemIDs = ∅ ∧ s.removals = [] ∧ s.stopped = [] ∧ s.discarded = []

theorem Booting.own (booting : s.Booting) {b : Nat} (below : b < s.created) : Booting { s with
    bindings := s.bindings.set f b, frameSubsystems := s.frameSubsystems.set f b } := by
  obtain ⟨sound, spawns, ids, removals, stopped, discarded⟩ := booting
  refine ⟨⟨sound.numbered, sound.distinct, sound.obtained, ?_, ?_, ?_, ?_, ?_, sound.gone⟩,
    spawns, ids, removals, stopped, discarded⟩
  · intro g b' found
    refine ⟨?_, fun _ _ _ named => by cases ids ▸ named⟩
    rcases get?_of_set found with ⟨-, rfl⟩ | found
    · exact below
    · exact (sound.owned g b' found).1
  · intro g b' bound
    by_cases same : g = f
    · subst same
      rw [get?_set_self] at bound ⊢
      exact .inl bound
    · dsimp only at bound ⊢
      rw [get?_set_of_ne _ same] at bound ⊢
      exact sound.bound g b' bound
  · intro g spawn found
    cases spawns ▸ found
  · intro id mem
    cases removals ▸ mem
  · intro b mem
    cases stopped ▸ mem

theorem Booting.coldStart (booting : s.Booting) (e : Restored) : (s.coldStart e).Booting := by
  obtain ⟨sound, idle⟩ := booting
  have framed : Booting { s with frames := s.frames.set e.frameID e.sessionID } := by
    refine ⟨sound.frames fun g mem => ?_, idle⟩
    cases idle.2.2.2.2 ▸ mem
  have created : Booting { s with
      frames := s.frames.set e.frameID e.sessionID, backends := s.backends.set (makeID e.sessionID) s.created
      created := s.created + 1 } := ⟨framed.sound.create _ (by simp [idle.2.2.1]), idle⟩
  unfold System.coldStart
  dsimp only
  cases found : s.backends.get? (makeID e.sessionID) with
  | none =>
    cases e.launch with
    | skipped => exact framed
    | released => exact created
    | launched => exact created.own (Nat.lt_succ_self _)
  | some =>
    cases e.launch with
    | skipped | released => exact framed
    | launched => exact framed.own (sound.numbered _ _ found)

theorem Booting.start (restored : List Restored) : (System.start restored).Booting := by
  suffices each : ∀ s : System, s.Booting → (restored.foldl System.coldStart s).Booting from
    each {} ⟨.new, rfl, rfl, rfl, rfl, rfl⟩
  induction restored with
  | nil => exact fun s booting => booting
  | cons e rest ih => exact fun s booting => ih _ (booting.coldStart e)

/-- Where the release of the last registered frame finds no spawn in flight with the backend and no
restored frame on it, and no spawn asks for a backend about to be removed, a backend is removed and
stopped only when no frame of the state is bound to it and no spawn in flight has obtained it, and it
stays so. -/
theorem reaped_backend_unused {restored : List Restored} {labels : List Label}
    (run : Run QuietStep (start restored) labels s) :
    (∀ id s', Step s (.remove id) s' → ∀ b, s.backends.get? id = some b →
      (∀ f sid, s.frames.get? f = some sid → s.bindings.get? f ≠ some b) ∧
        ∀ f spawn, s.spawns.get? f = some spawn → spawn.stage.backend ≠ some b) ∧
    ∀ b ∈ s.stopped, (∀ f sid, s.frames.get? f = some sid → s.bindings.get? f ≠ some b) ∧
      ∀ f spawn, s.spawns.get? f = some spawn → spawn.stage.backend ≠ some b := by
  have sound : s.Sound :=
    run.invariant Sound (Booting.start restored).sound fun _ _ _ sound taken => sound.step taken.1 taken.2
  constructor
  · intro id s' step b found
    simp only [Step, apply, ite_none_right_eq_some] at step
    have unused := sound.idle id step.1 b found
    exact ⟨fun f sid => sound.unbound unused, unused.spawns⟩
  · intro b mem
    have unused := (sound.halted b mem).2.2
    exact ⟨fun f sid => sound.unbound unused, unused.spawns⟩

/-- No goroutine is to remove a backend where one is asked for.  Where a frame is released no spawn
is in flight, and every frame on its backend is registered. -/
def calm (s : System) : Label → Bool
  | .ensure _ => s.removals.isEmpty
  | .releaseFrame f => s.spawns.entries.isEmpty && s.frameSubsystems.entries.all fun e =>
      (s.frameSubsystemIDs.get? e.1).isSome || (s.frameSubsystemIDs.get? f).bind s.backends.get? != some e.2
  | _ => true

theorem quiet_of_calm {a : Label} (calm : s.calm a = true) : s.Quiet a := by
  cases a with
  | ensure =>
    intro spawn _ mem
    rw [List.isEmpty_iff.mp calm] at mem
    cases mem
  | releaseFrame f =>
    obtain ⟨none, each⟩ := Bool.and_eq_true_iff.mp calm
    intro id named _ b there
    refine ⟨fun g spawn found => ?_, fun g held unnamed => ?_⟩
    · have mem := mem_entries.mpr found
      rw [List.isEmpty_iff.mp none] at mem
      cases mem
    · have one := List.all_eq_true.mp each (g, b) (mem_entries.mpr held)
      simp [unnamed, named, there] at one
  | _ => trivial

theorem remove_step {id : SubsystemID} (condemned : id ∈ s.removals) : Step s (.remove id) (s.remove id) := by
  simp only [Step, apply, if_pos condemned]

theorem quietRun {start : System} {labels : List Label}
    (replayed : replay (guarded apply fun s a => s.calm a = true) start labels = some s) :
    Run QuietStep start labels s :=
  (guarded_run replayed).mono fun _ _ _ taken => ⟨taken.1, quiet_of_calm taken.2⟩

/-- The spawn of a frame, which may have to start the backend, up to its registration. -/
def spawning (f : FrameID) (sid : SessionID) (starts : Bool) : List Label :=
  [.spawn f sid, .ensure f] ++ (if starts then [.started f] else []) ++ [.bindFrame f, .handleSpawnComplete f]

/-- Two frames of a session come and go, beside a restored frame of another one. -/
def siblings : List Label :=
  spawning "f" "s" true ++ spawning "g" "s" false ++ [.leave "f", .releaseFrame "f", .leave "g", .releaseFrame "g"]

theorem sibling_backend_reaped : ∃ s, Run QuietStep (start [⟨"h", "t", .launched⟩]) siblings s ∧
    Step s (.remove (makeID "s")) (s.remove (makeID "s")) ∧ s.backends.get? (makeID "s") = some 1 ∧
    (s.frames.get? "h" = some "t" ∧ s.bindings.get? "h" = some 0) ∧
    (∀ f sid, s.frames.get? f = some sid → s.bindings.get? f ≠ some 1) ∧
    ∀ f spawn, s.spawns.get? f = some spawn → spawn.stage.backend ≠ some 1 := by
  have facts : (replay (guarded apply fun s a => s.calm a = true) (start [⟨"h", "t", .launched⟩])
      siblings).map (fun s => (s.removals, s.backends.get? (makeID "s"), s.frames.get? "h", s.bindings.get? "h")) =
        some ([makeID "s"], some 1, some "t", some 0) := by
    decide +kernel
  obtain ⟨s, replayed, found⟩ := map_eq_some_iff.mp facts
  simp only [Prod.mk.injEq] at found
  obtain ⟨condemned, there, framed, bound⟩ := found
  have removable : Step s (.remove (makeID "s")) (s.remove (makeID "s")) := remove_step (by simp [condemned])
  have run := quietRun replayed
  exact ⟨s, run, removable, there, ⟨framed, bound⟩, (reaped_backend_unused run).1 _ _ removable 1 there⟩

/-- A second frame of the session is spawned and gets the backend before the first is released. -/
def overlap : List Label :=
  spawning "f" "s" true ++ [.spawn "g" "s", .ensure "g", .leave "f", .releaseFrame "f", .remove (makeID "s")]

/-- A frame of the session of a restored one comes and goes. -/
def latecomer : List Label := spawning "f" "s" false ++ [.leave "f", .releaseFrame "f", .remove (makeID "s")]

/-- The backend is stopped under the spawn that has obtained it, and under the restored frame. -/
theorem frames_lose_backend : (∃ s, Run Step {} overlap s ∧ s.stopped = [0] ∧
      s.frames.get? "g" = some "s" ∧ s.spawns.get? "g" = some ⟨"s", .ensured 0⟩) ∧
    ∃ s, Run Step (start [⟨"g", "s", .launched⟩]) latecomer s ∧ s.stopped = [0] ∧
      s.frames.get? "g" = some "s" ∧ s.bindings.get? "g" = some 0 := by
  have overlapped : (replay apply {} overlap).map (fun s => (s.stopped, s.frames.get? "g", s.spawns.get? "g")) =
      some ([0], some "s", some ⟨"s", .ensured 0⟩) := by
    decide +kernel
  have outlived : (replay apply (start [⟨"g", "s", .launched⟩]) latecomer).map (fun s =>
      (s.stopped, s.frames.get? "g", s.bindings.get? "g")) = some ([0], some "s", some 0) := by
    decide +kernel
  obtain ⟨s, replayed, found⟩ := map_eq_some_iff.mp overlapped
  obtain ⟨s', replayed', found'⟩ := map_eq_some_iff.mp outlived
  simp only [Prod.mk.injEq] at found found'
  exact ⟨⟨s, replay_run replayed, found⟩, s', replay_run replayed', found'⟩

end System

end AgentGrid.Stream.Reaping
