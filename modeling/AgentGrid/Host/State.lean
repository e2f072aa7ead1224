import AgentGrid.Host.Event
import AgentGrid.Lib.Go

/-!
# The state of the host daemon

`State` is the value the reducer threads from event to event.  A nil map of the
source is an empty map here: no modelled function tells them apart.  The two
things a call of the reducer takes from outside its arguments, fresh random
identifiers and the visiting order of map loops, are one explicit `Draw`.
-/

namespace AgentGrid.Host

open AgentGrid.Lib

structure State (D : Type) where
  lifecycle : LifecyclePhase := .running
  shutdown : Option ShutdownTransaction := none
  nextShutdownID : Nat := 0
  sessions : GoMap SessionID (Session D) := ∅
  subscribers : GoMap ConnID Subscriber := ∅
  surfaceSubs : GoMap ConnID (GoMap SurfaceSubscription SurfaceGeometry) := ∅
  jobs : GoMap JobID JobMeta := ∅
  nextJobID : JobID := 0
  nextConnID : ConnID := 0
  now : Time := 0
  aliases : GoMap String String := ∅
  defaultCommand : String := ""
  pendingApprovals : Buckets SessionID ApprovalID ApprovalRequest := (∅ : GoMap _ _)
  pendingQuestions : Buckets SessionID QuestionID QuestionRequest := (∅ : GoMap _ _)
  statusSignals : GoMap SessionID Nat := ∅
  creationIntents : GoMap CreationIntentID CreationIntent := ∅
  repositoryPreparations : GoMap PreparationID RepositoryPreparation := ∅
  resumeCapsulesEnabled : Bool := false
  capsuleGenerating : GoMap SessionID String := ∅

/-- What a reducer returns: the next state and the effects to carry out. -/
abbrev Reduced (D : Type) := State D × List (Effect D)

/-- What the daemon sets once at startup, before the first event. -/
structure Config where
  aliases : GoMap String String := ∅
  defaultCommand : String := ""
  resumeCapsulesEnabled : Bool := false

/-- `New`, with the startup configuration applied; `State.new {}` is `New()` itself. -/
def State.new {D : Type} (cfg : Config) : State D :=
  { aliases := cfg.aliases, defaultCommand := cfg.defaultCommand, resumeCapsulesEnabled := cfg.resumeCapsulesEnabled }

/-- The choices one call of the reducer does not make itself: the identifiers its allocations
return, in order, and the order of its map loops. -/
structure Draw extends RangeOrder where
  alloc : Nat → String

variable {D : Type}

/-- Some session of the state has a frame with the id. -/
def State.HasFrame (s : State D) (fid : FrameID) : Prop :=
  ∃ sid sess, s.sessions.get? sid = some sess ∧ fid ∈ sess.frames.map SessionFrame.id

/-- The allocated identifiers are not empty, pairwise distinct, and not in use. -/
structure Draw.Fresh (d : Draw) (s : State D) : Prop where
  nonempty : ∀ i, d.alloc i ≠ ""
  injective : Function.Injective d.alloc
  session : ∀ i, s.sessions.get? (d.alloc i) = none
  frame : ∀ i, ¬ s.HasFrame (d.alloc i)

/-- A draw whose identifiers repeat one character and whose loops visit maps as they are stored. -/
def Draw.tagged (c : Char) : Draw where
  toRangeOrder := RangeOrder.stored
  alloc i := String.ofList (List.replicate (i + 1) c)

/-- No session or frame id of the state starts with the character. -/
def State.avoids (s : State D) (c : Char) : Bool :=
  s.sessions.entries.all fun e => e.1.toList.head? != some c && e.2.frames.all fun f => f.id.toList.head? != some c

@[simp] theorem Draw.tagged_head (c : Char) (i : Nat) : ((Draw.tagged c).alloc i).toList.head? = some c := by
  simp [Draw.tagged, List.replicate_succ]

theorem Draw.tagged_fresh {s : State D} {c : Char} (unused : s.avoids c = true) : (Draw.tagged c).Fresh s where
  nonempty := by
    intro i empty
    have head := Draw.tagged_head c i
    simp [empty] at head
  injective := by
    intro i j same
    have length := congrArg String.length same
    simpa [Draw.tagged] using length
  session := by
    intro i
    cases found : s.sessions.get? ((Draw.tagged c).alloc i) with
    | none => rfl
    | some =>
      have entry := List.all_eq_true.mp unused _ (GoMap.mem_entries.mpr found)
      simp at entry
  frame := by
    rintro i ⟨sid, sess, found, held⟩
    obtain ⟨frame, mem, same⟩ := List.mem_map.mp held
    have entry := List.all_eq_true.mp unused _ (GoMap.mem_entries.mpr found)
    rw [Bool.and_eq_true] at entry
    have other := List.all_eq_true.mp entry.2 frame mem
    simp [same] at other

end AgentGrid.Host
