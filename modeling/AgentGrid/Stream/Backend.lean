import AgentGrid.Host.Types
import AgentGrid.Lib.Run

/-!
# The stream backend

One backend serves the frames of a session over one connection to an app server.  Frames are
bound to threads: a recovered frame to its known thread, a fresh one to the next unknown thread
that is reported, for which it waits in a single slot.  Every critical section is one step; the
steps of any number of binds, of the read loop, of releases and of the reaper come in any order.
The read loop handles one message at a time.
-/

namespace AgentGrid.Stream

open AgentGrid.Lib AgentGrid.Host Option

abbrev ThreadID := String
abbrev RequestID := Nat

/-- `initAdoptDeadline`, in seconds. -/
def initAdoptDeadline : Int := 60

structure PendingSlot where
  frameID : FrameID
  deadline : Time
  deriving DecidableEq

/-- `frameBinding`, of which only what the steps below touch. -/
structure FrameBinding where
  generation : Nat
  worktreePath : String
  threadID : ThreadID := ""
  (sessionID rolloutPath requestedID observedID : String := "")
  failureReported : Bool := false
  deriving DecidableEq

/-- The parameters of a `thread/started` notification. -/
structure ThreadStarted where
  threadID : ThreadID
  (sessionID path : String := "")
  deriving DecidableEq

/-- The methods of server requests: an approval, user input, or one that is not supported. -/
inductive Method where
  | approval | question | other
  deriving DecidableEq

/-- A server request with the ids its parameters carry. -/
structure ServerRequest where
  id : RequestID
  method : Method
  threadID : ThreadID
  itemID : String
  deriving DecidableEq

inductive Emission where
  | notification (threadID : ThreadID) (frameID : FrameID)
  | approvalRequested (frameID : FrameID) (approvalID : String)
  | questionRequested (frameID : FrameID) (questionID : String) | failed (frameID : FrameID) (message : String)
  deriving DecidableEq

inductive Reply where
  | error (id : RequestID) (message : String) | decline (id : RequestID)
  deriving DecidableEq

/-- Where the read loop is, between two critical sections of one message. -/
inductive Reader where
  | idle | adopting (note : ThreadStarted) | confirming (note : ThreadStarted) (frameID : FrameID)
  | inferring (req : ServerRequest)
  deriving DecidableEq

/-- `Backend`, with the binds that hold the slot and have not yet registered their frame, and
with what was sent. -/
structure Backend where
  frames : GoMap FrameID FrameBinding := ∅
  threads : GoMap ThreadID FrameID := ∅
  slot : Option PendingSlot := none
  nextGeneration : Nat := 0
  (heldApprovals heldQuestions : GoMap String RequestID := ∅)
  reader : Reader := .idle
  registering : List (FrameID × String) := []
  emitted : List Emission := []
  replies : List Reply := []
  /-- The requests that were decided, with the frame each was attributed to, or none. -/
  attributed : List (ServerRequest × FrameID) := []
  removedWorktrees : List String := []

inductive Label where
  | acquirePendingSlot (frameID : FrameID) (worktreePath : String) (now : Time)
  | registerPendingFrame (frameID : FrameID) (worktreePath : String)
  | registerBoundFrame (frameID : FrameID) (worktreePath : String) (threadID : ThreadID)
      (rolloutPath sessionID : String)
  | handleThreadStarted (note : ThreadStarted) | adoptPendingFrame | confirm
  | handleNotification (threadID : ThreadID) | handleRequest (req : ServerRequest) | inferFrame
  | releaseFrame (frameID : FrameID) | reapOnce (now : Time)
  deriving DecidableEq

namespace Backend

variable (b : Backend) (note : ThreadStarted) (frameID : FrameID) (threadID : ThreadID)
  (worktreePath : String)

def frameForThread : FrameID :=
  if threadID = "" then "" else (b.threads.get? threadID).getD ""

/-- The fallback of `frameForRequest`: the only frame that is registered. -/
def soleFrame : FrameID :=
  match b.frames.entries with
  | [e] => e.1
  | _ => ""

/-! ## Binding -/

/-- `acquire`: it waits until the slot is free. -/
def acquirePendingSlot (now : Time) : Option Backend :=
  if b.slot.isNone then
    some { b with
      slot := some ⟨frameID, now + initAdoptDeadline⟩, registering := (frameID, worktreePath) :: b.registering }
  else none

def registerPendingFrame : Option Backend :=
  if (frameID, worktreePath) ∈ b.registering then
    some { b with
      nextGeneration := b.nextGeneration + 1
      frames := b.frames.set frameID ⟨b.nextGeneration + 1, worktreePath, "", "", "", "", "", false⟩
      registering := b.registering.erase (frameID, worktreePath) }
  else none

/-- `registerBoundFrame`: a thread that another frame owns is refused. -/
def registerBoundFrame (threadID : ThreadID) (rolloutPath sessionID : String) : Backend :=
  if (b.threads.get? threadID).any fun existing => existing ≠ frameID then b
  else
    { b with
      nextGeneration := b.nextGeneration + 1, frames := b.frames.set frameID
        ⟨b.nextGeneration + 1, worktreePath, threadID, sessionID, rolloutPath, threadID, threadID, false⟩
      threads := b.threads.set threadID frameID }

/-! ## The read loop -/

/-- The first critical section of `handleThreadStarted`: the lookup of the thread. -/
def handleThreadStarted : Backend :=
  if note.threadID = "" then b
  else if b.frameForThread note.threadID = "" then { b with reader := .adopting note }
  else { b with reader := .confirming note (b.frameForThread note.threadID) }

/-- `adoptPendingFrame`: the frame in the slot gets the thread.  Where the frame is not
registered the thread is dropped, and the slot is free. -/
def adoptPendingFrame : Backend :=
  match b.slot with
  | none => { b with reader := .idle }
  | some slot =>
    match b.frames.get? slot.frameID with
    | none => { b with slot := none, reader := .idle }
    | some binding =>
      { b with
        slot := none, frames := b.frames.set slot.frameID { binding with threadID := note.threadID }
        threads := b.threads.set note.threadID slot.frameID, reader := .confirming note slot.frameID }

/-- The last critical section of `handleThreadStarted`. -/
def confirm : Backend :=
  match b.frames.get? frameID with
  | none => { b with reader := .idle }
  | some binding =>
    { b with
      reader := .idle, frames := b.frames.set frameID
        { binding with
          threadID := note.threadID, sessionID := if note.sessionID = "" then binding.sessionID else note.sessionID
          requestedID := if binding.requestedID = "" then note.threadID else binding.requestedID
          observedID := note.threadID, rolloutPath := if note.path = "" then binding.rolloutPath else note.path } }

/-- The other notifications go to the frame that a lookup of their thread finds. -/
def handleNotification : Backend :=
  if b.frameForThread threadID = "" then b
  else { b with emitted := b.emitted ++ [.notification threadID (b.frameForThread threadID)] }

/-- A request whose frame is found is held and reported, one without a frame is answered. -/
def hold (req : ServerRequest) (frameID : FrameID) : Backend :=
  let b := { b with reader := .idle, attributed := b.attributed ++ [(req, frameID)] }
  if frameID = "" then { b with replies := b.replies ++ [.error req.id "request cannot be correlated to a frame"] }
  else
    match req.method with
    | .other => b
    | .approval =>
      if req.itemID = "" then { b with replies := b.replies ++ [.decline req.id] }
      else
        { b with
          heldApprovals := b.heldApprovals.set req.itemID req.id
          emitted := b.emitted ++ [.approvalRequested frameID req.itemID] }
    | .question =>
      let questionID := if req.itemID = "" then "codex-request:" ++ toString req.id else req.itemID
      { b with
        heldQuestions := b.heldQuestions.set questionID req.id
        emitted := b.emitted ++ [.questionRequested frameID questionID] }

/-- `handleRequest` up to the lookup in `frameForRequest`. -/
def handleRequest (req : ServerRequest) : Backend :=
  if req.method = .other then { b with replies := b.replies ++ [.error req.id "method not supported by client"] }
  else if b.frameForThread req.threadID = "" then { b with reader := .inferring req }
  else b.hold req (b.frameForThread req.threadID)

/-! ## Releasing -/

/-- `ReleaseFrame`, with `releaseOwnSlot` for a frame that is pending. -/
def releaseFrame : Backend :=
  match b.frames.get? frameID with
  | none => b
  | some binding =>
    let frames := b.frames.delete frameID
    { b with
      frames := frames, threads := if binding.threadID = "" then b.threads else b.threads.delete binding.threadID
      slot := if binding.threadID = "" && (b.slot.any fun slot => slot.frameID = frameID)
        then none else b.slot
      removedWorktrees :=
        if binding.worktreePath = "" || (frames.entries.any fun e => e.2.worktreePath = binding.worktreePath)
        then b.removedWorktrees else b.removedWorktrees ++ [binding.worktreePath] }

def failFrame (message : String) : Backend :=
  match b.frames.get? frameID with
  | none => b
  | some binding =>
    if binding.failureReported then b
    else
      { b with
        frames := b.frames.set frameID { binding with failureReported := true }
        emitted := b.emitted ++ [.failed frameID message] }

/-- `reapOnce`: an expired slot is freed and its frame released. -/
def reapOnce (now : Time) : Backend :=
  match b.slot with
  | none => b
  | some slot =>
    if now < slot.deadline then b
    else
      ({ b with slot := none }.failFrame slot.frameID
        "stream backend: CLI did not emit thread/started before adopt deadline").releaseFrame slot.frameID

/-! ## Steps -/

def apply : Label → Option Backend
  | .acquirePendingSlot frameID worktreePath now => b.acquirePendingSlot frameID worktreePath now
  | .registerPendingFrame frameID worktreePath => b.registerPendingFrame frameID worktreePath
  | .registerBoundFrame frameID worktreePath threadID rolloutPath sessionID =>
    if threadID = "" then none
    else some (b.registerBoundFrame frameID worktreePath threadID rolloutPath sessionID)
  | .handleThreadStarted note => if b.reader = .idle then some (b.handleThreadStarted note) else none
  | .adoptPendingFrame =>
    match b.reader with
    | .adopting note => some (b.adoptPendingFrame note)
    | _ => none
  | .confirm =>
    match b.reader with
    | .confirming note frameID => some (b.confirm note frameID)
    | _ => none
  | .handleNotification threadID => if b.reader = .idle then some (b.handleNotification threadID) else none
  | .handleRequest req => if b.reader = .idle then some (b.handleRequest req) else none
  | .inferFrame =>
    match b.reader with
    | .inferring req => some (b.hold req b.soleFrame)
    | _ => none
  | .releaseFrame frameID => some (b.releaseFrame frameID)
  | .reapOnce now => some (b.reapOnce now)

def Step (a : Label) (b' : Backend) : Prop := b.apply a = some b'

/-- When each critical section is entered, and what it leaves. -/
inductive Taken (b : Backend) : Label → Backend → Prop where
  | acquirePendingSlot (f : FrameID) (w : String) (now : Time) (empty : b.slot = none) :
      Taken b (.acquirePendingSlot f w now)
        { b with slot := some ⟨f, now + initAdoptDeadline⟩, registering := (f, w) :: b.registering }
  | registerPendingFrame (f : FrameID) (w : String) (mem : (f, w) ∈ b.registering) :
      Taken b (.registerPendingFrame f w)
        { b with
          nextGeneration := b.nextGeneration + 1
          frames := b.frames.set f ⟨b.nextGeneration + 1, w, "", "", "", "", "", false⟩
          registering := b.registering.erase (f, w) }
  | registerBoundFrame (f : FrameID) (w : String) (t : ThreadID) (path sid : String)
      (nonempty : ¬t = "") : Taken b (.registerBoundFrame f w t path sid) (b.registerBoundFrame f w t path sid)
  | handleThreadStarted (note : ThreadStarted) (idle : b.reader = .idle) :
      Taken b (.handleThreadStarted note) (b.handleThreadStarted note)
  | adoptPendingFrame (note : ThreadStarted) (place : b.reader = .adopting note) :
      Taken b .adoptPendingFrame (b.adoptPendingFrame note)
  | confirm (note : ThreadStarted) (f : FrameID) (place : b.reader = .confirming note f) :
      Taken b .confirm (b.confirm note f)
  | handleNotification (t : ThreadID) (idle : b.reader = .idle) :
      Taken b (.handleNotification t) (b.handleNotification t)
  | handleRequest (req : ServerRequest) (idle : b.reader = .idle) : Taken b (.handleRequest req) (b.handleRequest req)
  | inferFrame (req : ServerRequest) (place : b.reader = .inferring req) :
      Taken b .inferFrame (b.hold req b.soleFrame)
  | releaseFrame (f : FrameID) : Taken b (.releaseFrame f) (b.releaseFrame f)
  | reapOnce (now : Time) : Taken b (.reapOnce now) (b.reapOnce now)

theorem Step.taken {b b' : Backend} {a : Label} (step : Step b a b') : Taken b a b' := by
  unfold Step at step
  cases a with
  | acquirePendingSlot f w now =>
    simp only [apply, Backend.acquirePendingSlot, ite_none_right_eq_some, some.injEq, isNone_iff_eq_none] at step
    obtain ⟨empty, rfl⟩ := step
    exact .acquirePendingSlot f w now empty
  | registerPendingFrame f w =>
    obtain ⟨mem, rfl⟩ := of_guard step
    exact .registerPendingFrame f w mem
  | registerBoundFrame f w t path sid =>
    simp only [apply, ite_none_left_eq_some, some.injEq] at step
    obtain ⟨nonempty, rfl⟩ := step
    exact .registerBoundFrame f w t path sid nonempty
  | handleThreadStarted note =>
    obtain ⟨idle, rfl⟩ := of_guard step
    exact .handleThreadStarted note idle
  | adoptPendingFrame =>
    simp only [apply] at step
    split at step <;> cases step
    exact .adoptPendingFrame _ ‹_›
  | confirm =>
    simp only [apply] at step
    split at step <;> cases step
    exact .confirm _ _ ‹_›
  | handleNotification t =>
    obtain ⟨idle, rfl⟩ := of_guard step
    exact .handleNotification t idle
  | handleRequest req =>
    obtain ⟨idle, rfl⟩ := of_guard step
    exact .handleRequest req idle
  | inferFrame =>
    simp only [apply] at step
    split at step <;> cases step
    exact .inferFrame _ ‹_›
  | releaseFrame f =>
    cases step
    exact .releaseFrame f
  | reapOnce now =>
    cases step
    exact .reapOnce now

end Backend

def Backend.new : Backend := {}

end AgentGrid.Stream
