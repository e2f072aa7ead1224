import AgentGrid.Lib.Slots
import AgentGrid.Terminal.Lifecycle

/-!
# Typing through the lifecycle socket

`readLifecycleInbound` hands every input and resize frame of a lifecycle socket to a goroutine of
its own, if one of the 64 data slots is free.  The goroutines compete for the write mutex of the
daemon connection, and each keeps its slot until the daemon has answered.
-/

namespace AgentGrid.Gateway

open AgentGrid.Lib AgentGrid.Host AgentGrid.Terminal List Option

/-- The frames of a browser that go through the data slots; the others have ways of their own. -/
inductive Inbound where
  /-- `k:"i"`. -/
  | input (sessionID : String) (d : String)
  /-- `k:"r"`. -/
  | resize (sessionID : String) (cols rows : Int) | other
  deriving DecidableEq

/-- The commands that the goroutines write to the daemon. -/
inductive DataCommand where
  | surfaceWriteRaw (sessionID : String) (data : String) | surfaceResize (sessionID : String) (cols rows : Int)
  deriving DecidableEq

/-- A goroutine that holds a data slot: what it is to write, or nothing when it only waits for its
answer. -/
structure DataJob where
  pending : Option DataCommand
  deriving DecidableEq

/-- A lifecycle socket whose daemon connection stays open. -/
structure Typing where
  /-- The frames read so far. -/
  read : List Inbound := []
  jobs : List DataJob := []
  /-- The commands on the daemon connection. -/
  wire : List DataCommand := []

inductive TypingLabel where
  | read (frame : Inbound)
  /-- A goroutine gets the write mutex of the connection. -/
  | write (job : Nat)
  /-- The answer of the daemon arrives, and the goroutine ends. -/
  | finish (job : Nat)
  deriving DecidableEq

namespace Typing

/-- `cap(dataSlots)`. -/
def dataSlots : Nat := 64

/-- What `tryResize` sends. -/
def tryResize (sessionID : String) (cols rows : Int) : Option DataCommand :=
  if cols ≤ 0 ∨ rows ≤ 0 then none
  else if sizeHintRejectReason cols rows ≠ "" then none
  else some (.surfaceResize sessionID cols rows)

def job : Inbound → Option DataJob
  | .input sid d => if sid = "" then none else some ⟨some (.surfaceWriteRaw sid d)⟩
  | .resize sid cols rows => if sid = "" then none else some ⟨tryResize sid cols rows⟩
  | .other => none

/-- Start a goroutine, unless the data lane is full. -/
def spawn (s : Typing) (job : DataJob) : Typing :=
  if s.jobs.length < dataSlots then { s with jobs := s.jobs ++ [job] } else s

def act (s : Typing) : TypingLabel → Option Typing
  | .read frame =>
    let s := { s with read := s.read ++ [frame] }
    some ((job frame).elim s s.spawn)
  | .write k =>
    s.jobs[k]?.bind fun job =>
      job.pending.map fun cmd => { s with jobs := s.jobs.set k ⟨none⟩, wire := s.wire ++ [cmd] }
  | .finish k =>
    s.jobs[k]?.bind fun job => if job.pending.isNone then some { s with jobs := s.jobs.eraseIdx k } else none

def Step (s : Typing) (label : TypingLabel) (s' : Typing) : Prop := s.act label = some s'

end Typing

def Inbound.typed (sid : String) : Inbound → Option String
  | .input sid' d => if sid' = sid then some d else none
  | _ => none

def DataCommand.typed (sid : String) : DataCommand → Option String
  | .surfaceWriteRaw sid' data => if sid' = sid then some data else none
  | .surfaceResize _ _ _ => none

/-- What a goroutine still has to write into a session. -/
def DataJob.typed (sid : String) (job : DataJob) : Option String :=
  job.pending.bind (DataCommand.typed sid)

namespace Typing

/-- What was typed into the session and is not yet written. -/
def due (s : Typing) (sid : String) : List String := s.jobs.filterMap (DataJob.typed sid)

/-- An input frame of the session is read when a data slot is free and the frame before it is
written. -/
def prompt (sid : String) (s : Typing) : TypingLabel → Bool
  | .read (.input sid' _) => sid' != sid || s.jobs.length < dataSlots && (s.due sid).isEmpty
  | _ => true

variable {s s' : Typing} {sid : String} {label : TypingLabel}

/-- What is written and what is due are what was read, and at most one frame is due. -/
structure InOrder (sid : String) (s : Typing) : Prop where
  all : s.wire.filterMap (DataCommand.typed sid) ++ s.due sid = s.read.filterMap (Inbound.typed sid)
  one : (s.due sid).length ≤ 1

theorem InOrder.start : InOrder sid {} := ⟨rfl, Nat.zero_le 1⟩

theorem due_spawn (s : Typing) (job : DataJob) (room : s.jobs.length < dataSlots) :
    (s.spawn job).due sid = s.due sid ++ (job.typed sid).toList := by
  rw [spawn, if_pos room]
  cases typed : job.typed sid <;> simp [due, typed]

theorem typed_tryResize (cols rows : Int) (sid' : String) :
    (DataJob.typed sid ⟨tryResize sid' cols rows⟩) = none := by
  unfold tryResize
  split
  · rfl
  · split <;> rfl

theorem due_spawn_of_none (s : Typing) {job : DataJob} (other : job.typed sid = none) :
    (s.spawn job).due sid = s.due sid ∧ (s.spawn job).wire = s.wire ∧ (s.spawn job).read = s.read := by
  unfold spawn
  split
  · refine ⟨?_, rfl, rfl⟩
    simp [due, other]
  · exact ⟨rfl, rfl, rfl⟩

theorem InOrder.read (inOrder : s.InOrder sid) (frame : Inbound) (named : sid ≠ "")
    (good : s.prompt sid (.read frame) = true) (step : s.Step (.read frame) s') : s'.InOrder sid := by
  cases step
  let noted : Typing := { s with read := s.read ++ [frame] }
  have idle : frame.typed sid = none → (∀ j, job frame = some j → j.typed sid = none) →
      ((job frame).elim noted noted.spawn).InOrder sid := by
    intro untyped untyping
    have grown : (s.read ++ [frame]).filterMap (Inbound.typed sid) =
        s.read.filterMap (Inbound.typed sid) := by simp [untyped]
    cases spawned : job frame with
    | none => exact ⟨inOrder.all.trans grown.symm, inOrder.one⟩
    | some j =>
      obtain ⟨due, wire, read⟩ := due_spawn_of_none noted (untyping j spawned)
      refine ⟨?_, due ▸ inOrder.one⟩
      rw [elim_some, due, wire, read]
      exact inOrder.all.trans grown.symm
  cases frame with
  | other => exact idle rfl nofun
  | resize sid' cols rows =>
    refine idle rfl fun j spawned => ?_
    obtain ⟨-, made⟩ := ite_none_left_eq_some.mp spawned
    cases made
    exact typed_tryResize cols rows sid'
  | input sid' d =>
    by_cases same : sid' = sid
    · subst same
      simp only [prompt, bne_self_eq_false, Bool.false_or, Bool.and_eq_true, decide_eq_true_eq,
        List.isEmpty_iff] at good
      obtain ⟨room, none⟩ := good
      have spawned : job (.input sid' d) = some ⟨some (.surfaceWriteRaw sid' d)⟩ := if_neg named
      have due : (noted.spawn ⟨some (.surfaceWriteRaw sid' d)⟩).due sid' = [d] := by
        rw [due_spawn noted _ room]
        show s.due sid' ++ _ = _
        rw [none]
        simp [DataJob.typed, DataCommand.typed]
      rw [spawned, elim_some]
      refine ⟨?_, by rw [due]; exact Nat.le_refl 1⟩
      have all := inOrder.all
      rw [none, append_nil] at all
      rw [due, spawn, if_pos room]
      simp [all, Inbound.typed]
    refine idle (if_neg same) fun j spawned => ?_
    obtain ⟨-, made⟩ := ite_none_left_eq_some.mp spawned
    cases made
    exact if_neg same

theorem InOrder.write (inOrder : s.InOrder sid) {k : Nat} (step : s.Step (.write k) s') : s'.InOrder sid := by
  obtain ⟨job, held, later⟩ := bind_eq_some_iff.mp step
  obtain ⟨cmd, pending, rfl⟩ := map_eq_some_iff.mp later
  obtain ⟨before, after, jobs, written, -⟩ := slot held
  have typed : job.typed sid = cmd.typed sid := by rw [DataJob.typed, pending, bind_some]
  have all := inOrder.all
  have one := inOrder.one
  rw [due, jobs, filterMap_append, filterMap_cons, typed] at all one
  have due' : due { s with jobs := s.jobs.set k ⟨none⟩, wire := s.wire ++ [cmd] } sid =
      before.filterMap (DataJob.typed sid) ++ after.filterMap (DataJob.typed sid) := by
    show (s.jobs.set k ⟨none⟩).filterMap (DataJob.typed sid) = _
    rw [written, filterMap_append, filterMap_cons]
    rfl
  cases mine : cmd.typed sid with
  | none =>
    rw [mine] at all one
    refine ⟨?_, due' ▸ one⟩
    rw [due', filterMap_append, ← all]
    simp [mine]
  | some =>
    rw [mine] at all one
    have alone : before.filterMap (DataJob.typed sid) = [] ∧ after.filterMap (DataJob.typed sid) = [] := by
      rw [length_append, length_cons] at one
      exact ⟨eq_nil_of_length_eq_zero (by omega), eq_nil_of_length_eq_zero (by omega)⟩
    rw [alone.1, alone.2] at all due'
    refine ⟨?_, by rw [due']; exact Nat.zero_le 1⟩
    rw [due', filterMap_append, ← all]
    simp [mine]

theorem InOrder.finish (inOrder : s.InOrder sid) {k : Nat} (step : s.Step (.finish k) s') : s'.InOrder sid := by
  obtain ⟨job, held, later⟩ := bind_eq_some_iff.mp step
  obtain ⟨ended, rfl⟩ := of_guard later
  obtain ⟨before, after, jobs, -, erased⟩ := slot held
  have none : job.typed sid = Option.none := by rw [DataJob.typed, isNone_iff_eq_none.mp ended, bind_none]
  have due' : due { s with jobs := s.jobs.eraseIdx k } sid = s.due sid := by
    show (s.jobs.eraseIdx k).filterMap (DataJob.typed sid) = _
    rw [erased, due, jobs]
    simp [none]
  exact ⟨due' ▸ inOrder.all, due' ▸ inOrder.one⟩

end Typing

open Typing

/-- Where each input frame of a session is read only when a data slot is free and the frame before
it is written, the daemon gets what was typed into the session, in order: all of it once no
goroutine has anything left to write. -/
theorem typed_in_order {sid : String} (named : sid ≠ "") {labels : List TypingLabel} {s : Typing}
    (run : Run (fun s label s' => Step s label s' ∧ s.prompt sid label = true) {} labels s) :
    s.wire.filterMap (DataCommand.typed sid) <+: s.read.filterMap (Inbound.typed sid) ∧
      ((∀ job ∈ s.jobs, job.pending = none) →
        s.wire.filterMap (DataCommand.typed sid) = s.read.filterMap (Inbound.typed sid)) := by
  have inOrder : s.InOrder sid := run.invariant (InOrder sid) .start fun s label s' kept step => by
      obtain ⟨step, good⟩ := step
      cases label with
      | read frame => exact kept.read frame named good step
      | write => exact kept.write step
      | finish => exact kept.finish step
  refine ⟨⟨_, inOrder.all⟩, fun ended => ?_⟩
  have none : s.due sid = [] := by
    refine filterMap_eq_nil_iff.mpr fun job mem => ?_
    rw [DataJob.typed, ended job mem, bind_none]
  have all := inOrder.all
  rwa [none, append_nil] at all

/-- Two keys, the second one read when the first is written; a resize between them. -/
def slowTyping : List TypingLabel :=
  [.read (.input "a" "l"), .write 0, .read (.resize "a" 80 24), .read (.input "a" "s"), .write 2, .finish 0, .write 0]

theorem typed_in_order_slowTyping : ∃ s,
    Run (fun s label s' => Step s label s' ∧ s.prompt "a" label = true) {} slowTyping s ∧
      s.wire = [.surfaceWriteRaw "a" "l", .surfaceWriteRaw "a" "s", .surfaceResize "a" 80 24] ∧
      s.wire.filterMap (DataCommand.typed "a") = s.read.filterMap (Inbound.typed "a") := by
  have facts : ((replay (guarded act fun s label => s.prompt "a" label = true) {} slowTyping).map
      fun s => (s.wire, decide (∀ job ∈ s.jobs, job.pending = none))) =
        some ([.surfaceWriteRaw "a" "l", .surfaceWriteRaw "a" "s", .surfaceResize "a" 80 24], true) := by
    decide +kernel
  obtain ⟨s, replayed, found⟩ := map_eq_some_iff.mp facts
  obtain ⟨wire, ended⟩ := Prod.mk.inj found
  have run := guarded_run replayed
  exact ⟨s, run, wire, (typed_in_order (by decide) run).2 (of_decide_eq_true ended)⟩

/-- Two keys are read, and the goroutine of the second one gets the mutex first. -/
def fastTyping : List TypingLabel :=
  [.read (.input "a" "l"), .read (.input "a" "s"), .write 1, .write 0, .finish 1, .finish 0]

/-- The daemon gets the keys in the other order. -/
theorem typing_scrambled : ∃ s, Run Step {} fastTyping s ∧ s.jobs = [] ∧
    s.read.filterMap (Inbound.typed "a") = ["l", "s"] ∧ s.wire.filterMap (DataCommand.typed "a") = ["s", "l"] := by
  have facts : ((replay act {} fastTyping).map fun s => (s.jobs,
      s.read.filterMap (Inbound.typed "a"), s.wire.filterMap (DataCommand.typed "a"))) =
        some ([], ["l", "s"], ["s", "l"]) := by
    decide +kernel
  obtain ⟨s, replayed, found⟩ := map_eq_some_iff.mp facts
  obtain ⟨jobs, read, wire⟩ : s.jobs = [] ∧ s.read.filterMap (Inbound.typed "a") = ["l", "s"] ∧
      s.wire.filterMap (DataCommand.typed "a") = ["s", "l"] := by simpa using found
  exact ⟨s, replay_run replayed, jobs, read, wire⟩

end AgentGrid.Gateway
