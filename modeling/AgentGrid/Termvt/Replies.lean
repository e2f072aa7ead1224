import AgentGrid.Lib.Run

/-!
# Replies of the emulator

The emulator answers queries in the output of the child through an unbuffered pipe: the actor gets
on with a chunk once its replies were read, and `responseLoop` reads the next reply once the last
one is in the input buffer of the terminal, which only the child empties.
-/

namespace AgentGrid.Termvt

open AgentGrid.Lib

/-- The lengths of the replies the actor still has to write, if it is inside `processChunk`, the
bytes `responseLoop` has read and not written, and those in the input buffer. -/
structure Wires where
  capacity : Nat
  input : Nat := 0
  chunk : Option (List Nat) := none
  reply : Nat := 0
  deriving DecidableEq

inductive WireLabel where
  /-- The actor takes a chunk of output, which calls for these replies. -/
  | processChunk (replies : List Nat) | finish
  /-- `responseLoop` reads the next reply. -/
  | read
  /-- `responseLoop` writes some bytes of its reply, where there is room. -/
  | write (n : Nat)
  /-- Somebody else writes to the terminal. -/
  | type (n : Nat) | childReads (n : Nat)
  /-- The idle actor serves a command. -/
  | command
  deriving DecidableEq

namespace Wires

def act (w : Wires) : WireLabel → Option Wires
  | .processChunk replies => if w.chunk = none then some { w with chunk := some replies } else none
  | .finish => if w.chunk = some [] then some { w with chunk := none } else none
  | .read =>
    match w.chunk with
    | some (n :: rest) => if w.reply = 0 then some { w with chunk := some rest, reply := n } else none
    | _ => none
  | .write n =>
    if 0 < n ∧ n ≤ w.reply ∧ w.input + n ≤ w.capacity then some { w with input := w.input + n, reply := w.reply - n }
    else none
  | .type n => if w.input + n ≤ w.capacity then some { w with input := w.input + n } else none
  | .childReads n => if n ≤ w.input then some { w with input := w.input - n } else none
  | .command => if w.chunk = none then some w else none

def Step (w : Wires) (label : WireLabel) (w' : Wires) : Prop := w.act label = some w'

/-- The actor waits for `responseLoop`, which waits for room. -/
def Frozen (w : Wires) : Prop := (∃ n rest, w.chunk = some (n :: rest)) ∧ 0 < w.reply ∧ w.input = w.capacity

/-- There is room for a reply when it is read, and nobody else takes it. -/
def roomy (w : Wires) : WireLabel → Bool
  | .read => w.input + ((w.chunk.getD []).head?.getD 0) ≤ w.capacity
  | .type n => w.input + n + w.reply ≤ w.capacity
  | _ => true

/-- What is left to do until the actor is idle. -/
def work (w : Wires) : Nat := w.reply + (w.chunk.map fun replies => 1 + (replies.map (· + 1)).sum).getD 0

variable {w w' : Wires} {label : WireLabel}

theorem fits_step (fits : w.input + w.reply ≤ w.capacity) (room : w.roomy label = true)
    (step : w.Step label w') : w'.input + w'.reply ≤ w'.capacity := by
  cases label with
  | read =>
    simp only [Step, act] at step
    split at step
    · rename_i n rest writing
      obtain ⟨-, rfl⟩ := of_guard step
      simpa [roomy, writing] using room
    · cases step
  | write =>
    obtain ⟨⟨-, held, -⟩, rfl⟩ := of_guard step
    simp only
    omega
  | type =>
    obtain ⟨-, rfl⟩ := of_guard step
    simpa [roomy] using room
  | childReads =>
    obtain ⟨-, rfl⟩ := of_guard step
    simp only
    omega
  | processChunk _ | finish | command =>
    obtain ⟨-, rfl⟩ := of_guard step
    exact fits

/-- Where the reply that is held fits, the actor or `responseLoop` can go on. -/
theorem busy_progress (fits : w.input + w.reply ≤ w.capacity) (busy : w.chunk.isSome = true) :
    ∃ label w', (label = .finish ∨ label = .read ∨ label = .write w.reply) ∧ w.Step label w' ∧ w'.work < w.work := by
  obtain ⟨replies, writing⟩ := Option.isSome_iff_exists.mp busy
  by_cases held : w.reply = 0
  · cases replies with
    | nil =>
      refine ⟨.finish, { w with chunk := none }, .inl rfl, by simp [Step, act, writing], ?_⟩
      simp [work, writing]
    | cons n rest =>
      refine ⟨.read, { w with chunk := some rest, reply := n }, .inr (.inl rfl), by simp [Step, act, writing, held], ?_⟩
      simp [work, writing, held]
      omega
  · refine ⟨.write w.reply, { w with input := w.input + w.reply, reply := 0 }, .inr (.inr rfl), ?_, ?_⟩
    · simp [Step, act, fits]
      omega
    · simp [work]
      omega

/-- Where there is room for a reply when it is read, and nobody else takes it, the actor is never frozen,
and a chunk that it has begun always allows a step that leaves less work. -/
theorem actor_never_frozen (capacity : Nat) {labels : List WireLabel}
    (run : Run (fun w label w' => Step w label w' ∧ w.roomy label = true) { capacity } labels w) :
    ¬w.Frozen ∧ (w.chunk.isSome = true → ∃ label w', (label = .finish ∨ label = .read ∨ label = .write w.reply) ∧
      w.Step label w' ∧ w'.work < w.work) := by
  have fits : w.input + w.reply ≤ w.capacity :=
    run.invariant (fun w => w.input + w.reply ≤ w.capacity) (Nat.zero_le _) fun _ _ _ fits step =>
      fits_step fits step.2 step.1
  refine ⟨?_, busy_progress fits⟩
  rintro ⟨-, held, full⟩
  omega

/-- Input of 4090 bytes that the child does not read, and two replies. -/
def pasted : List WireLabel := [.type 4090, .processChunk [7, 7], .read, .write 5]

theorem unread_input_freezes : ∃ w, Run Step { capacity := 4095 } pasted w ∧ w.Frozen := by
  have replayed : replay act { capacity := 4095 } pasted = some ⟨4095, 4095, some [7], 2⟩ := by decide
  exact ⟨_, replay_run replayed, ⟨7, [], rfl⟩, by decide, rfl⟩

/-- The child reads before the replies are written. -/
def answered : List WireLabel := [.type 4090, .processChunk [7, 7], .childReads 4090, .read, .write 7, .read]

theorem actor_never_frozen_answered :
    ∃ w, Run (fun w label w' => Step w label w' ∧ w.roomy label = true) { capacity := 4095 } answered w ∧
      w.chunk = some [] ∧ ¬w.Frozen := by
  have replayed : replay (guarded act fun w label => w.roomy label = true) { capacity := 4095 } answered =
      some ⟨4095, 7, some [], 7⟩ := by decide
  exact ⟨_, guarded_run replayed, rfl, (actor_never_frozen 4095 (guarded_run replayed)).1⟩

end Wires

end AgentGrid.Termvt
