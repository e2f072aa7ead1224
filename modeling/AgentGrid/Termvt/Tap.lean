import AgentGrid.Lib.Run

/-!
# The status tap of a frame

`readTap` feeds the output of a frame to an emulator of its own, for the window titles, progress and
prompts in it.  The emulator answers a query through a pipe without a buffer, and `Feed` goes on once
the reply was read.  Nobody reads the replies of this emulator.
-/

namespace AgentGrid.Termvt

open AgentGrid.Lib List

variable {E : Type}

inductive Piece (E : Type) where
  | text
  /-- A sequence that a handler turns into an event. -/
  | osc (event : E) | query

def ptyTapOutBuffer : Nat := 256

/-- The chunks `forwardEvents` has sent, what `Feed` has left of the one it was given, whether it
waits for a reply to be read, and the events so far. -/
structure Tap (E : Type) where
  out : List (List (Piece E)) := []
  feeding : List (Piece E) := []
  waiting : Bool := false
  enqueued : List E := []

inductive TapLabel (E : Type) where
  | forward (chunk : List (Piece E))
  /-- `readTap` receives a chunk and calls `Feed`. -/
  | receive
  /-- `Feed` handles a piece. -/
  | feed

def eventsOf (chunk : List (Piece E)) : List E :=
  chunk.filterMap fun
    | .osc event => some event
    | _ => none

def TapLabel.chunk : TapLabel E → List (Piece E)
  | .forward chunk => chunk
  | _ => []

namespace Tap

def act (t : Tap E) : TapLabel E → Option (Tap E)
  | .forward chunk => if t.out.length < ptyTapOutBuffer then some { t with out := t.out ++ [chunk] } else none
  | .receive =>
    match t.waiting, t.feeding, t.out with
    | false, [], chunk :: rest => some { t with out := rest, feeding := chunk }
    | _, _, _ => none
  | .feed =>
    match t.waiting, t.feeding with
    | false, .text :: rest => some { t with feeding := rest }
    | false, .osc event :: rest => some { t with feeding := rest, enqueued := t.enqueued ++ [event] }
    | false, .query :: rest => some { t with feeding := rest, waiting := true }
    | _, _ => none

def Step (t : Tap E) (label : TapLabel E) (t' : Tap E) : Prop := t.act label = some t'

/-- The pieces that are not yet handled. -/
def pending (t : Tap E) : List (Piece E) := t.feeding ++ t.out.flatten

/-- `Feed` waits for nothing, no query is ahead of it, and each event of the output so far was
enqueued or is still ahead. -/
structure Flows (output : List (Piece E)) (t : Tap E) : Prop where
  free : t.waiting = false
  quiet : .query ∉ t.pending
  complete : eventsOf output = t.enqueued ++ eventsOf t.pending

variable {t t' : Tap E} {label : TapLabel E} {output : List (Piece E)}

theorem Flows.step (flows : t.Flows output) (quiet : .query ∉ label.chunk) (step : t.Step label t') :
    t'.Flows (output ++ label.chunk) := by
  obtain ⟨out, feeding, waiting, enqueued⟩ := t
  obtain ⟨rfl, calm, complete⟩ := flows
  cases label with
  | forward chunk =>
    obtain ⟨-, rfl⟩ := of_guard step
    have longer : eventsOf (output ++ chunk) = eventsOf output ++ eventsOf chunk := filterMap_append
    refine ⟨rfl, by simp_all [pending, TapLabel.chunk], ?_⟩
    rw [TapLabel.chunk, longer, complete]
    simp [pending, eventsOf]
  | receive =>
    simp only [Step, act] at step
    split at step <;> cases step
    exact ⟨rfl, by simpa [pending] using calm, by simpa [pending, TapLabel.chunk] using complete⟩
  | feed =>
    simp only [Step, act] at step
    split at step <;> cases step
    · exact ⟨rfl, by simpa [pending] using calm, by simpa [pending, eventsOf, TapLabel.chunk] using complete⟩
    · exact ⟨rfl, by simpa [pending] using calm, by simpa [pending, eventsOf, TapLabel.chunk] using complete⟩
    · simp [pending] at calm

theorem Flows.progress (flows : t.Flows output) (busy : t.pending ≠ []) :
    (∃ t', t.Step .receive t') ∨ ∃ t', t.Step .feed t' := by
  obtain ⟨out, feeding, waiting, enqueued⟩ := t
  obtain ⟨rfl, calm, -⟩ := flows
  match feeding, out with
  | [], [] => exact absurd rfl busy
  | [], _ :: _ => exact .inl ⟨_, rfl⟩
  | .text :: _, _ | .osc _ :: _, _ => exact .inr ⟨_, rfl⟩
  | .query :: _, _ => simp [pending] at calm

end Tap

end AgentGrid.Termvt
