import Mathlib.Data.List.Basic

/-!
# Go computations

A Go function either returns or panics.  The panics kept apart here are the
ones a state machine can reach: an index outside its slice, a call of a nil
function value, and an explicit call of `panic`.
-/

namespace AgentGrid.Lib

open List

/-- Why a computation stopped without a result. -/
inductive Panic where
  | indexOutOfRange | nilFunctionCall | explicit (message : String)
  deriving DecidableEq

/-- A computation that returns a value or panics. -/
abbrev Go (α : Type) := Except Panic α

namespace Go

variable {α β : Type}

/-- `l[i]`. -/
def index (l : List α) (i : Nat) : Go α :=
  match l[i]? with
  | some a => .ok a
  | none => .error .indexOutOfRange

/-- `l[i] = a` on a copy of the slice. -/
def assign (l : List α) (i : Nat) (a : α) : Go (List α) :=
  if i < l.length then .ok (l.set i a) else .error .indexOutOfRange

variable {x : Go α} {f : α → Go β} {b : β}

theorem bind_eq_ok : (x >>= f) = .ok b ↔ ∃ a, x = .ok a ∧ f a = .ok b := by
  cases x with
  | error | ok => simp [bind, Except.bind]

@[simp] theorem ok_bind (a : α) (f : α → Go β) : ((.ok a : Go α) >>= f) = f a := rfl

@[simp] theorem index_eq_ok {l : List α} {i : Nat} {a : α} : index l i = .ok a ↔ l[i]? = some a := by
  unfold index
  cases l[i]? <;> simp

@[simp] theorem assign_eq_ok {l l' : List α} {i : Nat} {a : α} :
    assign l i a = .ok l' ↔ i < l.length ∧ l.set i a = l' := by
  unfold assign
  split
  · rename_i bound
    simp [bound]
  · rename_i beyond
    simp [beyond]

/-- A computation that cannot panic returns something. -/
def Returns (x : Go α) : Prop := ∃ a, x = .ok a

theorem Returns.ok (a : α) : Returns (.ok a : Go α) := ⟨a, rfl⟩

theorem Returns.bind (hx : Returns x) (hf : ∀ a, x = .ok a → Returns (f a)) : Returns (x >>= f) := by
  obtain ⟨a, rfl⟩ := hx
  exact hf a rfl

variable {l : List α} {i : Nat}

theorem index_returns (bound : i < l.length) : Returns (index l i) :=
  ⟨l[i], index_eq_ok.mpr (getElem?_eq_getElem bound)⟩

theorem assign_returns (bound : i < l.length) (a : α) : Returns (assign l i a) :=
  ⟨l.set i a, assign_eq_ok.mpr ⟨bound, rfl⟩⟩

/-- What holds before a loop and survives each of its passes holds after it. -/
theorem foldlM_invariant {f : β → α → Go β} {P : β → Prop}
    (pass : ∀ b a b', P b → f b a = .ok b' → P b') {b' : β} (before : P b) (done : l.foldlM f b = .ok b') : P b' := by
  induction l generalizing b with
  | nil =>
    cases done
    exact before
  | cons a rest ih =>
    rw [foldlM_cons, bind_eq_ok] at done
    obtain ⟨mid, first, others⟩ := done
    exact ih (pass b a mid before first) others

theorem foldlM_returns {f : β → α → Go β} (pass : ∀ b a, Returns (f b a)) (l : List α) (b : β) :
    Returns (l.foldlM f b) := by
  induction l generalizing b with
  | nil => exact ⟨b, rfl⟩
  | cons a rest ih =>
    rw [foldlM_cons]
    exact (pass b a).bind fun mid _ => ih mid

end Go

end AgentGrid.Lib
