import Mathlib.Data.List.Basic

/-!
# Go channels

A buffered channel with its two traps: a send on a closed channel and a second close are panics.
A send in a `select` with a default never waits, and a receive from a closed channel gives what is
still buffered first.
-/

namespace AgentGrid.Lib

/-- A buffered channel. -/
structure Chan (α : Type) where
  cap : Nat
  buf : List α := []
  closed : Bool := false
  deriving DecidableEq

/-- What becomes of a send that does not wait. -/
inductive Offer (α : Type) where
  | sent (ch : Chan α) | full | panicked

/-- What a receive finds. -/
inductive Receipt (α : Type) where
  | got (a : α) (ch : Chan α) | drained | empty

namespace Chan

variable {α : Type} {ch ch' : Chan α} {a : α}

/-- `case ch <- a:` of a `select` with a default. -/
def offer (ch : Chan α) (a : α) : Offer α :=
  if ch.closed then .panicked
  else if ch.buf.length < ch.cap then .sent { ch with buf := ch.buf ++ [a] }
  else .full

/-- `close(ch)`, unless it panics. -/
def close (ch : Chan α) : Option (Chan α) :=
  if ch.closed then none else some { ch with closed := true }

/-- `a, ok := <-ch`. -/
def receive (ch : Chan α) : Receipt α :=
  match ch.buf with
  | a :: rest => .got a { ch with buf := rest }
  | [] => if ch.closed then .drained else .empty

theorem offer_eq_panicked_iff : ch.offer a = .panicked ↔ ch.closed = true := by fun_cases offer ch a <;> simp_all

theorem eq_of_offer (sent : ch.offer a = .sent ch') :
    ch.closed = false ∧ ch' = { ch with buf := ch.buf ++ [a] } := by
  revert sent
  fun_cases offer ch a <;> rintro ⟨⟩
  exact ⟨Bool.eq_false_iff.mpr ‹_›, rfl⟩

theorem close_of_open (still : ch.closed = false) : ch.close = some { ch with closed := true } := by
  simp [close, still]

theorem eq_of_receive (got : ch.receive = .got a ch') : ch.buf = a :: ch'.buf ∧ ch'.closed = ch.closed := by
  revert got
  fun_cases receive ch <;> rintro ⟨⟩
  exact ⟨‹_›, rfl⟩

end Chan

end AgentGrid.Lib
