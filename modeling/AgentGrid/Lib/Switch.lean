import AgentGrid.Lib.Run
import Mathlib.Data.List.Chain

/-!
# Switches

A panel of switches, one for each key, all off at the start.  A system that emits
signals reports on the panel when a step signals a key only to flip its switch, and
flips no switch silently.  Along every run the signals of a key then alternate,
beginning with "on", and the last of them is the position of the switch.
-/

namespace AgentGrid.Lib

open List

def Alternates (signals : List Bool) : Prop := (false :: signals).IsChain (· ≠ ·)

/-- The signals of one step take the switch from one position to the other, or leave it alone. -/
inductive Flips : Bool → List Bool → Bool → Prop where
  | rest (on : Bool) : Flips on [] on
  | flip (on : Bool) : Flips (!on) [on] on

theorem Flips.off {before after : Bool} {signals : List Bool} (flips : Flips before signals after)
    (on : before = true) (off : after = false) : false ∈ signals := by
  cases flips with
  | rest => cases on.symm.trans off
  | flip =>
    rw [off]
    exact mem_singleton_self _

/-- The signals so far alternate and the last of them is the position. -/
structure Reported (signals : List Bool) (on : Bool) : Prop where
  alternates : Alternates signals
  last : on = true ↔ signals.getLast? = some true

namespace Reported

theorem start : Reported [] false := ⟨by simp [Alternates], by simp⟩

theorem step {signals new : List Bool} {on on' : Bool} (reported : Reported signals on)
    (flips : Flips on new on') : Reported (signals ++ new) on' := by
  cases flips with
  | rest => rwa [append_nil]
  | flip =>
    refine ⟨?_, by simp⟩
    have chain := reported.alternates
    have last := reported.last
    unfold Alternates at chain ⊢
    rw [← cons_append, isChain_append]
    refine ⟨chain, by simp, ?_⟩
    intro before atEnd after atHead
    obtain rfl : on' = after := by simpa using atHead
    cases signals with
    | nil =>
      have off : before = false := by simpa using atEnd.symm
      cases on' with
      | true => simp [off]
      | false => simp at last
    | cons =>
      rw [getLast?_cons_cons] at atEnd
      rw [atEnd] at last
      cases on' <;> cases before <;> simp_all

end Reported

section Runs

variable {σ l κ : Type} {Step : σ → l → σ → Prop} {start s : σ} {labels : List l}

theorem Run.reported (signals : l → κ → List Bool) (on : σ → κ → Bool) (off : ∀ k, on start k = false)
    (steps : ∀ s a s', Step s a s' → ∀ k, Flips (on s k) (signals a k) (on s' k))
    (run : Run Step start labels s) (k : κ) : Reported (labels.flatMap fun a => signals a k) (on s k) := by
  induction run with
  | refl =>
    rw [off]
    exact .start
  | snoc _ step ih =>
    rw [flatMap_append, flatMap_singleton]
    exact ih.step (steps _ _ _ step k)

end Runs

end AgentGrid.Lib
