import Mathlib.Data.List.Basic

/-!
# One slot of a list

Goroutines that are alive stand in a list; a step of one of them rewrites its slot or takes it out,
and what stands before and after it stays.
-/

namespace AgentGrid.Lib

open List

variable {α β : Type} {l : List α} {i : Nat} {a : α}

theorem slot (held : l[i]? = some a) : ∃ before after, l = before ++ a :: after ∧
    (∀ b, l.set i b = before ++ b :: after) ∧ l.eraseIdx i = before ++ after := by
  obtain ⟨inside, rfl⟩ := List.getElem?_eq_some_iff.mp held
  refine ⟨l.take i, l.drop (i + 1), ?_, fun b => ?_, eraseIdx_eq_take_drop_succ l i⟩
  · rw [← drop_eq_getElem_cons inside, take_append_drop]
  · exact set_eq_take_append_cons_drop ▸ if_pos inside

end AgentGrid.Lib
