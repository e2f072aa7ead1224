import AgentGrid.Lib.Run

/-!
# Deferred answers

A server answers a request at once, or passes it on and answers when the result
comes back; a result may also be lost on the way.  `Move` lists the moves that
concern one client.  Over a run nothing else happens to a request: it is answered,
still out, or lost.
-/

namespace AgentGrid.Lib.Deferred

open List

/-- What a move tells: the requests made, the answers given and the results lost. -/
structure Entry where
  (asked answered lost : Nat := 0)

/-- The moves, between the numbers of requests that are out. -/
inductive Move : Nat → Entry → Nat → Prop where
  | rest (n : Nat) : Move n {} n
  | answer (n : Nat) : Move n { asked := 1, answered := 1 } n
  | pass (n : Nat) : Move n { asked := 1 } (n + 1)
  | deliver (n : Nat) : Move (n + 1) { answered := 1 } n
  | lose (n : Nat) : Move (n + 1) { lost := 1 } n

variable {n n' : Nat} {e : Entry} {labels : List Entry}

section Seen

variable (n : Nat) (mine : Prop) [Decidable mine]

/-- An answer at once, as a client sees it that may or may not be the one answered. -/
theorem Move.answer_if : Move n { asked := if mine then 1 else 0, answered := if mine then 1 else 0 } n := by
  split
  · exact .answer n
  · exact .rest n

theorem Move.pass_if : Move n { asked := if mine then 1 else 0 } (n + if mine then 1 else 0) := by
  split
  · exact .pass n
  · exact .rest n

theorem Move.deliver_if : Move (n + if mine then 1 else 0) { answered := if mine then 1 else 0 } n := by
  split
  · exact .deliver n
  · exact .rest n

theorem Move.lose_if : Move (n + if mine then 1 else 0) { lost := if mine then 1 else 0 } n := by
  split
  · exact .lose n
  · exact .rest n

end Seen

theorem Move.balance (move : Move n e n') : e.answered + e.lost + n' = e.asked + n := by
  cases move with
  | rest | answer => simp only
  | pass | deliver | lose =>
    simp only
    omega

theorem conserved (run : Run Move 0 labels n) :
    (labels.map Entry.answered).sum + (labels.map Entry.lost).sum + n = (labels.map Entry.asked).sum := by
  refine run.history (fun labels n =>
    (labels.map Entry.answered).sum + (labels.map Entry.lost).sum + n = (labels.map Entry.asked).sum) rfl ?_
  intro labels n e n' _ kept move
  have balance := move.balance
  simp only [map_append, sum_append, map_cons, map_nil, sum_cons, sum_nil]
  omega

/-- Every request is answered or still out exactly when no result was lost. -/
theorem answered_or_out_iff (run : Run Move 0 labels n) :
    (labels.map Entry.answered).sum + n = (labels.map Entry.asked).sum ↔ ∀ e ∈ labels, e.lost = 0 := by
  have kept := conserved run
  have none_lost : (labels.map Entry.lost).sum = 0 ↔ ∀ e ∈ labels, e.lost = 0 := by
    rw [List.sum_eq_zero_iff_forall_eq_nat, forall_mem_map]
  rw [← none_lost]
  omega

end AgentGrid.Lib.Deferred
