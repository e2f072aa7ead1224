import Mathlib.Data.List.Nodup
import Mathlib.Data.List.Dedup

/-!
# Most-recently-used stacks

A bounded stack of distinct items, most recent first.  Pushing an item moves it
to the front and cuts the stack at its bound; pruning keeps the first occurrence
of every item that is still known; popping skips items that are no longer known.
-/

namespace AgentGrid.Lib.Mru

open List

variable {α : Type} [DecidableEq α]

/-- Move an item to the front and keep at most `bound` items. -/
def push (bound : Nat) (a : α) (stack : List α) : List α :=
  (a :: stack.filter (fun b => b ≠ a)).take bound

/-- The known items in order, each once; `seen` holds the items already kept. -/
def prune (known : α → Bool) (seen : List α) : List α → List α
  | [] => []
  | a :: rest =>
    if known a && !seen.contains a then a :: prune known (a :: seen) rest
    else prune known seen rest

def pop (known : α → Bool) : List α → Option α × List α
  | [] => (none, [])
  | a :: rest => if known a then (some a, rest) else pop known rest

theorem push_length_le (bound : Nat) (a : α) (stack : List α) : (push bound a stack).length ≤ bound :=
  length_take_le _ _

variable {bound : Nat} {a : α} {stack : List α}

theorem push_nodup (nodup : stack.Nodup) : (push bound a stack).Nodup := by
  refine List.Nodup.sublist (take_sublist _ _) (nodup_cons.mpr ⟨?_, nodup.filter _⟩)
  simp

theorem mem_of_mem_push {b : α} (mem : b ∈ push bound a stack) : b = a ∨ b ∈ stack := by
  have kept := mem_of_mem_take mem
  rcases mem_cons.mp kept with rfl | older
  · exact Or.inl rfl
  · exact Or.inr (mem_of_mem_filter older)

theorem prune_sublist (known : α → Bool) (seen stack : List α) : (prune known seen stack).Sublist stack := by
  induction stack generalizing seen with
  | nil => exact List.Sublist.refl _
  | cons a rest ih =>
    unfold prune
    split
    · exact (ih _).cons_cons a
    · exact (ih _).cons a

variable {known : α → Bool}

theorem prune_known {seen : List α} (mem : a ∈ prune known seen stack) : known a = true := by
  induction stack generalizing seen with
  | nil => cases mem
  | cons b rest ih =>
    unfold prune at mem
    split at mem
    · rename_i kept
      rcases mem_cons.mp mem with rfl | below
      · exact (Bool.and_eq_true_iff.mp kept).1
      · exact ih below
    · exact ih mem

omit [DecidableEq α] in
theorem pop_below_sublist (known : α → Bool) (stack : List α) : (pop known stack).2.Sublist stack := by
  induction stack with
  | nil => exact List.Sublist.refl _
  | cons a rest ih =>
    unfold pop
    split
    · exact (List.Sublist.refl rest).cons a
    · exact ih.cons a

omit [DecidableEq α] in
theorem pop_known (popped : (pop known stack).1 = some a) : known a = true ∧ a ∈ stack := by
  induction stack with
  | nil => cases popped
  | cons b rest ih =>
    unfold pop at popped
    split at popped
    · rename_i kept
      cases popped
      exact ⟨kept, mem_cons_self⟩
    · exact ⟨(ih popped).1, mem_cons_of_mem _ (ih popped).2⟩

end AgentGrid.Lib.Mru
