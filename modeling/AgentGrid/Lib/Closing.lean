import AgentGrid.Lib.Run
import Mathlib.Data.List.TakeWhile

/-!
# Closing once

A service closes in two phases.  A request opens a numbered transaction or joins the
one that is open; the transaction fails, and the service works on, or it finishes,
and the service stays closed.  Either way everyone who waits is answered.  `Move`
lists the moves with what each tells; the rules below speak about whole runs.
-/

namespace AgentGrid.Lib.Closing

open List

variable {W : Type}

/-- Where the service stands. -/
inductive Phase (W : Type) where
  | working | closing (id : Nat) (waiters : List W) | closed

def Phase.waiters : Phase W → List W
  | .closing _ waiters => waiters
  | _ => []

def Phase.isClosed : Phase W → Bool
  | .closed => true
  | _ => false

/-- The numbers issued so far, and the phase. -/
structure Book (W : Type) where
  issued : Nat
  phase : Phase W

/-- What a move tells: the transactions it opens, how often it ends the service, who asks and who is
answered. -/
structure Entry (W : Type) where
  opens : List Nat := []
  ends : Nat := 0
  (asked answered : List W := [])

inductive Move : Book W → Entry W → Book W → Prop where
  | rest (b : Book W) : Move b {} b
  | start (n : Nat) (asked : List W) :
      Move ⟨n, .working⟩ { opens := [n + 1], asked := asked } ⟨n + 1, .closing (n + 1) asked⟩
  | join (n id : Nat) (waiters asked : List W) :
      Move ⟨n, .closing id waiters⟩ { asked := asked } ⟨n, .closing id (waiters ++ asked)⟩
  | ignore (n : Nat) (asked : List W) : Move ⟨n, .closed⟩ { asked := asked } ⟨n, .closed⟩
  | fail (n id : Nat) (waiters : List W) : Move ⟨n, .closing id waiters⟩ { answered := waiters } ⟨n, .working⟩
  | finish (n id : Nat) (waiters : List W) :
      Move ⟨n, .closing id waiters⟩ { ends := 1, answered := waiters } ⟨n, .closed⟩

variable {b b' : Book W} {e : Entry W} {n : Nat} {labels : List (Entry W)}

theorem opens_increasing (run : Run Move ⟨n, .working⟩ labels b) :
    (labels.flatMap Entry.opens).Pairwise (· < ·) ∧ ∀ id ∈ labels.flatMap Entry.opens, id ≤ b.issued := by
  refine run.history (fun labels b => (labels.flatMap Entry.opens).Pairwise (· < ·) ∧
    ∀ id ∈ labels.flatMap Entry.opens, id ≤ b.issued) ?_ ?_
  · exact ⟨.nil, forall_mem_nil _⟩
  · rintro labels b e b' _ ⟨increasing, bounded⟩ move
    rw [flatMap_append, flatMap_singleton]
    cases move with
    | start =>
      constructor
      · refine pairwise_append.mpr ⟨increasing, pairwise_singleton _ _, ?_⟩
        intro id mem new isNew
        rw [mem_singleton.mp isNew]
        exact Nat.lt_succ_of_le (bounded id mem)
      · refine forall_mem_append.mpr ⟨?_, forall_mem_singleton.mpr le_rfl⟩
        intro id mem
        exact Nat.le_succ_of_le (bounded id mem)
    | rest | join | ignore | fail | finish =>
      rw [append_nil]
      exact ⟨increasing, bounded⟩

theorem ends_eq (run : Run Move ⟨n, .working⟩ labels b) : (labels.map Entry.ends).sum = b.phase.isClosed.toNat := by
  refine run.history (fun labels b => (labels.map Entry.ends).sum = b.phase.isClosed.toNat) rfl ?_
  intro labels b e b' _ counted move
  rw [map_append, sum_append, counted, map_singleton, sum_singleton]
  cases move <;> rfl

def askedInTime (labels : List (Entry W)) : List W :=
  (labels.takeWhile fun e => e.ends == 0).flatMap Entry.asked

theorem askedInTime_snoc_closed (ended : 0 < (labels.map Entry.ends).sum) (e : Entry W) :
    askedInTime (labels ++ [e]) = askedInTime labels := by
  unfold askedInTime
  rw [takeWhile_append, if_neg]
  intro all
  have whole := ( takeWhile_prefix fun e : Entry W => e.ends == 0).eq_of_length all
  have none_ends : (labels.map Entry.ends).sum = 0 := by
    refine List.sum_eq_zero_iff_forall_eq_nat.mpr ?_
    intro k mem
    obtain ⟨x, inLabels, rfl⟩ := mem_map.mp mem
    simpa using takeWhile_eq_self_iff.mp whole x inLabels
  omega

theorem askedInTime_snoc_open (unended : (labels.map Entry.ends).sum = 0) (e : Entry W) :
    askedInTime (labels ++ [e]) = askedInTime labels ++ if e.ends = 0 then e.asked else [] := by
  have whole : labels.takeWhile (fun e => e.ends == 0) = labels := by
    refine takeWhile_eq_self_iff.mpr ?_
    intro x mem
    have zero := List.sum_eq_zero_iff_forall_eq_nat.mp unended x.ends (mem_map_of_mem mem)
    simp [zero]
  unfold askedInTime
  rw [takeWhile_append, whole, if_pos rfl]
  by_cases ends : e.ends = 0 <;> simp [ends]

/-- Whoever asked in time was answered or still waits, as often as they asked. -/
theorem answered_or_waiting [DecidableEq W] (run : Run Move ⟨n, .working⟩ labels b) (w : W) :
    (labels.flatMap Entry.answered).count w + b.phase.waiters.count w = (askedInTime labels).count w := by
  refine run.history (fun labels b => (labels.flatMap Entry.answered).count w +
    b.phase.waiters.count w = (askedInTime labels).count w) rfl ?_
  intro labels b e b' run balance move
  have ended := ends_eq run
  rw [flatMap_append, flatMap_singleton, count_append]
  cases move with
  | rest =>
    by_cases closed : b.phase.isClosed
    · rw [closed] at ended
      rw [askedInTime_snoc_closed (by rw [ended]; decide)]
      simpa using balance
    rw [Bool.not_eq_true] at closed
    rw [closed] at ended
    rw [askedInTime_snoc_open ended]
    simpa using balance
  | ignore =>
    rw [askedInTime_snoc_closed (by rw [ended]; exact Nat.one_pos)]
    simpa using balance
  | start =>
    rw [askedInTime_snoc_open ended]
    simp only [if_true, count_append, count_nil, Phase.waiters] at balance ⊢
    omega
  | join n id waiters =>
    rw [askedInTime_snoc_open ended]
    simp only [if_true, count_append, count_nil, Phase.waiters] at balance ⊢
    omega
  | fail n id waiters =>
    rw [askedInTime_snoc_open ended]
    simp only [if_true, count_append, count_nil, Phase.waiters] at balance ⊢
    omega
  | finish n id waiters =>
    rw [askedInTime_snoc_open ended]
    simp only [Phase.waiters, count_nil] at balance ⊢
    simpa using balance

end AgentGrid.Lib.Closing
