import AgentGrid.Orchestrator.Reduce
import Mathlib.Data.Prod.Lex

/-!
# A dispatch pass

A pass goes through the eligible candidates in the order of their priorities.  It takes an issue
unless its state has reached its limit or the issue is taken, and it ends when the slots are used
up: the choice is greedy.
-/

namespace AgentGrid.Orchestrator

open AgentGrid.Lib List Function

theorem claim_eq_some {s : State} {iss : Issue} {claimed : State} : claim s iss = some claimed ↔
      (s.claimed.get? iss.id = none ∧ s.running.get? iss.id = none) ∧ claimed = { s with
            retryAttempts := s.retryAttempts.delete iss.id, claimed := s.claimed.set iss.id () } := by
  unfold claim
  cases s.claimed.get? iss.id <;> cases s.running.get? iss.id <;> simp [eq_comm]

variable {lower : String → String} {cfg : Config}

theorem eligible_new {s : State} {iss : Issue} (passed : eligible lower iss s cfg = true) :
    s.running.get? iss.id = none ∧ s.claimed.get? iss.id = none ∧ s.retryAttempts.get? iss.id = none := by
  revert passed
  fun_cases eligible lower iss s cfg <;> intro passed <;> try cases passed
  simp_all

variable (lower cfg)

/-- What the loop of `reduceCandidates` chooses, and the state it leaves. -/
inductive Pass : List Issue → State → Int → (String → Int) → List Issue → State → Prop where
  | stop {issues : List Issue} {s : State} {avail : Int} {used : String → Int}
      (ended : issues = [] ∨ avail ≤ 0) : Pass issues s avail used [] s
  | skip {iss : Issue} {rest chosen : List Issue} {s s' : State} {avail : Int}
      {used : String → Int}
      (refused : stateCapacity cfg (lower iss.state) ≤ used (lower iss.state) ∨ claim s iss = none)
      (later : Pass rest s avail used chosen s') : Pass (iss :: rest) s avail used chosen s'
  | take {iss : Issue} {rest chosen : List Issue} {s claimed s' : State} {avail : Int}
      {used : String → Int} (left : 0 < avail)
      (free : used (lower iss.state) < stateCapacity cfg (lower iss.state))
      (taken : claim s iss = some claimed)
      (later : Pass rest claimed (avail - 1)
        (Function.update used (lower iss.state) (used (lower iss.state) + 1)) chosen s') :
      Pass (iss :: rest) s avail used (iss :: chosen) s'

theorem claimWinners_pass (issues : List Issue) (s : State) (avail : Int) (used : String → Int) :
    ∃ chosen, Pass lower cfg issues s avail used chosen (claimWinners lower cfg issues s avail used).1 ∧
      (claimWinners lower cfg issues s avail used).2 = chosen.map (.revalidate · 0) := by
  fun_induction claimWinners lower cfg issues s avail used with
  | case1 => exact ⟨[], .stop (.inl rfl), rfl⟩
  | case2 iss rest s avail used none => exact ⟨[], .stop (.inr none), rfl⟩
  | case3 iss rest s avail used left norm full ih =>
    obtain ⟨chosen, pass, effects⟩ := ih
    exact ⟨chosen, .skip (.inl full) pass, effects⟩
  | case4 iss rest s avail used left norm free refused ih =>
    obtain ⟨chosen, pass, effects⟩ := ih
    exact ⟨chosen, .skip (.inr refused) pass, effects⟩
  | case5 iss rest s avail used left norm free claimed taken r ih =>
    obtain ⟨chosen, pass, effects⟩ := ih
    exact ⟨iss :: chosen, .take (not_le.mp left) (not_le.mp free) taken pass, by
      rw [map_cons, ← effects]⟩

theorem reduceCandidates_pass (s : State) (cands : List Issue) :
    ∃ chosen, Pass lower cfg (sortCandidates (filterEligible lower cands s cfg)) s
        (availableGlobalSlots s cfg) (fun norm => runningInState lower s norm) chosen
        (reduceCandidates lower s cands cfg).1 ∧
      (reduceCandidates lower s cands cfg).2 = chosen.map (.revalidate · 0) :=
  claimWinners_pass lower cfg _ s _ _

variable {lower cfg} in
theorem mem_eligibles {s : State} {cands : List Issue} {x : Issue} :
    x ∈ sortCandidates (filterEligible lower cands s cfg) ↔ x ∈ cands ∧ eligible lower x s cfg = true := by
  rw [sortCandidates, mem_insertionSort, filterEligible, mem_filter]

namespace Pass

variable {lower cfg} {issues chosen : List Issue} {s s' : State} {avail : Int} {used : String → Int}

section

variable (pass : Pass lower cfg issues s avail used chosen s')

include pass

theorem running : s'.running = s.running := by
  induction pass with
  | stop => rfl
  | skip _ _ ih => exact ih
  | take _ _ taken _ ih => rw [ih, (claim_eq_some.mp taken).2]

theorem sublist : chosen.Sublist issues := by
  induction pass with
  | stop => exact nil_sublist _
  | skip _ _ ih => exact ih.cons _
  | take _ _ _ _ ih => exact ih.cons_cons _

theorem length_le : (chosen.length : Int) ≤ max 0 avail := by
  induction pass with
  | stop => exact le_max_left _ _
  | skip _ _ ih => exact ih
  | take =>
    rw [length_cons]
    omega

/-- Exactly the chosen issues are claimed, which nobody held, and each of them once. -/
theorem claimed : (chosen.map Issue.id).Nodup ∧ (∀ x ∈ chosen, s.claimed.get? x.id = none) ∧
      ∀ id, (s'.claimed.get? id).isSome ↔ (s.claimed.get? id).isSome ∨ id ∈ chosen.map Issue.id := by
  induction pass with
  | stop => exact ⟨nodup_nil, forall_mem_nil _, by simp⟩
  | skip _ _ ih => exact ih
  | @take iss _ later s _ _ _ _ _ _ taken _ ih =>
    obtain ⟨⟨fresh, -⟩, rfl⟩ := claim_eq_some.mp taken
    obtain ⟨nodup, unheld, ids⟩ := ih
    simp only [GoMap.get?_set] at unheld ids
    have others : ∀ x ∈ later, x.id ≠ iss.id ∧ s.claimed.get? x.id = none := by
      intro x mem
      have unclaimed := unheld x mem
      split at unclaimed
      · cases unclaimed
      · rename_i other
        exact ⟨other, unclaimed⟩
    refine ⟨?_, forall_mem_cons.mpr ⟨fresh, fun x mem => (others x mem).2⟩, fun id => ?_⟩
    · refine nodup_cons.mpr ⟨fun mem => ?_, nodup⟩
      obtain ⟨x, inside, same⟩ := mem_map.mp mem
      exact (others x inside).1 same
    · rw [ids, map_cons, mem_cons]
      split <;> simp_all

/-- A state is within its limit, if it was and an issue in it is chosen. -/
theorem capped (norm : String) : chosen.countP (fun x => lower x.state = norm) = 0 ∨
      used norm + chosen.countP (fun x => lower x.state = norm) ≤ stateCapacity cfg norm := by
  induction pass with
  | stop => exact .inl rfl
  | skip _ _ ih => exact ih
  | @take iss _ _ _ _ _ _ used _ free _ _ ih =>
    rw [countP_cons]
    by_cases same : lower iss.state = norm
    · subst same
      rw [update_self] at ih
      simp only [decide_true, if_true]
      omega
    · rw [update_of_ne (Ne.symm same)] at ih
      simp only [same, decide_false, Bool.false_eq_true, if_false, Nat.add_zero]
      exact ih

/-- Why an issue is not chosen, given what is chosen before it. -/
theorem passedOver {pre post : List Issue} {x : Issue} (place : issues = pre ++ x :: post) (unchosen : x ∉ chosen) :
    ∃ before after, chosen = before ++ after ∧ before.Sublist pre ∧ after.Sublist post ∧
      (avail ≤ before.length ∨ stateCapacity cfg (lower x.state) ≤
          used (lower x.state) + before.countP (fun y => lower y.state = lower x.state) ∨
        (∃ y ∈ before, y.id = x.id) ∨ claim s x = none) := by
  induction pass generalizing pre with
  | stop ended =>
    refine ⟨[], [], rfl, nil_sublist _, nil_sublist _, .inl ?_⟩
    rcases ended with none | none
    · simp [none] at place
    · exact none
  | skip refused later ih =>
    cases pre with
    | nil =>
      obtain ⟨rfl, rfl⟩ := List.cons.inj place
      refine ⟨[], _, rfl, nil_sublist _, later.sublist, .inr ?_⟩
      exact refused.imp (by simp) .inr
    | cons =>
      obtain ⟨before, after, split, early, late, reason⟩ := ih (List.cons.inj place).2 unchosen
      exact ⟨before, after, split, early.cons _, late, reason⟩
  | @take iss _ _ s _ _ _ used _ _ taken _ ih =>
    rw [mem_cons, not_or] at unchosen
    cases pre with
    | nil => exact absurd (List.cons.inj place).1.symm unchosen.1
    | cons =>
      obtain ⟨rfl, rest⟩ := List.cons.inj place
      obtain ⟨before, after, rfl, early, late, reason⟩ := ih rest unchosen.2
      refine ⟨iss :: before, after, rfl, early.cons_cons _, late, ?_⟩
      rcases reason with spent | full | ⟨y, mem, same⟩ | held
      · left
        rw [length_cons]
        omega
      · right; left
        rw [countP_cons]
        by_cases same : lower iss.state = lower x.state
        · rw [same, update_self] at full
          simp only [same, decide_true, if_true]
          omega
        · rw [update_of_ne (Ne.symm same)] at full
          omega
      · exact .inr (.inr (.inl ⟨y, mem_cons_of_mem _ mem, same⟩))
      · right; right
        obtain ⟨-, rfl⟩ := claim_eq_some.mp taken
        by_cases same : iss.id = x.id
        · exact .inl ⟨iss, mem_cons_self, same⟩
        · right
          simpa [claim, GoMap.get?_set, Ne.symm same] using held

end

end Pass

/-! ## The order of the candidates -/

/-- Priority first, none last, then age, then identifier. -/
def Issue.rank (x : Issue) : Nat ×ₗ Int ×ₗ Int ×ₗ String :=
  toLex (if x.priority.isNone then 1 else 0, toLex (x.priority.getD 0, toLex (x.createdAt, x.identifier)))

theorem candidateLess_iff (a b : Issue) : candidateLess a b = true ↔ a.rank < b.rank := by
  have tie : (if a.createdAt ≠ b.createdAt then decide (a.createdAt < b.createdAt)
      else decide (a.identifier < b.identifier)) = true ↔
      a.createdAt < b.createdAt ∨ a.createdAt = b.createdAt ∧ a.identifier < b.identifier := by
    by_cases same : a.createdAt = b.createdAt <;> simp [same]
  simp only [Issue.rank, Prod.Lex.toLex_lt_toLex, ← tie]
  unfold candidateLess
  cases a.priority with
  | none => cases b.priority <;> simp
  | some p =>
    cases b.priority with
    | none => simp
    | some q => by_cases same : p = q <;> simp [same]

theorem sortCandidates_sorted (cands : List Issue) : (sortCandidates cands).Pairwise fun a b => a.rank ≤ b.rank := by
  have order : ∀ a b, candidateLess b a = false ↔ a.rank ≤ b.rank := by
    intro a b
    rw [← Bool.not_eq_true, candidateLess_iff, not_lt]
  have total : Std.Total fun a b => candidateLess b a = false := ⟨fun a b => by rw [order, order]; exact le_total _ _⟩
  have trans : IsTrans Issue fun a b => candidateLess b a = false :=
    ⟨fun a b c first second => by rw [order] at *; exact first.trans second⟩
  exact (pairwise_insertionSort _ cands).imp (order _ _).mp

/-- The issues a pass dispatches are distinct and eligible, exactly those newly claimed, and within
the slots and the limits of their states; any other eligible candidate was passed over because of
those chosen before it. -/
theorem dispatch_greedy (s : State) (cands : List Issue) : ∃ chosen : List Issue,
      (reduceCandidates lower s cands cfg).2 = chosen.map (.revalidate · 0) ∧ (chosen.map Issue.id).Nodup ∧
      (∀ x ∈ chosen, x ∈ cands ∧ eligible lower x s cfg = true ∧ s.claimed.get? x.id = none) ∧
      (∀ id, ((reduceCandidates lower s cands cfg).1.claimed.get? id).isSome ↔
        (s.claimed.get? id).isSome ∨ id ∈ chosen.map Issue.id) ∧ (chosen.length : Int) ≤ availableGlobalSlots s cfg ∧
      (∀ x ∈ chosen, (runningInState lower s (lower x.state) : Int) +
        chosen.countP (fun y => lower y.state = lower x.state) ≤ stateCapacity cfg (lower x.state)) ∧
      ∀ x ∈ cands, eligible lower x s cfg = true → x ∉ chosen → ∃ before after, chosen = before ++ after ∧
          (∀ y ∈ before, y.rank ≤ x.rank) ∧ (∀ y ∈ after, x.rank ≤ y.rank) ∧
          (availableGlobalSlots s cfg ≤ before.length ∨
            stateCapacity cfg (lower x.state) ≤ runningInState lower s (lower x.state) +
              before.countP (fun y => lower y.state = lower x.state) ∨ ∃ y ∈ before, y.id = x.id) := by
  obtain ⟨chosen, pass, effects⟩ := reduceCandidates_pass lower cfg s cands
  obtain ⟨nodup, fresh, ids⟩ := pass.claimed
  refine ⟨chosen, effects, nodup, ?_, ids, ?_, ?_, ?_⟩
  · intro x mem
    have found := mem_eligibles.mp (pass.sublist.subset mem)
    exact ⟨found.1, found.2, fresh x mem⟩
  · exact pass.length_le.trans (max_le (le_max_left _ _) le_rfl)
  · intro x mem
    refine (pass.capped (lower x.state)).resolve_left fun none => ?_
    simpa using countP_eq_zero.mp none x mem
  · intro x mem passed unchosen
    obtain ⟨pre, post, place⟩ := append_of_mem (mem_eligibles.mpr ⟨mem, passed⟩)
    have sorted := sortCandidates_sorted (filterEligible lower cands s cfg)
    rw [place, pairwise_append, pairwise_cons] at sorted
    obtain ⟨before, after, split, early, late, reason⟩ := pass.passedOver place unchosen
    refine ⟨before, after, split, fun y inside => ?_, fun y inside => ?_, ?_⟩
    · exact sorted.2.2 y (early.subset inside) x mem_cons_self
    · exact sorted.2.1.1 y (late.subset inside)
    · rcases reason with spent | full | same | held
      · exact .inl spent
      · exact .inr (.inl full)
      · exact .inr (.inr same)
      · obtain ⟨idle, unclaimed, -⟩ := eligible_new passed
        simp [claim, idle, unclaimed] at held

end AgentGrid.Orchestrator
