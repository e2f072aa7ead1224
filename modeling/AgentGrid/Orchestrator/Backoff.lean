import AgentGrid.Orchestrator.Reduce
import Mathlib.Tactic.IntervalCases
import Mathlib.Tactic.Linarith
import Mathlib.Tactic.NormNum

/-!
# The backoff of a retry

The delay before a retry doubles with the attempt, up to a cap.  The doubling is done in machine
integers before the cap is applied, and the shift is limited only where it would lose its last
bit.  For some attempts past the fiftieth the product wraps around: the delay is not positive.
-/

namespace AgentGrid.Orchestrator

open AgentGrid.Lib

/-- The attempts whose doubled delay, though it may have wrapped around, is still above every cap
or exact. -/
def Fits (attempt : Int) : Prop :=
  attempt ≤ 50 ∨ attempt = 52 ∨ attempt = 53 ∨ 57 ≤ attempt ∧ attempt ≤ 59

instance (attempt : Int) : Decidable (Fits attempt) := inferInstanceAs (Decidable (_ ∨ _))

/-- The delay before the attempt in nanoseconds, with the given cap in milliseconds and without
machine arithmetic. -/
def exactDelay (attempt cap : Int) : Int :=
  min (10 * 1000000000 * 2 ^ (attempt - 1).toNat) (cap * 1000000)

theorem wrap64_of_small {n : Int} (low : -2 ^ 63 ≤ n) (high : n < 2 ^ 63) : wrap64 n = n := by
  exact Int.bmod_eq_of_le (by norm_num; exact low) (by norm_num; exact high)

section Delay

variable {cfg : Config} {a b : Int}

section

variable (positive : 0 < cfg.agent.maxRetryBackoffMS)

include positive

theorem backoffDelay_of_base (first : 1 ≤ a)
    {base : Int} (shifted : wrap64 (10000 * 2 ^ (min (a - 1) 62).toNat) = base) :
    backoffDelay a cfg = wrap64 (min base cfg.agent.maxRetryBackoffMS * 1000000) := by
  have shift : (if a - 1 > 62 then 62 else a - 1) = min (a - 1) 62 := by split <;> omega
  have capped : (if cfg.agent.maxRetryBackoffMS > 0 ∧ base > cfg.agent.maxRetryBackoffMS
      then cfg.agent.maxRetryBackoffMS else base) = min base cfg.agent.maxRetryBackoffMS := by
    split <;> omega
  simp only [backoffDelay, if_neg (not_lt.mpr first), shift, shifted, capped, millisecond]

theorem backoffDelay_of_exact (bounded : cfg.agent.maxRetryBackoffMS ≤ 10 ^ 9) (first : 1 ≤ a) {base : Int}
    (shifted : wrap64 (10000 * 2 ^ (min (a - 1) 62).toNat) = base)
    (exact : base = 10000 * 2 ^ (a - 1).toNat ∨ 10 ^ 9 ≤ base ∧ 10 ^ 9 ≤ 10000 * (2 : Int) ^ (a - 1).toNat) :
    backoffDelay a cfg = exactDelay a cfg.agent.maxRetryBackoffMS := by
  have power : (1 : Int) ≤ 2 ^ (a - 1).toNat := one_le_pow₀ (by norm_num)
  rw [backoffDelay_of_base positive first shifted, exactDelay]
  generalize hp : (2 : Int) ^ (a - 1).toNat = p at power exact ⊢
  generalize hc : cfg.agent.maxRetryBackoffMS = cap at positive bounded ⊢
  have small : 0 ≤ min base cap ∧ min base cap ≤ 10 ^ 9 := by omega
  have scaled : (min base cap * 1000000 : Int) = min (10 * 1000000000 * p) (cap * 1000000) := by omega
  rw [wrap64_of_small (by omega) (by omega), scaled]

theorem backoffDelay_of_fits (bounded : cfg.agent.maxRetryBackoffMS ≤ 10 ^ 9) (first : 1 ≤ a) (fits : Fits a) :
    backoffDelay a cfg = exactDelay a cfg.agent.maxRetryBackoffMS := by
  rcases fits with low | wrapped
  · refine backoffDelay_of_exact positive bounded first (wrap64_of_small ?_ ?_) (.inl ?_)
    · have power : (0 : Int) < 2 ^ (min (a - 1) 62).toNat := pow_pos (by norm_num) _
      omega
    · have power : (2 : Int) ^ (min (a - 1) 62).toNat ≤ 2 ^ 49 := pow_le_pow_right₀ (by norm_num) (by omega)
      omega
    · rw [min_eq_left (by omega)]
  obtain rfl | rfl | ⟨lower, upper⟩ := wrapped
  on_goal 3 => interval_cases a
  all_goals
    exact backoffDelay_of_exact positive bounded first rfl (.inr ⟨by decide +kernel, by decide +kernel⟩)

theorem backoffDelay_of_not_fits (unfit : ¬Fits a) : (backoffDelay a cfg : Int) ≤ 0 := by
  have first : 1 ≤ a := by
    unfold Fits at unfit
    omega
  have base : wrap64 (10000 * 2 ^ (min (a - 1) 62).toNat) = 0 ∨ a = 51 ∨ a = 54 ∨ a = 55 ∨ a = 56 ∨ a = 60 := by
    unfold Fits at unfit
    by_cases late : 61 ≤ a
    · have shift : min (a - 1) 62 = 60 ∨ min (a - 1) 62 = 61 ∨ min (a - 1) 62 = 62 := by omega
      left
      rcases shift with shift | shift | shift <;> rw [shift] <;> decide +kernel
    · omega
  rcases base with zero | rfl | rfl | rfl | rfl | rfl
  · rw [backoffDelay_of_base positive first zero, min_eq_left positive.le]
    decide
  all_goals
    rw [backoffDelay_of_base positive first rfl, min_eq_left (le_trans (by decide +kernel) positive.le)]
    decide +kernel

end

theorem exactDelay_mono {cap : Int} (order : a ≤ b) : exactDelay a cap ≤ exactDelay b cap := by
  unfold exactDelay
  have power : (2 : Int) ^ (a - 1).toNat ≤ 2 ^ (b - 1).toNat := pow_le_pow_right₀ (by norm_num) (by omega)
  omega

theorem exactDelay_pos {cap : Int} (positive : 0 < cap) : 1000000 ≤ exactDelay a cap := by
  unfold exactDelay
  have power : (1 : Int) ≤ 2 ^ (a - 1).toNat := one_le_pow₀ (by norm_num)
  omega

theorem armRetry_due {s : State} {entry : RetryEntry} {delay now : Int} (least : 1000000 ≤ delay) :
    ∃ stored, (armRetry s entry delay now).1.retryAttempts.get? entry.issueID = some stored ∧
      Time.unixMilli now < stored.dueAtMS := by
  refine ⟨_, GoMap.get?_set_self _ _ _, ?_⟩
  show (now - 62135596800 * 1000000000) / 1000000 < (now + delay - 62135596800 * 1000000000) / 1000000
  omega

/-- The delays before two attempts are positive, ordered, capped and exact, and an entry stored
with the first of them is due after now, exactly if the attempts are among those that fit. -/
theorem backoffDelay_sane_iff (positive : 0 < cfg.agent.maxRetryBackoffMS)
    (bounded : cfg.agent.maxRetryBackoffMS ≤ 10 ^ 9) (first : 1 ≤ a) (order : a ≤ b) :
    ((0 : Int) < backoffDelay a cfg ∧ (backoffDelay a cfg : Int) ≤ backoffDelay b cfg ∧
      (backoffDelay b cfg : Int) ≤ cfg.agent.maxRetryBackoffMS * 1000000 ∧
      backoffDelay a cfg = exactDelay a cfg.agent.maxRetryBackoffMS ∧
      ∀ (s : State) (entry : RetryEntry) (now : Time), entry.attempt = a →
        ∃ stored, (armRetry s entry (backoffDelay entry.attempt cfg) now).1.retryAttempts.get?
          entry.issueID = some stored ∧ now.unixMilli < stored.dueAtMS) ↔ Fits a ∧ Fits b := by
  constructor
  · rintro ⟨above, ordered, -⟩
    constructor
    · by_contra unfit
      exact absurd above (not_lt.mpr (backoffDelay_of_not_fits positive unfit))
    · by_contra unfit
      exact absurd (lt_of_lt_of_le above ordered) (not_lt.mpr (backoffDelay_of_not_fits positive unfit))
  · rintro ⟨fitsA, fitsB⟩
    have delayA := backoffDelay_of_fits positive bounded first fitsA
    have delayB := backoffDelay_of_fits positive bounded (first.trans order) fitsB
    have least := delayA ▸ exactDelay_pos positive
    refine ⟨lt_of_lt_of_le (by decide) least, ?_, ?_, delayA, ?_⟩
    · rw [delayA, delayB]
      exact exactDelay_mono order
    · rw [delayB]
      exact min_le_right _ _
    · intro s entry now attempt
      exact armRetry_due (attempt ▸ least)

def fiveMinutes : Config := { agent := { maxRetryBackoffMS := 300000 } }

theorem backoffDelay_sane_fifty : (0 : Int) < backoffDelay 1 fiveMinutes ∧
      (backoffDelay 1 fiveMinutes : Int) ≤ backoffDelay 50 fiveMinutes ∧ Fits 50 := by
  have sane := (@backoffDelay_sane_iff fiveMinutes 1 50 (by decide) (by decide) (by decide)
    (by decide)).mpr (by decide)
  exact ⟨sane.1, sane.2.1, by decide⟩

/-- The fifty-first attempt is due before now, and the sixty-first at once. -/
theorem backoffDelay_wraps :
    backoffDelay 51 fiveMinutes = -8070450532247928832 ∧ backoffDelay 61 fiveMinutes = 0 := by decide +kernel

end Delay

end AgentGrid.Orchestrator
