import AgentGrid.Orchestrator.Shell
import Mathlib.Logic.Relation

/-!
# The claim on one issue

What the scheduler holds of one issue, and what can become of it.  An issue waits for its retry
by an armed timer, by a request that has fired, or by an effect about to arm the one or to
resolve the other; it is dispatched by an effect about to validate or to spawn it.  Every event
of the reducer moves the claim on each issue through the moves below, which keep it in one of
five places.
-/

namespace AgentGrid.Orchestrator

open AgentGrid.Lib Relation

structure Claim where
  (running claimed retrying : Bool)
  (waits dispatches : Nat)

inductive MoveKind where
  | claim | abandon | start | fail | stop | finish | requeue | drop | redispatch | refuse

/-- The claim on an issue that is queued for retry and that nothing waits for. -/
def Claim.stranded : Claim := ⟨false, false, true, 0, 0⟩

inductive Move : Claim → MoveKind → Claim → Prop where
  /-- A candidate is claimed and will be validated. -/
  | claim {w d : Nat} : Move ⟨false, false, false, w, d⟩ .claim ⟨false, true, false, w, d + 1⟩
  /-- The validation finds the issue gone or inactive. -/
  | abandon {r c q : Bool} {w d : Nat} : Move ⟨r, c, q, w, d + 1⟩ .abandon ⟨false, false, false, w, d⟩
  /-- The spawn succeeds. -/
  | start {r c q : Bool} {w d : Nat} : Move ⟨r, c, q, w, d + 1⟩ .start ⟨true, c, q, w, d⟩
  /-- The spawn fails. -/
  | fail {r c q : Bool} {w d : Nat} : Move ⟨r, c, q, w, d + 1⟩ .fail ⟨false, false, true, w + 1, d⟩
  /-- The worker exits or is killed, and a retry is armed. -/
  | stop {c q : Bool} {w d : Nat} : Move ⟨true, c, q, w, d⟩ .stop ⟨false, c, true, w + 1, d⟩
  /-- The running issue is found terminal. -/
  | finish {c q : Bool} {w d : Nat} : Move ⟨true, c, q, w, d⟩ .finish ⟨false, false, false, w, d⟩
  /-- The retry is armed again. -/
  | requeue {r c q : Bool} {w d : Nat} : Move ⟨r, c, q, w + 1, d⟩ .requeue ⟨r, c, true, w + 1, d⟩
  /-- The retry finds the issue gone or inactive. -/
  | drop {r c q : Bool} {w d : Nat} : Move ⟨r, c, q, w + 1, d⟩ .drop ⟨false, false, false, w, d⟩
  /-- The retry spawns the issue. -/
  | redispatch {w d : Nat} : Move ⟨false, true, true, w + 1, d⟩ .redispatch ⟨false, true, false, w, d + 1⟩
  /-- The retry finds a slot, but the issue cannot be claimed. -/
  | refuse {r c q : Bool} {w d : Nat} (unclaimable : (!q || r || !c) = true) :
      Move ⟨r, c, q, w + 1, d⟩ .refuse ⟨r, c, q, w, d⟩

inductive Claim.Sound : Claim → Prop where
  | unclaimed : Sound ⟨false, false, false, 0, 0⟩
  | dispatched : Sound ⟨false, true, false, 0, 1⟩
  | running : Sound ⟨true, true, false, 0, 0⟩
  | waiting (c : Bool) : Sound ⟨false, c, true, 1, 0⟩
  | stranded : Sound ⟨false, false, true, 0, 0⟩

variable {c c' : Claim} {k : MoveKind}

theorem Move.sound (move : Move c k c') (sound : c.Sound) : c'.Sound := by
  cases move with
  | claim | redispatch => cases sound; exact .dispatched
  | abandon | finish | drop => cases sound; exact .unclaimed
  | start => cases sound; exact .running
  | fail | stop | requeue => cases sound; exact .waiting _
  | @refuse r c q w d unclaimable =>
    cases sound with
    | waiting =>
      cases c with
      | false => exact .stranded
      | true => cases unclaimable

section

variable (sound : c.Sound)

include sound

theorem Claim.Sound.waits_le : c.waits ≤ 1 := by cases sound <;> simp

theorem Claim.Sound.queued (waits : 0 < c.waits) : c.running = false ∧ c.retrying = true := by
  cases sound with
  | waiting => exact ⟨rfl, rfl⟩
  | _ => cases waits

theorem Claim.Sound.of_running (running : c.running = true) : c.claimed = true ∧ c.retrying = false := by
  cases sound with
  | running => exact ⟨rfl, rfl⟩
  | _ => cases running

theorem Claim.Sound.dispatched_idle (dispatched : 0 < c.dispatches) : c.running = false := by
  cases sound with
  | dispatched => rfl
  | _ => cases dispatched

theorem Claim.Sound.of_claimed (claimed : c.claimed = true)
    (undispatched : c.dispatches = 0) : c.running = true ∨ c.retrying = true := by
  cases sound with
  | running => exact .inl rfl
  | waiting => exact .inr rfl
  | dispatched => cases undispatched
  | _ => cases claimed

end

/-- The claim is in a place other than the one where it waits for nothing. -/
def Claim.Awaited (c : Claim) : Prop := c.retrying = true → c.waits = 1

theorem Move.awaited (move : Move c k c') (other : k ≠ .refuse) (sound : c.Sound)
    (awaited : c.Awaited) : c'.Awaited := by
  cases move with
  | refuse => exact absurd rfl other
  | claim | abandon | finish | drop | redispatch => exact nofun
  | start => cases sound; exact nofun
  | fail | stop | requeue => cases sound; exact fun _ => rfl

theorem Move.running_eq (move : Move c k c') (sound : c.Sound) (starting : k ≠ .start)
    (stopping : k ≠ .stop) (finishing : k ≠ .finish) : c'.running = c.running := by
  cases move with
  | start => exact absurd rfl starting
  | stop => exact absurd rfl stopping
  | finish => exact absurd rfl finishing
  | abandon | fail | drop => cases sound; rfl
  | _ => rfl

def Claim.Occupied (c : Claim) : Prop := (c.claimed || c.retrying) = true

theorem Move.occupied (move : Move c k c') (other : k ≠ .claim) (sound : c.Sound)
    (occupied : c'.Occupied) : c.Occupied := by
  cases move with
  | claim => exact absurd rfl other
  | abandon | finish | drop => cases occupied
  | start | refuse => exact occupied
  | fail | stop => cases sound; rfl
  | requeue => cases sound; exact occupied
  | redispatch => rfl

theorem Move.not_stranded (move : Move .stranded k c') : False := by cases move

/-- A sequence of moves of the kinds that are allowed. -/
def Moves (allowed : MoveKind → Prop) : Claim → Claim → Prop :=
  ReflTransGen fun c c' => ∃ k, allowed k ∧ Move c k c'

namespace Moves

variable {allowed other : MoveKind → Prop} {c c' : Claim}

theorem one {k : MoveKind} (ok : allowed k) (move : Move c k c') : Moves allowed c c' :=
  .single ⟨k, ok, move⟩

theorem mono (moves : Moves allowed c c') (weaker : ∀ k, allowed k → other k) : Moves other c c' :=
  moves.lift id fun _ _ ⟨k, ok, move⟩ => ⟨k, weaker k ok, move⟩

theorem sound (moves : Moves allowed c c') (sound : c.Sound) : c'.Sound := by
  induction moves with
  | refl => exact sound
  | tail _ last ih =>
    obtain ⟨_, _, move⟩ := last
    exact move.sound ih

theorem awaited (moves : Moves (· ≠ .refuse) c c') (sound : c.Sound) (awaited : c.Awaited) : c'.Awaited := by
  induction moves with
  | refl => exact awaited
  | tail before last ih =>
    obtain ⟨_, other, move⟩ := last
    exact move.awaited other (Moves.sound before sound) ih

theorem occupied (moves : Moves (· ≠ .claim) c c') (sound : c.Sound) (occupied : c'.Occupied) : c.Occupied := by
  induction moves with
  | refl => exact occupied
  | tail before last ih =>
    obtain ⟨_, other, move⟩ := last
    exact ih (move.occupied other (Moves.sound before sound) occupied)

theorem running_eq (moves : Moves (fun k => k ≠ .start ∧ k ≠ .stop ∧ k ≠ .finish) c c')
    (sound : c.Sound) : c'.running = c.running := by
  induction moves with
  | refl => rfl
  | tail before last ih =>
    obtain ⟨_, ⟨starting, stopping, finishing⟩, move⟩ := last
    rw [move.running_eq (Moves.sound before sound) starting stopping finishing, ih]

theorem stranded (moves : Moves allowed .stranded c) : c = .stranded := by
  rcases ReflTransGen.cases_head moves with same | ⟨_, ⟨_, _, move⟩, _⟩
  · exact same.symm
  · exact move.not_stranded.elim

end Moves

end AgentGrid.Orchestrator
