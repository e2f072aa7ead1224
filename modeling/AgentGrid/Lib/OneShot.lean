import Mathlib.Data.Option.Basic

/-!
# Entries settled once

An entry of a ledger is opened, stays pending for a while, is settled once and may
later be forgotten.  `Turn` lists the moves of one entry in one step, with the
number of times the step opens, announces and answers it.  An entry is announced
exactly when it leaves the pending state, and a settled entry never changes again.
-/

namespace AgentGrid.Lib

variable {R : Type}

/-- One step of an entry: the entry before and after, and how often the step opened, announced and
answered it.  A silent settlement is announced but not answered. -/
inductive Turn (pending silent : R → Bool) : Option R → Option R → Nat → Nat → Nat → Prop where
  | keep (entry : Option R) : Turn pending silent entry entry 0 0 0
  | opened {r : R} : pending r = true → Turn pending silent none (some r) 1 0 0
  | openedSettled {r : R} : pending r = false → silent r = false → Turn pending silent none (some r) 1 1 1
  | settled {r r' : R} : pending r = true → pending r' = false → silent r' = false →
      Turn pending silent (some r) (some r') 0 1 1
  | settledSilently {r r' : R} : pending r = true → pending r' = false → silent r' = true →
      Turn pending silent (some r) (some r') 0 1 0
  | reaped {r : R} : pending r = true → Turn pending silent (some r) none 0 1 1
  | forgotten {r : R} : pending r = false → Turn pending silent (some r) none 0 0 0

namespace Turn

variable {pending silent : R → Bool} {before after : Option R} {opened announced answered : Nat}

@[simp] def isOpen (pending : R → Bool) (entry : Option R) : Bool := entry.any pending

/-- The step takes the entry out of the pending state, or files it as settled. -/
@[simp] def leaves (pending : R → Bool) (before after : Option R) : Bool :=
  (isOpen pending before && !isOpen pending after) || (before.isNone && after.any fun r => !pending r)

theorem settled_fixed {r r' : R} (settled : pending r = false)
    (turn : Turn pending silent (some r) (some r') opened announced answered) : r' = r := by
  cases turn with
  | keep => rfl
  | settled wasPending => simp [settled] at wasPending
  | settledSilently wasPending => simp [settled] at wasPending

/-- An entry that is pending after a step it was there before is the same entry. -/
theorem pending_fixed {r r' : R} (still : pending r' = true)
    (turn : Turn pending silent (some r) (some r') opened announced answered) : r' = r := by
  cases turn with
  | keep => rfl
  | settled _ done | settledSilently _ done => simp [still] at done

theorem pending_before {r : R} (still : pending r = true)
    (turn : Turn pending silent before (some r) 0 announced answered) : before = some r := by
  cases turn with
  | keep => rfl
  | settled _ done | settledSilently _ done => simp [still] at done

section

variable (turn : Turn pending silent before after opened announced answered)

include turn

/-- An entry is announced once when it leaves the pending state, and never otherwise. -/
theorem announced_eq : announced = if leaves pending before after then 1 else 0 := by
  cases turn with
  | keep => cases before <;> simp
  | opened isPending => simp [isPending]
  | openedSettled settled => simp [settled]
  | settled wasPending settled => simp [wasPending, settled]
  | settledSilently wasPending settled => simp [wasPending, settled]
  | reaped wasPending => simp [wasPending]
  | forgotten settled => simp [settled]

/-- It is answered with the announcement, unless it was settled silently. -/
theorem answered_eq : answered = if leaves pending before after && !after.any silent then 1 else 0 := by
  cases turn with
  | keep => cases before <;> simp
  | opened isPending => simp [isPending]
  | openedSettled settled loud => simp [settled, loud]
  | settled wasPending settled loud => simp [wasPending, settled, loud]
  | settledSilently wasPending settled quiet => simp [wasPending, settled, quiet]
  | reaped wasPending => simp [wasPending]
  | forgotten settled => simp [settled]

theorem balance : announced + (isOpen pending after).toNat = opened + (isOpen pending before).toNat := by
  cases turn with
  | keep => omega
  | opened isPending => simp [isPending]
  | openedSettled settled => simp [settled]
  | settled wasPending settled => simp [wasPending, settled]
  | settledSilently wasPending settled => simp [wasPending, settled]
  | reaped wasPending => simp [wasPending]
  | forgotten settled => simp [settled]

end

end Turn

end AgentGrid.Lib
