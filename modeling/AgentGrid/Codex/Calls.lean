import AgentGrid.Lib.Run

/-!
# Requests of a connection

`Request` enters a channel of its own into `pending`, writes, and waits for the channel or a timer.
The loop of `Run` takes the channel out and sends on it after it has let go of the lock; a write that
fails and a timer that fires take it out as well.
-/

namespace AgentGrid.Codex

open AgentGrid.Lib List Function

variable {B : Type}

def parseDigits (digits : List Char) : Option Int :=
  if digits ≠ [] ∧ digits.all Char.isDigit then
    some (digits.foldl (fun n c => 10 * n + (c.toNat - '0'.toNat : Nat)) 0)
  else none

/-- `parsePendingID`: the quotes on both sides are cut off. -/
def parsePendingID (id : List Char) : Option Int :=
  let text := ((id.dropWhile (· == '"')).reverse.dropWhile (· == '"')).reverse
  let n := match text with
    | '-' :: digits => (parseDigits digits).map Int.neg
    | '+' :: digits => parseDigits digits
    | digits => parseDigits digits
  n.filter fun n => decide (-9223372036854775808 ≤ n ∧ n ≤ 9223372036854775807)

inductive Inbound (B : Type) where
  /-- What does not decode, or has neither an id nor a method. -/
  | malformed | response (id : List Char) (body : B)
  /-- A request of the server, or a notification. -/
  | call (body : B)

@[grind] def Inbound.denotes : Inbound B → Option Int
  | .response id _ => parsePendingID id
  | _ => none

/-- How far a call of `Request` is. -/
inductive CallPhase (B : Type) where
  | unmade
  /-- It has its number, and is not yet in `pending`. -/
  | numbered | writing | waiting
  /-- The write failed or the timer fired, and it is to leave `pending`. -/
  | leaving | failed | returned (msg : Inbound B)

/-- The call is sent or being sent, and neither returned nor failed. -/
@[grind] def CallPhase.underway : CallPhase B → Bool
  | .writing | .waiting | .leaving => true
  | _ => false

structure Conn (B : Type) where
  nextID : Int := 0
  pending : Int → Bool := fun _ => false
  phase : Int → CallPhase B := fun _ => .unmade
  /-- The channel of each call, with one slot. -/
  ch : Int → Option (Inbound B) := fun _ => none
  /-- The response that the loop has still to send, and on whose channel. -/
  sending : Option (Int × Inbound B) := none
  handled : List B := []

inductive CallLabel (B : Type) where
  | call | register (i : Int) | write (i : Int) (ok : Bool) | timeout (i : Int) | leave (i : Int) | receive (i : Int)
  /-- The loop reads a message, and handles it up to the send. -/
  | read (msg : Inbound B) | send

@[grind] def CallLabel.calls : CallLabel B → List B
  | .read (.call body) => [body]
  | _ => []

namespace Conn

variable (c : Conn B)

def go (i : Int) (p : CallPhase B) : Conn B := { c with phase := update c.phase i p }

def handle : Inbound B → Conn B
  | .malformed => c
  | .response id body =>
    match parsePendingID id with
    | some i =>
      if c.pending i then { c with pending := update c.pending i false, sending := some (i, .response id body) }
      else c
    | none => c
  | .call body => { c with handled := c.handled ++ [body] }

def act : CallLabel B → Option (Conn B)
  | .call => some { c.go (c.nextID + 1) .numbered with nextID := c.nextID + 1 }
  | .register i =>
    match c.phase i with
    | .numbered => some { c.go i .writing with pending := update c.pending i true }
    | _ => none
  | .write i ok =>
    match c.phase i with
    | .writing => some (c.go i (if ok then .waiting else .leaving))
    | _ => none
  | .timeout i =>
    match c.phase i with
    | .waiting => some (c.go i .leaving)
    | _ => none
  | .leave i =>
    match c.phase i with
    | .leaving => some { c.go i .failed with pending := update c.pending i false }
    | _ => none
  | .receive i =>
    match c.phase i, c.ch i with
    | .waiting, some msg => some { c.go i (.returned msg) with ch := update c.ch i none }
    | _, _ => none
  | .read msg => if c.sending.isNone then some (c.handle msg) else none
  | .send =>
    match c.sending with
    | some (i, msg) =>
      match c.ch i with
      | none => some { c with ch := update c.ch i (some msg), sending := none }
      | some _ => none
    | none => none

def Step (c : Conn B) (label : CallLabel B) (c' : Conn B) : Prop := c.act label = some c'

structure Sound (calls : List B) (c : Conn B) : Prop where
  fresh : ∀ i, c.phase i ≠ .unmade → i ≤ c.nextID
  exact : ∀ i, c.pending i = true ↔ (c.phase i).underway = true ∧ c.ch i = none ∧ c.sending.map Prod.fst ≠ some i
  early : ∀ i, c.phase i = .unmade ∨ c.phase i = .numbered → c.ch i = none ∧ c.sending.map Prod.fst ≠ some i
  taken : ∀ i msg, c.sending = some (i, msg) ∨ c.ch i = some msg → msg.denotes = some i
  free : ∀ i msg, c.sending = some (i, msg) → c.ch i = none
  matched : ∀ i msg, c.phase i = .returned msg → msg.denotes = some i
  told : c.handled = calls

variable {c} {c' : Conn B} {label : CallLabel B} {labels : List (CallLabel B)} {calls : List B}

theorem Sound.step (sound : c.Sound calls) (step : c.Step label c') : c'.Sound (calls ++ label.calls) := by
  obtain ⟨fresh, exact, early, taken, free, matched, told⟩ := sound
  have silent : c.handled = calls ++ [] := told.trans (append_nil _).symm
  simp only [Step] at step
  cases label with
  | call =>
    cases step
    have unmade : c.phase (c.nextID + 1) = .unmade := by
      by_contra made
      exact absurd (fresh _ made) (by omega)
    simp only [go]
    generalize next : c.nextID + 1 = n at unmade ⊢
    refine ⟨?_, ?_, ?_, taken, free, ?_, silent⟩
    all_goals grind -linarith [update_apply]
  | register | write | timeout | leave =>
    simp only [act, go] at step
    split at step <;> cases step
    refine ⟨?_, ?_, ?_, taken, free, ?_, silent⟩
    all_goals grind -linarith [update_apply]
  | receive i =>
    simp only [act, go] at step
    split at step <;> cases step
    refine ⟨?_, ?_, ?_, ?_, ?_, ?_, silent⟩
    all_goals grind -linarith [update_apply]
  | read msg =>
    obtain ⟨none, rfl⟩ := of_guard step
    rw [Option.isNone_iff_eq_none] at none
    cases msg with
    | malformed => exact ⟨fresh, exact, early, taken, free, matched, silent⟩
    | call body => exact ⟨fresh, exact, early, taken, free, matched, congrArg (· ++ [body]) told⟩
    | response id body =>
      simp only [handle]
      split
      · split
        · refine ⟨fresh, ?_, ?_, ?_, ?_, matched, silent⟩
          all_goals grind -linarith [update_apply]
        · exact ⟨fresh, exact, early, taken, free, matched, silent⟩
      · exact ⟨fresh, exact, early, taken, free, matched, silent⟩
  | send =>
    simp only [act] at step
    split at step
    · split at step <;> cases step
      refine ⟨fresh, ?_, ?_, ?_, ?_, matched, silent⟩
      all_goals grind -linarith [update_apply]
    · cases step

/-- A call returns only a response whose id denotes its number, no response completes two calls,
and the loop is never held up by a delivery.  A call is in `pending` from its entry until its response
is taken or it leaves, which a call that failed or timed out does next.  The handler gets every request
and notification once, in order. -/
theorem responses_matched (run : Run Step ({} : Conn B) labels c) :
    (∀ i msg, c.phase i = .returned msg → msg.denotes = some i) ∧
    (∀ i j msg, c.phase i = .returned msg → c.phase j = .returned msg → i = j) ∧
    (c.sending ≠ none → ∃ c', c.Step .send c') ∧
    (∀ i, c.pending i = true ↔ (c.phase i).underway = true ∧ c.ch i = none ∧ c.sending.map Prod.fst ≠ some i) ∧
    (∀ i, c.phase i = .leaving → ∃ c', c.Step (.leave i) c' ∧ c'.pending i = false ∧ c'.phase i = .failed) ∧
    (∀ i, c.phase i = .failed → c.pending i = false) ∧ c.handled = labels.flatMap CallLabel.calls := by
  have sound : c.Sound (labels.flatMap CallLabel.calls) := by
    refine run.history (fun labels c => c.Sound (labels.flatMap CallLabel.calls)) ?_ ?_
    · constructor <;> simp [CallPhase.underway]
    · intro labels c label c' _ sound step
      rw [flatMap_append, flatMap_singleton]
      exact sound.step step
  refine ⟨sound.matched, fun i j msg one other => ?_, fun busy => ?_, sound.exact, fun i leaves => ?_,
    fun i failed => ?_, sound.told⟩
  · exact Option.some.inj ((sound.matched i msg one).symm.trans (sound.matched j msg other))
  · obtain ⟨⟨i, msg⟩, sending⟩ := Option.ne_none_iff_exists'.mp busy
    simp [Step, act, sending, sound.free i msg sending]
  · simp [Step, act, go, leaves]
  · rw [← Bool.not_eq_true, sound.exact, failed]
    simp [CallPhase.underway]

/-- A call that has timed out is still in `pending`. -/
theorem timed_out_still_pending : ∃ c : Conn Unit, Run Step {} [.call, .register 1, .write 1 true, .timeout 1] c ∧
    c.phase 1 = .leaving ∧ c.pending 1 = true :=
  ⟨_, replay_run rfl, rfl, rfl⟩

/-- The second call times out and leaves, the first gets a response with a quoted id. -/
theorem responses_matched_quoted : ∃ c : Conn Unit, Run Step {} [.call, .call, .register 1, .register 2, .write 1 true,
    .write 2 true, .read (.call ()), .timeout 2, .leave 2, .read (.response ['"', '1', '"'] ()), .send, .receive 1] c ∧
    c.phase 1 = .returned (.response ['"', '1', '"'] ()) ∧ parsePendingID ['"', '1', '"'] = some 1 ∧
    c.phase 2 = .failed ∧ c.pending 2 = false := by
  have run : Run Step ({} : Conn Unit) [.call, .call, .register 1, .register 2, .write 1 true,
    .write 2 true, .read (.call ()), .timeout 2, .leave 2, .read (.response ['"', '1', '"'] ()), .send, .receive 1] _ :=
    replay_run rfl
  have matched := responses_matched run
  exact ⟨_, run, rfl, matched.1 1 _ rfl, rfl, matched.2.2.2.2.2.1 2 rfl⟩

end Conn

end AgentGrid.Codex
