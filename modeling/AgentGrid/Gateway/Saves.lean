import AgentGrid.Lib.Run

/-!
# Conditional saves

`serveWorkspaceFileWrite` compares the second of the file's modification with the one the client
names, and then writes a temporary file and renames it over the target.  Nothing keeps another
request from doing the same in between.
-/

namespace AgentGrid.Gateway

open AgentGrid.Lib List Function

/-- How far a request is. -/
inductive SavePhase where
  | pending | checked
  /-- `workspaceFileSnapshot` has read the target. -/
  | snapped (prior : List UInt8)
  /-- The temporary file is closed; its second of modification is that of the write. -/
  | written (prior : List UInt8) (second : Nat) | renamed (prior : List UInt8)
  /-- The `Stat` after the rename failed, or gave another size. -/
  | restoring (prior : List UInt8) (sized : Bool) | saved | answered (status : Nat)

/-- The request is between its check and its answer. -/
@[simp, grind] def SavePhase.active : SavePhase → Bool
  | .pending | .answered _ => false
  | _ => true

/-- The body is in place, and no error was answered. -/
@[simp, grind] def SavePhase.placed : SavePhase → Bool
  | .renamed _ | .saved => true
  | .answered status => status = 200
  | _ => false

structure Saving where
  content : List UInt8
  (mtime now : Nat)
  phase : Nat → SavePhase := fun _ => .pending

inductive SaveLabel where
  | tick
  /-- The next call of a request, which succeeds or fails. -/
  | call (i : Nat) (ok : Bool)

namespace Saving

variable (since : Nat) (body : Nat → List UInt8) (s : Saving)

def go (i : Nat) (p : SavePhase) : Saving := { s with phase := update s.phase i p }

def act : SaveLabel → Option Saving
  | .tick => some { s with now := s.now + 1 }
  | .call i ok =>
    match s.phase i with
    | .pending => some (s.go i (if !ok then .answered 404 else if s.mtime = since then .checked else .answered 412))
    | .checked => some (s.go i (if ok then .snapped s.content else .answered 502))
    | .snapped prior => some (s.go i (if ok then .written prior s.now else .answered 502))
    | .written prior second =>
      some { s.go i (if ok then .renamed prior else .answered 502) with
        content := if ok then body i else s.content, mtime := if ok then second else s.mtime }
    | .renamed prior =>
      some (s.go i (if ok ∧ s.content.length = (body i).length then .saved else .restoring prior ok))
    | .restoring prior sized =>
      some { s.go i (.answered (if sized then 500 else 502)) with
        content := if ok then prior else s.content, mtime := if ok then s.now else s.mtime }
    | .saved => some (s.go i (.answered (if ok then 200 else 500)))
    | .answered _ => none

def Step (s : Saving) (label : SaveLabel) (s' : Saving) : Prop := s.act since body label = some s'

/-- A request checks while no other is between its check and its answer. -/
def SerialStep (s : Saving) (label : SaveLabel) (s' : Saving) : Prop :=
  s.Step since body label s' ∧ ∀ i ok, label = .call i ok → s.phase i = .pending → ∀ j, (s.phase j).active = false

structure Sound : Prop where
  late : since < s.now
  written : ∀ i prior second, s.phase i = .written prior second → since < second
  alone : ∀ i j, (s.phase i).active = true → (s.phase j).active = true → i = j
  placed : ∀ i, (s.phase i).placed = true → s.mtime ≠ since ∧ s.content = body i ∧
    ∀ j, (s.phase j).active = true ∨ (s.phase j).placed = true → j = i

variable {since body s} {s' : Saving} {label : SaveLabel}

/-- A request moves on: it enters only where nobody is active and nothing is in place. -/
theorem Sound.go (sound : s.Sound since body) {i : Nat} {p : SavePhase}
    (written : ∀ prior second, p = .written prior second → since < second)
    (enters : p.active = true → (s.phase i).active = true ∨
      ∀ j, (s.phase j).active = false ∧ (s.phase j).placed = false)
    (stays : p.placed = true → (s.phase i).placed = true) : (s.go i p).Sound since body := by
  have alone := sound.alone
  have placed := sound.placed
  refine ⟨sound.late, fun j prior second => ?_, fun j k one other => ?_, fun j there => ?_⟩
  · rcases eq_or_ne j i with rfl | away
    · simpa [Saving.go] using written prior second
    · simpa [Saving.go, away] using sound.written j prior second
  · simp only [Saving.go, update_apply] at one other
    grind
  · simp only [Saving.go, update_apply] at there ⊢
    grind

/-- The one active request writes the file. -/
theorem Sound.put (sound : s.Sound since body) {i : Nat} {p : SavePhase} {content : List UInt8} {mtime : Nat}
    (others : ∀ j, (s.phase j).active = true ∨ (s.phase j).placed = true → j = i)
    (unwritten : ∀ prior second, p ≠ .written prior second)
    (placed : p.placed = true → mtime ≠ since ∧ content = body i) :
    Sound since body { s.go i p with content, mtime } := by
  refine ⟨sound.late, fun j => ?_, fun j k one other => ?_, fun j there => ?_⟩
  all_goals simp only [Saving.go, update_apply] at *
  · have earlier := sound.written j
    grind
  · grind
  · grind

theorem Sound.step (sound : s.Sound since body) (step : s.SerialStep since body label s') : s'.Sound since body := by
  obtain ⟨step, serial⟩ := step
  have late := sound.late
  cases label with
  | tick =>
    cases step
    exact ⟨Nat.lt_succ_of_lt late, sound.written, sound.alone, sound.placed⟩
  | call i ok =>
    simp only [Step, act] at step
    have mine : (s.phase i).active = true → ∀ j, (s.phase j).active = true ∨ (s.phase j).placed = true → j = i := by
      rintro active j (busy | there)
      · exact sound.alone j i busy active
      · exact ((sound.placed j there).2.2 i (.inl active)).symm
    cases phase : s.phase i with
    | pending =>
      simp only [phase] at step
      cases step
      refine sound.go (by grind) (fun active => .inr fun j => ⟨serial i ok rfl phase j, ?_⟩) (by grind)
      by_contra there
      rw [Bool.not_eq_false] at there
      have changed := (sound.placed j there).1
      grind
    | checked | snapped | renamed | saved =>
      simp only [phase] at step
      cases step
      refine sound.go ?_ (fun _ => .inl (by rw [phase]; rfl)) ?_
      all_goals grind
    | written prior second =>
      simp only [phase] at step
      have fresh := sound.written i prior second phase
      cases ok with
      | false =>
        cases step
        exact sound.go nofun nofun nofun
      | true =>
        cases step
        have others := mine (by rw [phase]; rfl)
        exact sound.put others nofun fun _ => ⟨Nat.ne_of_gt fresh, rfl⟩
    | restoring prior sized =>
      simp only [phase] at step
      cases step
      have others := mine (by rw [phase]; rfl)
      refine sound.put others nofun fun there => ?_
      split at there <;> cases there
    | answered status => simp [phase] at step

theorem answered_rests {i n : Nat} {labels : List SaveLabel} (answered : s.phase i = .answered n)
    (run : Run (Step since body) s labels s') : s'.phase i = .answered n ∧ ∀ ok, .call i ok ∉ labels := by
  refine run.history (fun labels t => t.phase i = .answered n ∧ ∀ ok, .call i ok ∉ labels)
    ⟨answered, fun _ => not_mem_nil⟩ ?_
  rintro labels t a t' - ⟨rests, idle⟩ step
  cases a with
  | tick =>
    cases step
    exact ⟨rests, by simpa using idle⟩
  | call j ok =>
    have other : i ≠ j := by
      rintro rfl
      simp [Step, act, rests] at step
    simp only [Step, act, go] at step
    split at step
    all_goals cases step <;> simp_all

/-- Saves of one base that come one after the other: at most one is answered with success, the file then
has its text, and a save that finds another time of change leaves the file alone for good. -/
theorem serial_saves_keep_one {content : List UInt8} {now : Nat} {labels : List SaveLabel} (old : since + 2 ≤ now)
    (run : Run (SerialStep since body) { content, mtime := since, now } labels s) :
    (∀ i j, s.phase i = .answered 200 → s.phase j = .answered 200 → i = j) ∧
    (∀ i, s.phase i = .answered 200 → s.content = body i) ∧
    ∀ (t t' u : Saving) i later, t.phase i = .pending → t.mtime ≠ since → t.Step since body (.call i true) t' →
      Run (Step since body) t' later u → (t'.content, t'.mtime) = (t.content, t.mtime) ∧ ∀ ok, .call i ok ∉ later := by
  have sound : s.Sound since body := by
    refine run.invariant (Sound since body) ?_ fun _ _ _ sound step => sound.step step
    exact ⟨by simp; omega, by simp, by simp, by simp⟩
  refine ⟨fun i j first second => ?_, fun i won => (sound.placed i (by simp [won])).2.1, ?_⟩
  · exact (sound.placed j (by simp [second])).2.2 i (.inr (by simp [first]))
  · intro t t' u i later pending changed step rest
    simp only [Step, act, pending] at step
    cases step
    exact ⟨rfl, (answered_rests (n := 412) (by simp [go, changed]) rest).2⟩

/-- Two requests that both check before either has renamed. -/
theorem concurrent_saves_both_told : ∃ s, Run (Step 0 fun i => [.ofNat i]) { content := [], mtime := 0, now := 2 }
    ([.call 0 true, .call 1 true] ++ replicate 5 (.call 0 true) ++ replicate 5 (.call 1 true)) s ∧
    s.phase 0 = .answered 200 ∧ s.phase 1 = .answered 200 ∧ s.content = [1] :=
  ⟨_, replay_run rfl, rfl, rfl, rfl⟩

/-- The second request checks when the first is answered, and finds the file modified. -/
theorem serial_saves_keep_one_inTurn : ∃ s, Run (SerialStep 0 fun i => [.ofNat i])
    { content := [], mtime := 0, now := 2 } (replicate 6 (.call 0 true) ++ [.call 1 true]) s ∧
    s.phase 0 = .answered 200 ∧ s.phase 1 = .answered 412 ∧ s.content = [0] := by
  have first : SerialStep 0 (fun i => [.ofNat i]) { content := [], mtime := 0, now := 2 } (.call 0 true) _ :=
    ⟨rfl, fun _ _ _ _ _ => rfl⟩
  have next : ∀ {s s'}, s.phase 0 ≠ .pending → Step 0 (fun i => [.ofNat i]) s (.call 0 true) s' →
      SerialStep 0 (fun i => [.ofNat i]) s (.call 0 true) s' := by
    refine fun busy step => ⟨step, ?_⟩
    rintro _ _ ⟨⟩ pending
    exact absurd pending busy
  have saved := (((((Run.refl.snoc first).snoc (next nofun rfl)).snoc (next nofun rfl)).snoc (next nofun rfl)).snoc
    (next nofun rfl)).snoc (next nofun rfl)
  obtain ⟨s, run, phase, mtime⟩ : ∃ s, Run (SerialStep 0 fun i => [.ofNat i]) { content := [], mtime := 0, now := 2 }
      (replicate 6 (.call 0 true)) s ∧ s.phase = update (fun _ => .pending) 0 (.answered 200) ∧ s.mtime = 2 :=
    ⟨_, saved, by simp [go], rfl⟩
  have refused : SerialStep 0 (fun i => [.ofNat i]) s (.call 1 true) (s.go 1 (.answered 412)) := by
    refine ⟨by simp [Step, act, phase, mtime], fun _ _ _ _ j => ?_⟩
    rw [phase, update_apply]
    split <;> rfl
  have answered : (s.go 1 (.answered 412)).phase 0 = .answered 200 := by simp [go, phase]
  exact ⟨_, run.snoc refused, answered, by simp [go],
    (serial_saves_keep_one le_rfl (run.snoc refused)).2.1 0 answered⟩

end Saving

end AgentGrid.Gateway
