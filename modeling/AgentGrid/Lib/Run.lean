import Mathlib.Algebra.Ring.Nat
import Mathlib.Data.List.Basic

/-!
# Runs of a labelled transition system

A run is a finite sequence of labelled steps.  Safety is proved once for all
runs: a statement about the labels so far and the current state that holds
before the first step and survives one more step holds at the end of every run.
-/

namespace AgentGrid.Lib

open List Option

variable {σ l : Type}

/-- The runs of a step relation, with their labels in order. -/
inductive Run (Step : σ → l → σ → Prop) (start : σ) : List l → σ → Prop where
  | refl : Run Step start [] start
  | snoc {labels : List l} {s s' : σ} {a : l} :
      Run Step start labels s → Step s a s' → Run Step start (labels ++ [a]) s'

namespace Run

variable {Step Step' : σ → l → σ → Prop} {start s t : σ} {labels more : List l}

/-- Induction over a run for statements about its history and its last state. -/
theorem history (P : List l → σ → Prop) (first : P [] start)
    (next : ∀ labels s a s', Run Step start labels s → P labels s → Step s a s' → P (labels ++ [a]) s')
    (run : Run Step start labels s) : P labels s := by
  induction run with
  | refl => exact first
  | snoc run step ih => exact next _ _ _ _ run ih step

/-- A property of states that holds at the start and survives every step. -/
theorem invariant (I : σ → Prop) (first : I start)
    (next : ∀ s a s', I s → Step s a s' → I s') (run : Run Step start labels s) : I s :=
  run.history (fun _ s => I s) first fun _ s a s' _ kept step => next s a s' kept step

theorem mono (weaker : ∀ s a s', Step s a s' → Step' s a s') (run : Run Step start labels s) :
    Run Step' start labels s := by
  induction run with
  | refl => exact .refl
  | snoc _ step ih => exact .snoc ih (weaker _ _ _ step)

/-- A run whose labels are all good wherever they are taken is a run of the restricted relation. -/
theorem restrict (run : Run Step start labels s) (Good : σ → l → Prop) (each : ∀ a ∈ labels, ∀ s, Good s a) :
    Run (fun s a s' => Step s a s' ∧ Good s a) start labels s := by
  induction run with
  | refl => exact .refl
  | snoc _ step ih =>
    exact .snoc (ih fun a mem => each a (mem_append_left _ mem)) ⟨step, each _ (mem_append_right _ mem_cons_self) _⟩

theorem carry (I : σ → Prop) (first : I start) (next : ∀ s a s', I s → Step s a s' → I s')
    (run : Run Step start labels s) : Run (fun s a s' => Step s a s' ∧ I s) start labels s := by
  induction run with
  | refl => exact .refl
  | snoc run step ih => exact .snoc ih ⟨step, run.invariant I first next⟩

/-- Where each step is a step of another relation, under maps of states and labels, so is a run. -/
theorem simulate {τ m : Type} {StepB : τ → m → τ → Prop} (f : σ → τ) (g : l → m)
    (steps : ∀ s a s', Step s a s' → StepB (f s) (g a) (f s')) (run : Run Step start labels s) :
    Run StepB (f start) (labels.map g) (f s) := by
  induction run with
  | refl => exact .refl
  | snoc _ step ih =>
    rw [map_append]
    exact .snoc ih (steps _ _ _ step)

theorem append (run : Run Step start labels s) (rest : Run Step s more t) : Run Step start (labels ++ more) t := by
  induction rest with
  | refl => simpa using run
  | snoc _ step ih => simpa [append_assoc] using ih.snoc step

/-- Every label of a run was taken in a state that a shorter run reaches. -/
theorem step_of_mem {a : l} (run : Run Step start labels s) (mem : a ∈ labels) :
    ∃ before t t', Run Step start before t ∧ Step t a t' := by
  induction run with
  | refl => cases mem
  | snoc run step ih =>
    rcases mem_append.mp mem with earlier | last
    · exact ih earlier
    · obtain rfl := mem_singleton.mp last
      exact ⟨_, _, _, run, step⟩

end Run

/-! ## Replay -/

section Replay

variable {ι : Type}

def drive (advance : σ → ι → Option (σ × l)) : σ → List ι → Option (σ × List l)
  | s, [] => some (s, [])
  | s, input :: rest =>
    (advance s input).bind fun r => (drive advance r.1 rest).map fun later => (later.1, r.2 :: later.2)

variable {s s' : σ} {labels : List l}

theorem drive_run {Step : σ → l → σ → Prop} {advance : σ → ι → Option (σ × l)}
    (sound : ∀ s input s' a, advance s input = some (s', a) → Step s a s') {inputs : List ι}
    (driven : drive advance s inputs = some (s', labels)) : Run Step s labels s' := by
  induction inputs generalizing s labels with
  | nil =>
    cases driven
    exact .refl
  | cons input rest ih =>
    obtain ⟨⟨next, a⟩, advanced, later⟩ := bind_eq_some_iff.mp driven
    obtain ⟨⟨last, more⟩, tail, same⟩ := map_eq_some_iff.mp later
    cases same
    exact Run.append (.snoc .refl (sound _ _ _ _ advanced)) (ih tail)

def replay (act : σ → l → Option σ) : σ → List l → Option σ
  | s, [] => some s
  | s, a :: rest => (act s a).bind fun next => replay act next rest

variable {act : σ → l → Option σ}

theorem replay_run (replayed : replay act s labels = some s') :
    Run (fun s a s' => act s a = some s') s labels s' := by
  induction labels generalizing s with
  | nil =>
    cases replayed
    exact .refl
  | cons a rest ih =>
    obtain ⟨next, taken, later⟩ := bind_eq_some_iff.mp replayed
    exact Run.append (.snoc .refl taken) (ih later)

/-- The steps that are good where they are taken. -/
def guarded (act : σ → l → Option σ) (Good : σ → l → Prop) [∀ s a, Decidable (Good s a)] (s : σ)
    (a : l) : Option σ :=
  if Good s a then act s a else none

theorem of_guard {c : Prop} [Decidable c] (taken : (if c then some s else none) = some s') : c ∧ s = s' :=
  (ite_none_right_eq_some.mp taken).imp_right some.inj

theorem guarded_run {Good : σ → l → Prop} [∀ s a, Decidable (Good s a)]
    (replayed : replay (guarded act Good) s labels = some s') :
    Run (fun s a s' => act s a = some s' ∧ Good s a) s labels s' := by
  refine (replay_run replayed).mono fun s a s' taken => ?_
  simp only [guarded, ite_none_right_eq_some] at taken
  exact taken.symm

end Replay

end AgentGrid.Lib
