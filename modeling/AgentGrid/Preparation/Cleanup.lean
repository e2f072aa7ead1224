import AgentGrid.Host.Types
import AgentGrid.Lib.Path

/-!
# Cleaning up after preparations that never became available

The staging directory and the clone of such a preparation are deleted.  Both are meant to be below
the root of the sessions.
-/

namespace AgentGrid.Preparation

open AgentGrid.Lib AgentGrid.Host List Path

def hasSessionsPrefix (path root : Path) : Bool :=
  match Path.rel root path with
  | none => false
  | some rel => rel != [".."] && rel.head? != some ""

variable (sessionsRoot : String) (prep : RepositoryPreparation)

def stagingDir : Path :=
  Path.join [sessionsRoot, "staging", prep.id]

/-- The recorded clone, or the place where a clone of the preparation goes. -/
def finalDir : Path :=
  if prep.clonePath = "" then Path.join [sessionsRoot, "clones", prep.id]
  else Path.clean prep.clonePath

/-- `CleanupNeverAvailable`: the paths it removes, cleaned. -/
def cleanupNeverAvailable : List Path :=
  if prep.isSessionAvailable || prep.stage = .available then []
  else
    stagingDir sessionsRoot prep :: if sessionsRoot ≠ "" ∧ (finalDir sessionsRoot prep = Path.clean sessionsRoot ∨
          hasSessionsPrefix (finalDir sessionsRoot prep) (Path.clean sessionsRoot)) then
        [finalDir sessionsRoot prep]
      else []

theorem finalDir_proper : (finalDir sessionsRoot prep).Proper := by
  unfold finalDir
  split
  · exact join_proper _
  · exact clean_proper _

/-- The check lets every path pass that has a relative path, except the directory that contains
the root. -/
theorem hasSessionsPrefix_iff {path root : Path} (proper : path.Proper) :
    hasSessionsPrefix path root = true ↔ Path.rel root path ≠ none ∧ ¬ Path.Above root path := by
  rw [← rel_eq_up_iff]
  unfold hasSessionsPrefix
  cases related : Path.rel root path with
  | none => simp
  | some => simp [rel_head proper related]

theorem hasSessionsPrefix_self {root : Path} (proper : root.Proper) : hasSessionsPrefix root root = true := by
  rw [hasSessionsPrefix_iff proper, ← rel_eq_up_iff]
  simp [Path.rel]

/-- Only paths strictly below the root are removed exactly if the staging directory is strictly
below it, and the clone is strictly below it or is one the check refuses: it has no path relative
to the root, or is the directory that contains the root. -/
theorem cleanup_below_root_iff (sessionsRoot : String) (prep : RepositoryPreparation) :
    (∀ p ∈ cleanupNeverAvailable sessionsRoot prep, Path.Below (Path.clean sessionsRoot) p) ↔
      (prep.isSessionAvailable = true ∨ prep.stage = .available) ∨
        Path.Below (Path.clean sessionsRoot) (stagingDir sessionsRoot prep) ∧ (sessionsRoot = "" ∨
            Path.Below (Path.clean sessionsRoot) (finalDir sessionsRoot prep) ∨
            Path.rel (Path.clean sessionsRoot) (finalDir sessionsRoot prep) = none ∨
            Path.Above (Path.clean sessionsRoot) (finalDir sessionsRoot prep)) := by
  have checked : hasSessionsPrefix (finalDir sessionsRoot prep) (Path.clean sessionsRoot) = true ↔ _ :=
    hasSessionsPrefix_iff (finalDir_proper sessionsRoot prep)
  have itself : finalDir sessionsRoot prep = Path.clean sessionsRoot →
      hasSessionsPrefix (finalDir sessionsRoot prep) (Path.clean sessionsRoot) = true := by
    intro same
    rw [same]
    exact hasSessionsPrefix_self (clean_proper _)
  unfold cleanupNeverAvailable
  split
  · rename_i available
    refine iff_of_true (forall_mem_nil _) (.inl ?_)
    simpa using available
  rename_i unavailable
  have not_available : ¬ (prep.isSessionAvailable = true ∨ prep.stage = .available) := by simpa using unavailable
  rw [forall_mem_cons, or_iff_right not_available]
  refine and_congr_right fun _ => ?_
  split
  · rename_i removed
    have passed := removed.2.elim itself id
    obtain ⟨related, not_above⟩ := checked.mp passed
    rw [forall_mem_singleton]
    constructor
    · exact fun below => .inr (.inl below)
    · rintro (nameless | below | unrelated | above)
      · exact absurd nameless removed.1
      · exact below
      · exact absurd unrelated related
      · exact absurd above not_above
  rename_i kept
  refine iff_of_true (forall_mem_nil _) ?_
  by_cases nameless : sessionsRoot = ""
  · exact .inl nameless
  have refused : ¬ hasSessionsPrefix (finalDir sessionsRoot prep)
      (Path.clean sessionsRoot) = true := fun passed => kept ⟨nameless, .inr passed⟩
  rw [checked, not_and_or, not_not, not_not] at refused
  exact .inr (.inr refused)

def recorded (clonePath : String) : RepositoryPreparation where
  id := "p"
  intentID := "i"
  serverID := "s"
  repository := ⟨"r", "o", "n"⟩
  stage := .failed
  revision := 1
  lastOwnedWorkerGeneration := 1
  clonePath := clonePath

/-- A clone recorded outside the root is removed, and so is the root itself. -/
theorem cleanup_leaves_root : (∃ p ∈ cleanupNeverAvailable "/data/sessions" (recorded "/etc"),
        ¬ Path.Below (Path.clean "/data/sessions") p) ∧
      Path.clean "/data/sessions" ∈ cleanupNeverAvailable "/data/sessions" (recorded "/data/sessions") := by
  refine ⟨⟨Path.clean "/etc", ?_, ?_⟩, ?_⟩ <;> decide +kernel

end AgentGrid.Preparation
