import AgentGrid.Host.Driver
import Mathlib.Data.List.Chain

/-!
# Events derived from the status of a thread

The app server reports the status of a thread, and the backend turns the difference to the last
report into turn and approval events.
-/

namespace AgentGrid.Stream

open AgentGrid.Host List

/-- A status object; what is absent or of another type reads as `none`. -/
structure ThreadStatus where
  type : Option String
  activeFlags : List (Option String) := []

/-- The parameters of a status notification; a parameter that cannot be read is empty. -/
structure StatusParams where
  threadID : String := ""
  status : Option ThreadStatus := none
  thread : Option (String × Option ThreadStatus) := none

def extractThreadStatus (p : StatusParams) : String × Bool × String :=
  let threadID := match p.thread with
    | some thread => if p.threadID = "" then thread.1 else p.threadID
    | none => p.threadID
  match p.status.or (p.thread.bind Prod.snd) with
  | none => ("", false, threadID)
  | some status => (status.type.getD "", status.activeFlags.any (· == some "waitingOnApproval"), threadID)

/-- What a binding remembers of its thread, with the events emitted so far, each for a thread. -/
structure StatusWatch where
  threadStatus : String := ""
  waitApproval : Bool := false
  emitted : List (SubsystemEventKind × String) := []

/-- The thread a status is about. -/
def statusThread (named current : String) : String := if named = "" then current else named

def threadStatusEvents (p : StatusParams) (currentThreadID prevStatus : String) (prevWaiting : Bool) :
    List (SubsystemEventKind × String) × String × Bool :=
  let (statusType, waiting, named) := extractThreadStatus p
  let threadID := statusThread named currentThreadID
  if currentThreadID ≠ "" ∧ threadID ≠ "" ∧ threadID ≠ currentThreadID then ([], prevStatus, prevWaiting)
  else if statusType = "" then ([], prevStatus, prevWaiting)
  else
    let out := match statusType with
      | "active" =>
        (if prevStatus ≠ "active" then [(.turnStarted, threadID)] else []) ++
        (if waiting && !prevWaiting then [(.approvalRequested, threadID)] else []) ++
        (if !waiting && prevWaiting then [(.approvalResolved, threadID)] else [])
      | "idle" =>
        (if prevWaiting then [(.approvalResolved, threadID)] else []) ++
        (if prevStatus ≠ "idle" then [(.turnCompleted, threadID)] else [])
      | _ => []
    (out, statusType, waiting)

/-- `handleThreadStatusChanged` for a thread that is bound to a frame. -/
def StatusWatch.handle (threadID : String) (w : StatusWatch) (p : StatusParams) : StatusWatch :=
  let r := threadStatusEvents p threadID w.threadStatus w.waitApproval
  ⟨r.2.1, r.2.2, w.emitted ++ r.1⟩

def watchThread (threadID : String) (notes : List StatusParams) : StatusWatch :=
  notes.foldl (StatusWatch.handle threadID) {}

/-- The approval events in order: whether each is a request. -/
def approvals (events : List (SubsystemEventKind × String)) : List Bool :=
  events.filterMap fun e => match e.1 with
    | .approvalRequested => some true
    | .approvalResolved => some false
    | _ => none

/-- The turn events in order: whether each is a start. -/
def turns (events : List (SubsystemEventKind × String)) : List Bool :=
  events.filterMap fun e => match e.1 with
    | .turnStarted => some true
    | .turnCompleted => some false
    | _ => none

/-- The status is active, or idle without an approval that is waited for. -/
def StatusParams.plain (p : StatusParams) : Bool :=
  let (statusType, waiting, _) := extractThreadStatus p
  statusType = "" ∨ statusType = "active" ∨ statusType = "idle" ∧ waiting = false

/-- The events alternate, and this one is the last. -/
def Toggles (events : List Bool) (last : Option Bool) : Prop :=
  events.IsChain (· ≠ ·) ∧ events.getLast? = last

theorem Toggles.follow {events more : List Bool} {last : Option Bool} (before : Toggles events last) {now : Bool}
    (added : more = if last = some now then [] else [now]) : Toggles (events ++ more) (some now) := by
  obtain ⟨alternate, rfl⟩ := before
  split at added <;> subst added
  · rename_i same
    simpa [Toggles, same] using alternate
  · rename_i changed
    refine ⟨isChain_append.mpr ⟨alternate, isChain_singleton _, fun x last y first => ?_⟩, by simp⟩
    cases first
    rintro rfl
    exact changed last

/-- The last turn event, by the status that was reported last. -/
def lastTurn (status : String) : Option Bool :=
  if status = "active" then some true else if status = "idle" then some false else none

structure StatusWatch.Sound (w : StatusWatch) : Prop where
  approvals : Toggles (false :: approvals w.emitted) (some w.waitApproval)
  turns : Toggles (turns w.emitted) (lastTurn w.threadStatus)

theorem StatusWatch.Sound.handle {w : StatusWatch} {p : StatusParams} (sound : w.Sound)
    (plain : p.plain = true) (threadID : String) : (w.handle threadID p).Sound := by
  obtain ⟨approved, turned⟩ := sound
  unfold StatusParams.plain at plain
  unfold StatusWatch.handle threadStatusEvents
  generalize extractThreadStatus p = extracted at plain ⊢
  obtain ⟨statusType, waiting, named⟩ := extracted
  dsimp only at plain ⊢
  split
  · simpa using ⟨approved, turned⟩
  split
  · simpa using ⟨approved, turned⟩
  rename_i typed
  refine ⟨?_, ?_⟩ <;> dsimp only
  · rw [Stream.approvals, filterMap_append, ← List.cons_append]
    refine approved.follow ?_
    rcases of_decide_eq_true plain with untyped | rfl | ⟨rfl, rfl⟩
    · exact absurd untyped typed
    · cases waiting <;> cases w.waitApproval <;> by_cases on : w.threadStatus = "active" <;> simp [on]
    · cases w.waitApproval <;> by_cases off : w.threadStatus = "idle" <;> simp [off]
  · rw [Stream.turns, filterMap_append]
    rcases of_decide_eq_true plain with untyped | rfl | ⟨rfl, rfl⟩
    · exact absurd untyped typed
    · refine turned.follow (?_ : _ = if _ = some true then [] else [true])
      cases waiting <;> cases w.waitApproval <;> by_cases on : w.threadStatus = "active" <;> simp [lastTurn, on]
    · refine turned.follow (?_ : _ = if _ = some false then [] else [false])
      cases w.waitApproval <;> by_cases off : w.threadStatus = "idle" <;> simp [lastTurn, off]

/-- Where every notification is plain, the approvals and the turns that a thread reports alternate, and
the last of each is what the thread is known to be in. -/
theorem status_events_alternate (threadID : String) (notes : List StatusParams)
    (plain : ∀ p ∈ notes, p.plain = true) : let w := watchThread threadID notes
    (false :: approvals w.emitted).IsChain (· ≠ ·) ∧ (false :: approvals w.emitted).getLast? = some w.waitApproval ∧
      (turns w.emitted).IsChain (· ≠ ·) ∧ (turns w.emitted).getLast? = lastTurn w.threadStatus := by
  have sound : (watchThread threadID notes).Sound := by
    refine foldlRecOn notes _ ?_ fun w sound p mem => sound.handle (plain p mem) threadID
    exact ⟨⟨by decide, rfl⟩, .nil, rfl⟩
  exact ⟨sound.approvals.1, sound.approvals.2, sound.turns.1, sound.turns.2⟩

/-- Another status in between: the approval is requested twice. -/
theorem approval_requested_twice :
    let waiting : StatusParams := { threadID := "t", status := some ⟨some "active", [some "waitingOnApproval"]⟩ }
    let w := watchThread "t" [waiting, { threadID := "t", status := some ⟨some "systemError", []⟩ }, waiting]
    approvals w.emitted = [true, true] ∧ turns w.emitted = [true, true] := by decide

theorem status_events_alternate_oneTurn : let notes : List StatusParams := [
      { threadID := "t", status := some ⟨some "active", [some "waitingOnApproval"]⟩ },
      { threadID := "t", status := some ⟨some "idle", []⟩ }]
    let w := watchThread "t" notes
    (∀ p ∈ notes, p.plain = true) ∧ approvals w.emitted = [true, false] ∧
      (false :: approvals w.emitted).IsChain (· ≠ ·) := by
  intro notes w
  have plain : ∀ p ∈ notes, p.plain = true := by decide
  exact ⟨plain, by decide, (status_events_alternate "t" notes plain).1⟩

end AgentGrid.Stream
