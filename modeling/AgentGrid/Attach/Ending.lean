import AgentGrid.Lib.Run

/-!
# The end of an attach

`Run` of an attach selects on `subscribed` until the subscription is established, and then on
`events`.  `readFrames` reports an ending to one of them and returns; which one it takes depends on
the frame, and on a flag that `Run` sets after it has received the establishment.
-/

namespace AgentGrid.Attach

open AgentGrid.Lib List

abbrev CloseReason := String

inductive Departure where
  | sessionEnd | transportLoss

/-- `event`: a reason to stop. -/
structure Ended where
  departure : Departure
  reason : CloseReason := ""

/-- Why `Run` returns an error: the terminal, `FromResponseCode` or `FromCloseReason`. -/
inductive Refusal where
  | terminal | response (code message : String) | closed (reason : CloseReason) (detail : String)

/-- What a read of the socket gives. -/
inductive Received where
  | lost (reason : CloseReason) | undecodable | output | heartbeat
  /-- A hello or a view update: the ids of the sessions and their lifecycles. -/
  | published (sessions : List (String × String))
  | control (reason : CloseReason) | response (ok : Bool) (code message : String) | outcome (status : String)

/-- What the reader tells `Run` of a frame. -/
inductive Report where
  | nothing | subscribed (err : Option Refusal) | ended (event : Ended)

/-- `readFrames` returns after it. -/
def Report.stops : Report → Bool
  | .nothing | .subscribed none => false
  | .subscribed (some _) | .ended _ => true

def sessionEnded (ref : String) (sessions : List (String × String)) : Bool :=
  (sessions.find? (·.1 = ref)).any (·.2 = "stopped")

/-- The reason of the failure that `FromResponseCode` makes of a code. -/
def responseReason (code : String) : CloseReason :=
  if code = "resource_exhausted" then "capacity"
  else if code ∈ ["not_found", "invalid_argument", "unsupported", "session_stopped", "already_exists"] then
    "invalid_request"
  else if code = "frame-not-ready" then "backend_unavailable"
  else "internal_error"

def dispatch (ref : String) (established : Bool) : Received → Report
  | .undecodable | .output | .heartbeat => .nothing
  | .published sessions => if sessionEnded ref sessions then .ended { departure := .sessionEnd } else .nothing
  | .control reason => .ended ⟨.transportLoss, reason⟩
  | .response ok code message =>
    if ok then .nothing
    else if established then .ended ⟨.transportLoss, responseReason code⟩
    else .subscribed (some (.response code message))
  | .outcome status =>
    if status = "accepted" ∨ status = "waiting" then .nothing
    else if established then
      if status = "applied" then .nothing else .ended ⟨.transportLoss, "backend_unavailable"⟩
    else if status = "applied" then .subscribed none
    else .subscribed (some (.closed "invalid_request" ("the server " ++ status ++ " the subscription")))
  | .lost reason =>
    if established then .ended ⟨.transportLoss, reason⟩ else .subscribed (some (.closed reason ""))

inductive Reader where
  | reading
  /-- It has a frame and has looked at the flag. -/
  | handling (report : Report)
  | returned

inductive Phase where
  | opening | subscribing | establishing | raising | waiting | returned (result : Except Refusal Ended)

/-- How far `Run` is from its return. -/
@[simp] def Phase.rank : Phase → Nat
  | .opening => 5
  | .subscribing => 4
  | .establishing => 3
  | .raising => 2
  | .waiting => 1
  | .returned _ => 0

structure Session where
  reader : Reader := .reading
  run : Phase := .opening
  established : Bool := false
  subscribed : List (Option Refusal) := []
  events : List Ended := []

inductive Label where
  | read (frame : Received) | report
  /-- `subscribe` sends its request, or fails before it waits. -/
  | subscribe (fails : Option Refusal)
  | receive | store | makeRaw (fails : Bool) | wait

namespace Session

variable (ref : String) (s : Session)

/-- The sends of the reader do not wait. -/
def told : Report → Session
  | .nothing => s
  | .subscribed err => if s.subscribed.length < 1 then { s with subscribed := s.subscribed ++ [err] } else s
  | .ended event => if s.events.length < 4 then { s with events := s.events ++ [event] } else s

def act (label : Label) : Option Session :=
  match label, s.reader, s.run, s.subscribed, s.events with
  | .read frame, .reading, _, _, _ => some { s with reader := .handling (dispatch ref s.established frame) }
  | .report, .handling report, _, _, _ =>
    some { s.told report with reader := if report.stops then .returned else .reading }
  | .subscribe fails, _, .opening, _, _ =>
    some { s with run := fails.elim .subscribing fun err => .returned (.error err) }
  | .receive, _, .subscribing, none :: rest, _ => some { s with subscribed := rest, run := .establishing }
  | .receive, _, .subscribing, some err :: rest, _ =>
    some { s with subscribed := rest, run := .returned (.error err) }
  | .store, _, .establishing, _, _ => some { s with established := true, run := .raising }
  | .makeRaw fails, _, .raising, _, _ =>
    some { s with run := if fails then .returned (.error .terminal) else .waiting }
  | .wait, _, .waiting, _, ended :: rest => some { s with events := rest, run := .returned (.ok ended) }
  | _, _, _, _, _ => none

def Step (s : Session) (label : Label) (s' : Session) : Prop := s.act ref label = some s'

/-- An ending is read once the flag is set, or while no establishment is reported yet and then it is one
that `subscribed` is told of. -/
def Orderly : Label → Prop
  | .read frame => (dispatch ref s.established frame).stops = true → s.established = true ∨
    4 ≤ s.run.rank ∧ s.subscribed = [] ∧ ∃ err, dispatch ref s.established frame = .subscribed (some err)
  | _ => True

def OrderlyStep (s : Session) (label : Label) (s' : Session) : Prop := s.Step ref label s' ∧ s.Orderly ref label

/-- The channel that `Run` selects on holds a value. -/
def Attended : Prop :=
  match s.run with
  | .subscribing => s.subscribed ≠ []
  | .waiting => s.events ≠ []
  | _ => True

/-- `Run` has returned, will select on `events` and finds what is meant for it, or still selects on
`subscribed` and finds what is meant for that. -/
def Met (late early : Prop) : Prop :=
  s.run.rank = 0 ∨ (s.established = true ∧ late) ∨ 4 ≤ s.run.rank ∧ early

/-- An ending that the reader is about to report goes where `Run` will select, and one that it has
reported is there. -/
structure Heard : Prop where
  flag : s.established = true → s.run.rank ≤ 2
  handling : ∀ report, s.reader = .handling report → report.stops = true →
    s.Met (∃ event, report = .ended event) (s.subscribed = [] ∧ ∃ err, report = .subscribed (some err))
  returned : s.reader = .returned → s.Met (s.events ≠ []) (∃ err, s.subscribed = [some err])

variable {ref s} {s' : Session} {label : Label} {late early : Prop}

theorem dispatch_established {frame : Received} (ends : (dispatch ref true frame).stops = true) :
    ∃ event, dispatch ref true frame = .ended event := by
  revert ends
  cases frame <;> simp only [dispatch, if_true] <;> repeat' split
  all_goals first | exact fun _ => ⟨_, rfl⟩ | rintro ⟨⟩

theorem Heard.read (heard : s.Heard) {frame : Received} (orderly : s.Orderly ref (.read frame)) :
    Heard { s with reader := .handling (dispatch ref s.established frame) } := by
  refine ⟨heard.flag, ?_, by rintro ⟨⟩⟩
  rintro _ ⟨⟩ ends
  rcases orderly ends with raised | early
  · rw [raised] at ends
    exact .inr (.inl ⟨raised, by simpa only [raised] using dispatch_established ends⟩)
  · exact .inr (.inr early)

theorem told_same (s : Session) (report : Report) :
    (s.told report).run = s.run ∧ (s.told report).established = s.established := by
  fun_cases s.told report <;> exact ⟨rfl, rfl⟩

theorem Heard.report (heard : s.Heard) {report : Report} (holds : s.reader = .handling report) :
    Heard { s.told report with reader := if report.stops then .returned else .reading } := by
  obtain ⟨run, established⟩ := told_same s report
  refine ⟨?_, fun _ here => ?_, fun here => ?_⟩
  · simp only [run, established]
    exact heard.flag
  · dsimp only at here
    split at here <;> cases here
  dsimp only at here ⊢
  split at here
  · rename_i ends
    rw [run, established]
    rcases heard.handling report holds ends with gone | ⟨raised, event, rfl⟩ | ⟨early, empty, err, rfl⟩
    · exact .inl gone
    · refine .inr (.inl ⟨raised, ?_⟩)
      rw [told]
      split
      · simp
      · rename_i full
        rintro none
        simp [none] at full
    · exact .inr (.inr ⟨early, err, by simp [told, empty]⟩)
  · cases here

/-- While `Run` has an establishment in hand, no ending is met. -/
theorem Heard.unmet (heard : s.Heard) (between : s.run.rank = 3 ∨ s.run.rank = 4 ∧ ¬early) : ¬s.Met late early := by
  rintro (done | ⟨raised, -⟩ | ⟨first, held⟩)
  · omega
  · have := heard.flag raised
    omega
  · rcases between with mid | ⟨-, other⟩
    · omega
    · exact other held

/-- `Run` goes on, with an establishment in hand. -/
theorem Heard.between (heard : s.Heard)
    (between : s.run.rank = 3 ∨ s.run.rank = 4 ∧ ∃ rest, s.subscribed = none :: rest)
    {run : Phase} {established : Bool} {subscribed : List (Option Refusal)}
    (flag : established = true → run.rank ≤ 2) : Heard { s with run, established, subscribed } := by
  refine ⟨flag, fun report holds ends => ?_, fun gone => ?_⟩
  · refine absurd (heard.handling report holds ends) (heard.unmet (between.imp_right ?_))
    rintro ⟨four, rest, first⟩
    exact ⟨four, by simp [first]⟩
  · refine absurd (heard.returned gone) (heard.unmet (between.imp_right ?_))
    rintro ⟨four, rest, first⟩
    exact ⟨four, by simp [first]⟩

theorem Heard.settled (result : Except Refusal Ended) (reader : Reader) (established : Bool)
    (subscribed : List (Option Refusal)) (events : List Ended) :
    Heard ⟨reader, .returned result, established, subscribed, events⟩ :=
  ⟨fun _ => Nat.zero_le _, fun _ _ _ => .inl rfl, fun _ => .inl rfl⟩

theorem Heard.step (heard : s.Heard) (orderly : s.Orderly ref label) (step : s.Step ref label s') : s'.Heard := by
  simp only [Step, act] at step
  split at step
  case h_1 => cases step; exact heard.read orderly
  case h_2 holds => cases step; exact heard.report holds
  case h_3 fails at_ =>
    cases step
    have unset : s.established ≠ true := fun raised => by simpa [at_] using heard.flag raised
    have keeps : ∀ {late early}, s.Met late early → Met { s with run := .subscribing } late early := by
      rintro late early (done | ⟨raised, -⟩ | ⟨-, rest⟩)
      · simp [at_] at done
      · exact absurd raised unset
      · exact .inr (.inr ⟨Nat.le_refl 4, rest⟩)
    cases fails with
    | some err => exact .settled ..
    | none =>
      exact ⟨fun raised => absurd raised unset, fun report holds ends => keeps (heard.handling report holds ends),
        fun gone => keeps (heard.returned gone)⟩
  case h_4 rest at_ first =>
    cases step
    refine heard.between (.inr ⟨by simp [at_], rest, first⟩) fun raised => ?_
    simpa [at_] using heard.flag raised
  case h_6 at_ =>
    cases step
    exact heard.between (.inl (by simp [at_])) fun _ => Nat.le_refl 2
  case h_7 fails at_ =>
    cases step
    have keeps : ∀ {late early}, s.Met late early → Met { s with run := .waiting } late early := by
      rintro late early (done | raised | ⟨first, -⟩)
      · simp [at_] at done
      · exact .inr (.inl raised)
      · simp [at_] at first
    cases fails with
    | true => exact .settled ..
    | false =>
      exact ⟨fun _ => Nat.le_succ 1, fun report holds ends => keeps (heard.handling report holds ends),
        fun gone => keeps (heard.returned gone)⟩
  case h_5 | h_8 => cases step; exact .settled ..
  case h_9 => cases step

end Session

end AgentGrid.Attach
