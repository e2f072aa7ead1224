import AgentGrid.Wslhost.Service

/-!
# What the service reports when it stops

A stop control publishes the pending stop, runs it through the coordinator and publishes that the
service is stopped.  The coordinator answers a call that finds a transaction in flight at once, with
the outcome so far; the caller cannot tell this from the end of a transaction.
-/

namespace AgentGrid.Wslhost

open AgentGrid.Lib List Option

/-- A published `StateStopped`, with what was true when it was published. -/
structure StoppedStatus where
  win32ExitCode : Nat
  inFlight : Bool
  ended : Nat
  deriving DecidableEq

/-- An answer of the coordinator to a stop request, and whether a transaction was in flight when it
was given. -/
structure StopReport where
  out : StopOutcome
  inFlight : Bool
  deriving DecidableEq

/-- `ServiceHost` with the statuses it publishes. -/
structure Serving where
  service : Service := {}
  /-- How many stop transactions have returned. -/
  ended : Nat := 0
  /-- Outcomes of stop controls whose status is not yet published. -/
  outcomes : List StopOutcome := []
  reports : List StopReport := []
  statuses : List StoppedStatus := []
  deriving DecidableEq

inductive ServingLabel where
  | service (label : ServiceLabel)
  /-- A stop control that has its outcome publishes the end of the service. -/
  | publish (k : Nat)
  /-- The control requests of the Windows service end. -/
  | hangUp
  deriving DecidableEq

/-- What the call answers to a request that finds a transaction in flight. -/
def Service.duplicate (s : Service) : ServiceLabel → Option StopOutcome
  | .control => (s.run .scm).2
  | .recover => if s.recovery = some .calling then (s.run .recovery).2 else none
  | _ => none

/-- The outcome of the transaction that the step ends. -/
def Service.ending (s : Service) : ServiceLabel → Option StopOutcome
  | .finish => s.transaction.map Transaction.out
  | _ => none

namespace Serving

variable (t : Thresholds) (distribution : String)

def publish (s : Serving) (win32ExitCode : Nat) : Serving :=
  { s with statuses := s.statuses ++ [⟨win32ExitCode, s.service.transaction.isSome, s.ended⟩] }

def exitCode (out : StopOutcome) : Nat := if out.rejected && !out.completed then 1 else 0

def act (s : Serving) : ServingLabel → Option Serving
  | .service label =>
    (s.service.act t distribution label).map fun service =>
      let duplicate := (s.service.duplicate label).toList
      let ending := (s.service.ending label).toList
      { s with
        service
        ended := s.ended + ending.length
        outcomes := s.outcomes ++ (if label = .control then duplicate else ending.filter fun out => out.path = .scm)
        reports := s.reports ++ duplicate.map (⟨·, true⟩) ++ ending.map (⟨·, false⟩) }
  | .publish k =>
    s.outcomes[k]?.map fun out => ({ s with outcomes := s.outcomes.eraseIdx k } : Serving).publish (exitCode out)
  | .hangUp => some (s.publish 0)

def Step (s : Serving) (label : ServingLabel) (s' : Serving) : Prop :=
  s.act t distribution label = some s'

/-- The coordinator is called only while no transaction is in flight and no outcome waits to be
published, and the controls end only once a stop is over. -/
def exclusive (s : Serving) : ServingLabel → Bool
  | .service .control | .service .recover => s.service.transaction.isNone && s.outcomes.isEmpty
  | .hangUp => s.service.transaction.isNone && decide (0 < s.ended)
  | _ => true

variable {t : Thresholds} {distribution : String} {s s' : Serving} {label : ServingLabel}

/-- An outcome that waits to be published is that of a transaction that has ended, and none is in
flight. -/
structure Settled (s : Serving) : Prop where
  outcomes : s.outcomes ≠ [] → s.service.transaction = none ∧ 0 < s.ended
  reports : ∀ report ∈ s.reports, report.inFlight = false
  statuses : ∀ status ∈ s.statuses, status.inFlight = false ∧ 0 < status.ended

theorem Settled.publish (settled : s.Settled) (code : Nat) (idle : s.service.transaction = none)
    (ended : 0 < s.ended) : (s.publish code).Settled := by
  refine ⟨settled.outcomes, settled.reports, fun status mem => ?_⟩
  rcases mem_append.mp mem with old | new
  · exact settled.statuses status old
  · obtain rfl := mem_singleton.mp new
    exact ⟨by rw [idle]; rfl, ended⟩

theorem duplicate_of_idle {service : Service} {label : ServiceLabel}
    (idle : service.transaction = none) : service.duplicate label = none := by
  have fresh : ∀ path, (service.run path).2 = none := fun path => by simp [Service.run, idle]
  cases label with
  | control => exact fresh .scm
  | recover => simp [Service.duplicate, fresh]
  | answer | finish | recovered | supervise => rfl

theorem transaction_of_act {service service' : Service} {label : ServiceLabel}
    (done : service.act t distribution label = some service') :
    label = .control ∨ label = .recover ∨ service.transaction.isSome ∨ service'.transaction = none := by
  cases label with
  | control => exact .inl rfl
  | recover => exact .inr (.inl rfl)
  | answer | finish =>
    obtain ⟨txn, found, -⟩ := bind_eq_some_iff.mp done
    exact .inr (.inr (.inl (by rw [found]; rfl)))
  | recovered =>
    refine .inr (.inr ?_)
    simp only [Service.act] at done
    split at done
    · obtain ⟨w, -, rfl⟩ := map_eq_some_iff.mp done
      cases service.transaction <;> simp
    · cases done
  | supervise =>
    refine .inr (.inr ?_)
    simp only [Service.act] at done
    split at done
    · cases done
    · cases done
    · obtain ⟨w, -, rfl⟩ := map_eq_some_iff.mp done
      cases service.transaction <;> simp

theorem ended_of_ending {service service' : Service} {label : ServiceLabel} {out : StopOutcome}
    (done : service.act t distribution label = some service') (ending : service.ending label = some out) :
    label = .finish ∧ service.transaction.isSome ∧ service'.transaction = none := by
  cases label with
  | finish =>
    obtain ⟨txn, found, later⟩ := bind_eq_some_iff.mp done
    obtain ⟨-, rfl⟩ := of_guard later
    exact ⟨rfl, by rw [found]; rfl, rfl⟩
  | control | recover | answer | recovered | supervise => cases ending

theorem Settled.service {label : ServiceLabel} (settled : s.Settled)
    (step : s.Step t distribution (.service label) s') (good : s.exclusive (.service label) = true) : s'.Settled := by
  obtain ⟨service, done, rfl⟩ := map_eq_some_iff.mp step
  have none : s.service.duplicate label = none := by
    cases label with
    | control | recover =>
      simp only [exclusive, Bool.and_eq_true, isNone_iff_eq_none] at good
      exact duplicate_of_idle good.1
    | answer | finish | recovered | supervise => rfl
  cases ending : s.service.ending label with
  | some =>
    obtain ⟨rfl, busy, past⟩ := ended_of_ending done ending
    refine ⟨fun _ => ⟨past, ?_⟩, fun report mem => ?_, settled.statuses⟩
    · simp
    · simp only [none, toList_none, map_nil, append_nil] at mem
      rcases mem_append.mp mem with old | new
      · exact settled.reports report old
      · obtain ⟨-, -, rfl⟩ := List.mem_map.mp new
        rfl
  | none =>
    simp only [none, toList_none, map_nil, append_nil, filter_nil, ite_self, length_nil, Nat.add_zero]
    refine ⟨fun waits => ?_, settled.reports, settled.statuses⟩
    obtain ⟨idle, ended⟩ := settled.outcomes waits
    refine ⟨?_, ended⟩
    rcases transaction_of_act done with rfl | rfl | busy | past
    · simp only [exclusive, Bool.and_eq_true, List.isEmpty_iff] at good
      exact absurd good.2 waits
    · simp only [exclusive, Bool.and_eq_true, List.isEmpty_iff] at good
      exact absurd good.2 waits
    · rw [idle] at busy
      cases busy
    · exact past

theorem Settled.step (settled : s.Settled) (step : s.Step t distribution label s')
    (good : s.exclusive label = true) : s'.Settled := by
  cases label with
  | service => exact settled.service step good
  | publish k =>
    obtain ⟨out, found, rfl⟩ := map_eq_some_iff.mp step
    have waits : s.outcomes ≠ [] := by
      intro none
      simp [none] at found
    obtain ⟨idle, ended⟩ := settled.outcomes waits
    have rest : Settled { s with outcomes := s.outcomes.eraseIdx k } :=
      ⟨fun _ => ⟨idle, ended⟩, settled.reports, settled.statuses⟩
    exact rest.publish _ idle ended
  | hangUp =>
    cases step
    simp only [exclusive, Bool.and_eq_true, isNone_iff_eq_none, decide_eq_true_eq] at good
    exact settled.publish 0 good.1 good.2

end Serving

open Serving

variable {t : Thresholds} {distribution : String}

/-- Where the coordinator is called only while no transaction is in flight and no outcome waits to
be published, the service is reported stopped only after a transaction has returned and while none
is in flight, and no stop request is answered before the transaction it is about has ended. -/
theorem stopped_when_over {labels : List ServingLabel} {s : Serving}
    (run : Run (fun s label s' => Step t distribution s label s' ∧ s.exclusive label = true) {} labels s) :
    (∀ status ∈ s.statuses, status.inFlight = false ∧ 0 < status.ended) ∧
      ∀ report ∈ s.reports, report.inFlight = false := by
  have settled : s.Settled := by
    refine run.invariant Settled ⟨?_, forall_mem_nil _, forall_mem_nil _⟩
      fun _ _ _ settled step => settled.step step.1 step.2
    intro waits
    exact absurd rfl waits
  exact ⟨settled.statuses, settled.reports⟩

/-- An adopted server is unhealthy three times, and the recovery stop asks it to end. -/
def recoveryStop : List ServiceLabel :=
  let sick : List ServiceLabel := [.supervise .fire, .supervise (.callback 0 {} {})]
  [.supervise (.start { probe := .matchedRunning "tok", health := ⟨true, healthStatusOK⟩ })] ++ sick ++ sick ++
    sick ++ [.recover, .answer (.session ⟨"", none⟩), .answer (.stopped .signaled "")]

/-- The recovery stop ends, then a stop control comes and its transaction ends. -/
def stopsInTurn : List ServingLabel :=
  let ends : List ServiceLabel := [.answer (.waited true), .answer (.probed .absent), .finish]
  let control : List ServiceLabel := [.control, .answer (.session ⟨"", none⟩), .answer (.stopped .signaled "")]
  (recoveryStop ++ ends ++ control ++ ends).map .service ++ [.publish 0]

theorem stopped_when_over_inTurn : ∃ s : Serving,
    Run (fun s label s' => Step {} "Ubuntu" s label s' ∧ s.exclusive label = true) {} stopsInTurn s ∧
    s.statuses = [⟨0, false, 2⟩] ∧ s.reports.length = 2 ∧ ∀ report ∈ s.reports, report.inFlight = false := by
  have facts : (replay (guarded (act {} "Ubuntu") fun s label => s.exclusive label = true) {} stopsInTurn).map
      (fun s => (s.statuses, s.reports.length)) = some ([⟨0, false, 2⟩], 2) := by
    decide +kernel
  obtain ⟨s, replayed, found⟩ := map_eq_some_iff.mp facts
  obtain ⟨statuses, reports⟩ := Prod.mk.inj found
  have run := guarded_run replayed
  exact ⟨s, run, statuses, reports, (stopped_when_over run).2⟩

/-- The recovery stop waits for the exit of the server when a stop control comes. -/
def overlappingStops : List ServingLabel :=
  recoveryStop.map .service ++ [.service .control, .publish 0]

/-- The service reports that it has stopped, with success, while the recovery stop is in flight and
no transaction has ended. -/
theorem stopped_too_early : ∃ s : Serving, Run (Step {} "Ubuntu") {} overlappingStops s ∧
    s.statuses = [⟨0, true, 0⟩] ∧ s.service.transaction.isSome = true ∧
    s.reports.map StopReport.inFlight = [true] := by
  have facts : (replay (act {} "Ubuntu") {} overlappingStops).map (fun s =>
      (s.statuses, s.service.transaction.isSome, s.reports.map StopReport.inFlight)) =
        some ([⟨0, true, 0⟩], true, [true]) := by
    decide +kernel
  obtain ⟨s, replayed, found⟩ := map_eq_some_iff.mp facts
  simp only [Prod.mk.injEq] at found
  exact ⟨s, replay_run replayed, found.1, found.2.1, found.2.2⟩

end AgentGrid.Wslhost
