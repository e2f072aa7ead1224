import AgentGrid.Lib.GoMap
import AgentGrid.Lib.GoString
import AgentGrid.Lib.Run

/-!
# The revisions of the terminal lifecycle

The lifecycle actor keeps the outcome of every revision a client has asked for, the latest
revision of each connection of a client, and the order in which revisions were admitted.  Only
the records of the last revisions admitted are kept.
-/

namespace AgentGrid.Terminal

open AgentGrid.Lib List Option GoMap

structure PublicCorrelation where
  clientInstanceID : String
  (connectionGeneration clientRevision : Nat)
  deriving DecidableEq

inductive RevisionOutcomeKind where
  | accepted | waiting | applied | rejected | superseded | released | degraded | noOutput
  deriving DecidableEq

structure RevisionOutcome where
  correlation : PublicCorrelation
  status : RevisionOutcomeKind
  (outputSeq finalSeq : Nat := 0)
  reason : String := ""
  deriving DecidableEq

def RevisionOutcomeKind.text : RevisionOutcomeKind → String
  | .accepted => "accepted"
  | .waiting => "waiting"
  | .applied => "applied"
  | .rejected => "rejected"
  | .superseded => "superseded"
  | .released => "released"
  | .degraded => "degraded"
  | .noOutput => "no_output"

def isTerminalOutcome : RevisionOutcomeKind → Bool
  | .applied | .rejected | .superseded | .released | .degraded | .noOutput => true
  | .accepted | .waiting => false

def correlationBaseKey (c : PublicCorrelation) : String :=
  c.clientInstanceID ++ "/" ++ toString c.connectionGeneration

def correlationKey (c : PublicCorrelation) : String :=
  c.clientInstanceID ++ "/" ++ toString c.connectionGeneration ++ "/" ++ toString c.clientRevision

def lifecycleRecordLimit : Nat := 24

/-- `TerminalLifecycleActor`. -/
structure Actor where
  current : GoMap String RevisionOutcome := ∅
  latest : GoMap String Nat := ∅
  order : List String := []

namespace Actor

/-- The new revision is recorded; the oldest record goes when there are too many. -/
def record (a : Actor) (c : PublicCorrelation) : Actor :=
  let current := a.current.set (correlationKey c) { correlation := c, status := .accepted }
  let order := a.order ++ [correlationKey c]
  { latest := a.latest.set (correlationBaseKey c) c.clientRevision
    current := if lifecycleRecordLimit < order.length then order.head?.elim current current.delete else current
    order := if lifecycleRecordLimit < order.length then order.tail else order }

/-- `Admit`. -/
def admitRevision (a : Actor) (c : PublicCorrelation) : Actor × RevisionOutcome :=
  if (a.latest.get? (correlationBaseKey c)).any fun latest => c.clientRevision < latest then
    (a, { correlation := c, status := .rejected, reason := "stale_revision" })
  else if a.latest.get? (correlationBaseKey c) = some c.clientRevision then
    (a, (a.current.get? (correlationKey c)).getD
      { correlation := c, status := .rejected, reason := "record_evicted" })
  else (a.record c, { correlation := c, status := .accepted })

def isCurrent (a : Actor) (c : PublicCorrelation) : Bool :=
  decide (a.latest.get? (correlationBaseKey c) = some c.clientRevision) && (a.current.get? (correlationKey c)).isSome

/-- `MarkWaiting`; where it returns false the outcome is the recorded one, if there is one. -/
def markWaiting (a : Actor) (c : PublicCorrelation) : Actor × Option RevisionOutcome × Bool :=
  if a.isCurrent c then
    if (a.current.get? (correlationKey c)).any fun out => isTerminalOutcome out.status then
      (a, a.current.get? (correlationKey c), false)
    else
      let out : RevisionOutcome := { correlation := c, status := .waiting }
      ({ a with current := a.current.set (correlationKey c) out }, some out, true)
  else (a, none, false)

def lookup (a : Actor) (c : PublicCorrelation) : Option RevisionOutcome :=
  a.current.get? (correlationKey c)

def complete (a : Actor) (c : PublicCorrelation) (status : RevisionOutcomeKind)
    (outputSeq finalSeq : Nat) (reason : String) : Actor × Except String RevisionOutcome :=
  if isTerminalOutcome status = false then (a, .error ("runtime: nonterminal outcome \"" ++ status.text ++ "\""))
  else if a.latest.get? (correlationBaseKey c) ≠ some c.clientRevision then (a, .error "runtime: stale revision")
  else
    match a.current.get? (correlationKey c) with
    | none => (a, .error "runtime: revision not admitted")
    | some previous =>
      if isTerminalOutcome previous.status then (a, .error "runtime: revision outcome already assigned")
      else
        let out : RevisionOutcome := ⟨c, status, outputSeq, finalSeq, reason⟩
        ({ a with current := a.current.set (correlationKey c) out }, .ok out)

end Actor

/-- A call of the actor, with what it returned where that matters. -/
inductive ActorCall where
  | admitRevision (c : PublicCorrelation) | markWaiting (c : PublicCorrelation)
  | complete (c : PublicCorrelation) (status : RevisionOutcomeKind) (outputSeq finalSeq : Nat)
      (reason : String) (accepted : Bool)
  deriving DecidableEq

def ActorCall.completes (c : PublicCorrelation) : ActorCall → Bool
  | .complete c' _ _ _ _ accepted => decide (c' = c) && accepted
  | _ => false

def Actor.call (a : Actor) : ActorCall → Option Actor
  | .admitRevision c => some (a.admitRevision c).1
  | .markWaiting c => some (a.markWaiting c).1
  | .complete c status outputSeq finalSeq reason accepted =>
    let r := a.complete c status outputSeq finalSeq reason
    if r.2.isOk = accepted then some r.1 else none

def Actor.Step (a : Actor) (call : ActorCall) (a' : Actor) : Prop := a.call call = some a'

/-! ## Keys -/

theorem correlationBaseKey_inj {c d : PublicCorrelation} : correlationBaseKey c = correlationBaseKey d ↔
      c.clientInstanceID = d.clientInstanceID ∧ c.connectionGeneration = d.connectionGeneration := by
  have chars : ∀ c, (correlationBaseKey c).toList =
      c.clientInstanceID.toList ++ '/' :: Nat.toDigits 10 c.connectionGeneration := by
    intro c
    simp [correlationBaseKey, Nat.toString_eq_repr, Nat.toList_repr]
  rw [← String.toList_inj, chars, chars,
    append_cons_inj_right (notMem_toDigits rfl _) (notMem_toDigits rfl _), toDigits_inj, String.toList_inj]

theorem correlationKey_inj {c d : PublicCorrelation} : correlationKey c = correlationKey d ↔ c = d := by
  have chars : ∀ c, (correlationKey c).toList =
      (correlationBaseKey c).toList ++ '/' :: Nat.toDigits 10 c.clientRevision := by
    intro c
    simp [correlationKey, correlationBaseKey, Nat.toString_eq_repr, Nat.toList_repr]
  rw [← String.toList_inj, chars, chars,
    append_cons_inj_right (notMem_toDigits rfl _) (notMem_toDigits rfl _), toDigits_inj,
    String.toList_inj, correlationBaseKey_inj]
  constructor
  · rintro ⟨⟨sameID, sameGeneration⟩, sameRevision⟩
    cases c
    cases d
    cases sameID
    cases sameGeneration
    cases sameRevision
    rfl
  · rintro rfl
    exact ⟨⟨rfl, rfl⟩, rfl⟩

/-! ## Invariants -/

namespace Actor

variable {a a' : Actor} {c : PublicCorrelation} {call : ActorCall}

/-- The order lists the records, and no record is newer than the latest revision. -/
structure Sound (a : Actor) : Prop where
  listed : ∀ k, k ∈ a.order ↔ (a.current.get? k).isSome = true
  nodup : a.order.Nodup
  short : a.order.length ≤ lifecycleRecordLimit
  keyed : ∀ k out, a.current.get? k = some out → correlationKey out.correlation = k ∧
    ∃ latest, a.latest.get? (correlationBaseKey out.correlation) = some latest ∧
      out.correlation.clientRevision ≤ latest

theorem Sound.new : Sound {} := by
  refine ⟨fun k => ?_, nodup_nil, Nat.zero_le _, nofun⟩
  simp

theorem Sound.unrecorded (sound : a.Sound) (newer : ∀ latest, a.latest.get? (correlationBaseKey c) = some latest →
      latest < c.clientRevision) : correlationKey c ∉ a.order := by
  intro mem
  obtain ⟨out, found⟩ := isSome_iff_exists.mp ((sound.listed _).mp mem)
  obtain ⟨key, latest, there, older⟩ := sound.keyed _ _ found
  rw [correlationKey_inj.mp key] at there older
  exact absurd (newer latest there) (not_lt.mpr older)

theorem Sound.replace (sound : a.Sound) {out : RevisionOutcome}
    (own : out.correlation = c) (recorded : (a.current.get? (correlationKey c)).isSome = true) :
    Sound { a with current := a.current.set (correlationKey c) out } := by
  obtain ⟨old, found⟩ := isSome_iff_exists.mp recorded
  refine ⟨fun k => ?_, sound.nodup, sound.short, fun k out' stored => ?_⟩
  · rw [sound.listed, get?_set]
    split
    · rename_i same
      simp [same, recorded]
    · rfl
  · rcases get?_of_set stored with ⟨rfl, rfl⟩ | before
    · obtain ⟨key, latest, there, older⟩ := sound.keyed _ _ found
      rw [correlationKey_inj.mp key] at there older
      exact ⟨by rw [own], latest, own ▸ there, own ▸ older⟩
    · exact sound.keyed k out' before

theorem Sound.record (sound : a.Sound) (newer : ∀ latest, a.latest.get? (correlationBaseKey c) = some latest →
      latest < c.clientRevision) : (a.record c).Sound := by
  have fresh := sound.unrecorded newer
  have nodup : (a.order ++ [correlationKey c]).Nodup := by
    rw [nodup_append]
    refine ⟨sound.nodup, by simp, fun k mem k' single => ?_⟩
    rintro rfl
    exact fresh (mem_singleton.mp single ▸ mem)
  have listed : ∀ k, k ∈ a.order ++ [correlationKey c] ↔
      ((a.current.set (correlationKey c) { correlation := c, status := .accepted }).get? k).isSome = true := by
    intro k
    rw [mem_append, mem_singleton, sound.listed, get?_set]
    split <;> simp_all
  have keyed : ∀ k out, (a.current.set (correlationKey c) { correlation := c, status := .accepted }).get? k =
        some out → correlationKey out.correlation = k ∧ ∃ latest,
          (a.latest.set (correlationBaseKey c) c.clientRevision).get?
            (correlationBaseKey out.correlation) = some latest ∧
          out.correlation.clientRevision ≤ latest := by
    intro k out stored
    rcases get?_of_set stored with ⟨rfl, rfl⟩ | before
    · exact ⟨rfl, c.clientRevision, get?_set_self _ _ _, Nat.le_refl _⟩
    obtain ⟨key, latest, there, older⟩ := sound.keyed k out before
    refine ⟨key, ?_⟩
    rw [get?_set]
    split
    · rename_i same
      exact ⟨_, rfl, older.trans (newer latest (same ▸ there)).le⟩
    · exact ⟨latest, there, older⟩
  have short : (a.order ++ [correlationKey c]).length ≤ lifecycleRecordLimit + 1 := by simpa using sound.short
  unfold Actor.record
  by_cases full : lifecycleRecordLimit < (a.order ++ [correlationKey c]).length
  · simp only [full, if_true]
    cases order : a.order ++ [correlationKey c] with
    | nil => simp at order
    | cons oldest =>
      rw [order] at nodup listed short
      obtain ⟨gone, nodup⟩ := nodup_cons.mp nodup
      refine ⟨fun k => ?_, nodup, Nat.le_of_succ_le_succ short, fun k out stored => ?_⟩
      · simp only [tail_cons, head?_cons, elim_some]
        by_cases same : k = oldest
        · simp [same, gone]
        · rw [get?_delete_of_ne _ same, ← listed, mem_cons, or_iff_right same]
      · exact keyed k out (get?_of_delete stored).2
  · simp only [full, if_false]
    exact ⟨listed, nodup, Nat.not_lt.mp full, keyed⟩

/-- A completion is refused and changes nothing, or the revision is the latest and had no terminal
outcome. -/
theorem complete_cases (a : Actor) (c : PublicCorrelation) (status : RevisionOutcomeKind)
    (outputSeq finalSeq : Nat) (reason : String) :
    (∃ refusal, a.complete c status outputSeq finalSeq reason = (a, .error refusal)) ∨
    isTerminalOutcome status = true ∧ a.latest.get? (correlationBaseKey c) = some c.clientRevision ∧
      (∃ old, a.current.get? (correlationKey c) = some old ∧ isTerminalOutcome old.status = false) ∧
      a.complete c status outputSeq finalSeq reason =
        ({ a with current :=
            a.current.set (correlationKey c) ⟨c, status, outputSeq, finalSeq, reason⟩ },
          .ok ⟨c, status, outputSeq, finalSeq, reason⟩) := by
  fun_cases a.complete c status outputSeq finalSeq reason
  case case5 terminal latest old found unsettled _ =>
    exact .inr ⟨by simpa using terminal, not_not.mp latest, ⟨old, found, by simpa using unsettled⟩, rfl⟩
  all_goals exact .inl ⟨_, rfl⟩

/-- What a call does: nothing, the record of a newer revision, or a change of the record of a
latest revision that has no terminal outcome. -/
theorem Step.cases (step : Step a call a') : (a' = a ∧ ∀ c, call.completes c = false) ∨
    (∃ c, (∀ latest, a.latest.get? (correlationBaseKey c) = some latest →
        latest < c.clientRevision) ∧ a' = a.record c ∧ ∀ d, call.completes d = false) ∨
    ∃ c out, out.correlation = c ∧ a.latest.get? (correlationBaseKey c) = some c.clientRevision ∧
      (∃ old, a.current.get? (correlationKey c) = some old ∧ isTerminalOutcome old.status = false) ∧
      a' = { a with current := a.current.set (correlationKey c) out } ∧
      ∀ d, call.completes d = true ↔ d = c ∧ isTerminalOutcome out.status = true := by
  cases call with
  | admitRevision c =>
    cases step
    fun_cases a.admitRevision c
    case case3 notStale notEqual =>
      refine .inr (.inl ⟨c, fun latest there => ?_, rfl, fun _ => rfl⟩)
      rw [there] at notStale notEqual
      simp only [any_some, decide_eq_true_eq, some.injEq] at notStale notEqual
      omega
    all_goals exact .inl ⟨rfl, fun _ => rfl⟩
  | markWaiting c =>
    cases step
    fun_cases a.markWaiting c
    case case2 current unsettled _ =>
      simp only [isCurrent, Bool.and_eq_true, decide_eq_true_eq] at current
      obtain ⟨old, found⟩ := isSome_iff_exists.mp current.2
      rw [found] at unsettled
      refine .inr (.inr ⟨c, _, rfl, current.1, ⟨old, found, by simpa using unsettled⟩, rfl, ?_⟩)
      simp [ActorCall.completes, isTerminalOutcome]
    all_goals exact .inl ⟨rfl, fun _ => rfl⟩
  | complete c status outputSeq finalSeq reason =>
    obtain ⟨returned, rfl⟩ := of_guard step
    rcases a.complete_cases c status outputSeq finalSeq reason with
      ⟨refusal, result⟩ | ⟨terminal, latest, unsettled, result⟩
    · rw [result] at returned ⊢
      refine .inl ⟨rfl, fun d => ?_⟩
      simp [ActorCall.completes, ← returned, Except.isOk, Except.toBool]
    rw [result] at returned ⊢
    refine .inr (.inr ⟨c, _, rfl, latest, unsettled, rfl, fun d => ?_⟩)
    simp [ActorCall.completes, ← returned, Except.isOk, Except.toBool, terminal, eq_comm]

theorem Sound.step (sound : a.Sound) (step : Step a call a') : a'.Sound := by
  rcases step.cases with ⟨rfl, -⟩ | ⟨c, newer, rfl, -⟩ | ⟨c, out, own, -, ⟨old, found, -⟩, rfl, -⟩
  · exact sound
  · exact sound.record newer
  · exact sound.replace own (by simp [found])

theorem Step.latest_le (step : Step a call a') {base : String} {latest : Nat}
    (there : a.latest.get? base = some latest) :
    ∃ latest', a'.latest.get? base = some latest' ∧ latest ≤ latest' := by
  rcases step.cases with ⟨rfl, -⟩ | ⟨c, newer, rfl, -⟩ | ⟨c, out, -, -, -, rfl, -⟩
  · exact ⟨latest, there, Nat.le_refl _⟩
  · simp only [Actor.record, get?_set]
    split
    · rename_i same
      exact ⟨_, rfl, (newer latest (same ▸ there)).le⟩
    · exact ⟨latest, there, Nat.le_refl _⟩
  · exact ⟨latest, there, Nat.le_refl _⟩

/-- The revision can no longer get an outcome: a later one was admitted, or its record is gone or
terminal. -/
def Settled (a : Actor) (c : PublicCorrelation) : Prop :=
  ∃ latest, a.latest.get? (correlationBaseKey c) = some latest ∧
    c.clientRevision ≤ latest ∧ (latest = c.clientRevision →
      ∀ out, a.current.get? (correlationKey c) = some out → isTerminalOutcome out.status = true)

theorem Settled.step (settled : a.Settled c) (step : Step a call a') : a'.Settled c ∧ call.completes c = false := by
  obtain ⟨latest, there, reached, closed⟩ := settled
  rcases step.cases with ⟨rfl, quiet⟩ | ⟨d, newer, rfl, quiet⟩ |
      ⟨d, out, -, current, ⟨old, found, unsettled⟩, rfl, completes⟩
  · exact ⟨⟨latest, there, reached, closed⟩, quiet c⟩
  · refine ⟨?_, quiet c⟩
    by_cases same : correlationBaseKey c = correlationBaseKey d
    · have older := newer latest (same ▸ there)
      refine ⟨d.clientRevision, by simp [Actor.record, same], by omega, fun equal => ?_⟩
      omega
    refine ⟨latest, ?_, reached, fun equal out stored => ?_⟩
    · simp only [Actor.record]
      rw [get?_set_of_ne _ same, there]
    · have other : correlationKey c ≠ correlationKey d := by
        intro key
        exact same (correlationKey_inj.mp key ▸ rfl)
      refine closed equal out ?_
      simp only [Actor.record] at stored
      split at stored
      · cases first : (a.order ++ [correlationKey d]).head? with
        | none => simp at first
        | some =>
          rw [first] at stored
          have kept := (get?_of_delete stored).2
          rwa [get?_set_of_ne _ other] at kept
      · rwa [get?_set_of_ne _ other] at stored
  have other : c ≠ d := by
    rintro rfl
    rw [current, some.injEq] at there
    rw [closed there.symm old found] at unsettled
    cases unsettled
  refine ⟨⟨latest, there, reached, fun equal out stored => closed equal out ?_⟩, ?_⟩
  · rwa [get?_set_of_ne _ fun key => other (correlationKey_inj.mp key)] at stored
  · rw [Bool.eq_false_iff]
    exact fun done => other ((completes c).mp done).1

theorem Step.settled (step : Step a call a') (done : call.completes c = true) : a'.Settled c := by
  rcases step.cases with ⟨-, quiet⟩ | ⟨-, -, -, quiet⟩ | ⟨d, out, -, current, -, rfl, completes⟩
  · rw [quiet c] at done
    cases done
  · rw [quiet c] at done
    cases done
  obtain ⟨rfl, terminal⟩ := (completes c).mp done
  refine ⟨_, current, Nat.le_refl _, fun _ out' stored => ?_⟩
  simp only [get?_set_self, some.injEq] at stored
  exact stored ▸ terminal

end Actor

variable {labels : List ActorCall} {a : Actor}

theorem actor_sound (run : Run Actor.Step {} labels a) : a.Sound :=
  run.invariant _ Actor.Sound.new fun _ _ _ sound step => sound.step step

theorem completed_once (run : Run Actor.Step {} labels a) (c : PublicCorrelation) :
    labels.countP (ActorCall.completes c) = 0 ∨ labels.countP (ActorCall.completes c) = 1 ∧ a.Settled c := by
  refine run.history (fun labels a => labels.countP (ActorCall.completes c) = 0 ∨
    labels.countP (ActorCall.completes c) = 1 ∧ a.Settled c) (.inl rfl) ?_
  intro labels a call a' _ before step
  rcases before with none | ⟨one, settled⟩
  · cases done : call.completes c with
    | false => exact .inl (by simp [none, done])
    | true => exact .inr ⟨by simp [none, done], step.settled done⟩
  · obtain ⟨settled, quiet⟩ := settled.step step
    exact .inr ⟨by simp [one, quiet], settled⟩

/-- In every run of the actor the latest revision of a connection never decreases, a revision is
completed at most once and only while it is the latest, asking for the latest revision again
changes nothing and returns its record unless that was evicted, and the order lists the keys of
the records. -/
theorem revisions_completed_once (run : Run Actor.Step {} labels a) :
    (∀ call a', Actor.Step a call a' → ∀ base latest, a.latest.get? base = some latest →
      ∃ latest', a'.latest.get? base = some latest' ∧ latest ≤ latest') ∧
    (∀ c, labels.countP (ActorCall.completes c) ≤ 1) ∧ (∀ c status outputSeq finalSeq reason out,
      (a.complete c status outputSeq finalSeq reason).2 = .ok out →
        a.latest.get? (correlationBaseKey c) = some c.clientRevision ∧ out.correlation = c) ∧
    (∀ c, a.latest.get? (correlationBaseKey c) = some c.clientRevision → a.admitRevision c = (a, (a.lookup c).getD
        { correlation := c, status := .rejected, reason := "record_evicted" })) ∧
    (∀ k, k ∈ a.order ↔ (a.current.get? k).isSome = true) ∧ a.order.Nodup ∧ a.order.length ≤ 24 ∧
    (∀ c out, a.lookup c = some out → out.correlation = c) ∧ ∀ c d, correlationKey c = correlationKey d → c = d := by
  have sound := actor_sound run
  refine ⟨fun call a' step base latest => step.latest_le, fun c => ?_, ?_, fun c latest => ?_,
    sound.listed, sound.nodup, sound.short, fun c out found => ?_, fun c d =>
    correlationKey_inj.mp⟩
  · rcases completed_once run c with none | ⟨one, -⟩
    · exact none.le.trans (Nat.zero_le _)
    · exact one.le
  · intro c status outputSeq finalSeq reason out returned
    rcases a.complete_cases c status outputSeq finalSeq reason with
      ⟨refusal, result⟩ | ⟨-, latest, -, result⟩
    · rw [result] at returned
      cases returned
    rw [result] at returned
    cases returned
    exact ⟨latest, rfl⟩
  · simp [Actor.admitRevision, Actor.lookup, latest]
  · exact correlationKey_inj.mp (sound.keyed _ _ found).1

/-- A revision is completed, and as many others are admitted as there are records. -/
def evicting : List ActorCall :=
  .admitRevision ⟨"a", 1, 1⟩ :: .complete ⟨"a", 1, 1⟩ .applied 0 0 "" true ::
    (List.range lifecycleRecordLimit).map fun n => .admitRevision ⟨"b", 1, n + 1⟩

theorem evicting_replay : ∃ a, replay Actor.call {} evicting = some a ∧
    a.latest.get? (correlationBaseKey ⟨"a", 1, 1⟩) = some 1 ∧ a.lookup ⟨"a", 1, 1⟩ = none := by
  have facts : ((replay Actor.call {} evicting).map fun a =>
      (a.latest.get? (correlationBaseKey ⟨"a", 1, 1⟩), a.lookup ⟨"a", 1, 1⟩)) = some (some 1, none) := by
    decide +kernel
  obtain ⟨a, replayed, found⟩ := map_eq_some_iff.mp facts
  exact ⟨a, replayed, Prod.mk.inj found⟩

/-- The theorem at a run in which a record is evicted. -/
theorem revisions_completed_once_evicting : ∃ a, Run Actor.Step {} evicting a ∧
    a.order.length ≤ 24 ∧ ∀ c, evicting.countP (ActorCall.completes c) ≤ 1 := by
  obtain ⟨a, replayed, -⟩ := evicting_replay
  have run := replay_run replayed
  obtain ⟨-, once, -, -, -, -, short, -⟩ := revisions_completed_once run
  exact ⟨a, run, short, once⟩

/-- Asking again for a revision whose record was evicted does not return the outcome it was
given. -/
theorem evicted_revision_rejected : ∃ a, Run Actor.Step {} evicting a ∧
    evicting.countP (ActorCall.completes ⟨"a", 1, 1⟩) = 1 ∧
    a.latest.get? (correlationBaseKey ⟨"a", 1, 1⟩) = some 1 ∧ a.admitRevision ⟨"a", 1, 1⟩ =
      (a, { correlation := ⟨"a", 1, 1⟩, status := .rejected, reason := "record_evicted" }) := by
  obtain ⟨a, replayed, latest, evicted⟩ := evicting_replay
  refine ⟨a, replay_run replayed, by decide +kernel, latest, ?_⟩
  unfold Actor.lookup at evicted
  simp [Actor.admitRevision, latest, evicted]

end AgentGrid.Terminal
