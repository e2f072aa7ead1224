import AgentGrid.Lib.Chan
import AgentGrid.Lib.Run
import Mathlib.Data.List.Nodup

/-!
# The fan-out of the gateway

`DaemonClient` hands what comes from the daemon to its subscribers.  A broadcaster copies the
subscriber set under the read lock and sends without it; a browser that disconnects, a broadcaster
that finds a full buffer and the loss of the daemon close the channels of a subscriber under the
write lock.  Lock regions and channel operations are single steps.
-/

namespace AgentGrid.Gateway

open AgentGrid.Lib List Option Chan

/-- `daemonSubscriber`. -/
structure Subscriber (E P : Type) where
  events : Chan E
  pushes : Chan P

def perSubscriberBuf : Nat := 64

/-- The channels that `SubscribeEvents` makes. -/
def Subscriber.new {E P : Type} : Subscriber E P := ⟨{ cap := perSubscriberBuf }, { cap := 8 }⟩

@[simp] def Subscriber.isOpen {E P : Type} (sub : Subscriber E P) : Bool :=
  !sub.events.closed && !sub.pushes.closed

inductive Load (E P : Type) where
  | event (ev : E) | push (frame : P)

/-- A broadcaster at work: the rest of its snapshot, and the slow subscriber it is about to
sever. -/
structure Broadcast (E P : Type) where
  load : Load E P
  left : List Nat
  severing : Option Nat := none

inductive Panic where
  | sendOnClosed | closeOfClosed
  deriving DecidableEq

/-- The fan-out of a `DaemonClient`: the subscribers made so far, the ones registered in `subs`, and
the broadcasters. -/
structure Fanout (E P : Type) where
  subscribers : List (Subscriber E P) := []
  subs : List Nat := []
  jobs : List (Broadcast E P) := []
  stopped : Bool := false
  panicked : Option Panic := none

inductive FanoutLabel (E P : Type) where
  | subscribeEvents
  /-- The lock region of the goroutine that waits for the context of a subscriber. -/
  | unregister (id : Nat)
  /-- The lock region of `broadcastEvent` or `broadcastPush`, with the order of its loop. -/
  | broadcast (load : Load E P) (snapshot : List Nat)
  /-- A broadcaster sends to the next subscriber of its snapshot. -/
  | send (job : Nat)
  /-- The lock region of `severSubscriber`. -/
  | sever (job : Nat)
  /-- With the order of its loop. -/
  | closeAllSubs (visited : List Nat)
  /-- `close(d.stop)`. -/
  | stop
  /-- A subscriber takes from one of its channels. -/
  | receive (id : Nat) (pushed : Bool)

namespace Fanout

variable {E P : Type}

variable (s : Fanout E P) (id : Nat)

def shut : Fanout E P :=
  match s.subscribers[id]? with
  | none => s
  | some sub =>
    match sub.events.close, sub.pushes.close with
    | some events, some pushes => { s with subscribers := s.subscribers.set id ⟨events, pushes⟩ }
    | _, _ => { s with panicked := some .closeOfClosed }

/-- Take a subscriber out of the set, if it is still there, and close its channels. -/
def unregister : Fanout E P :=
  if id ∈ s.subs then ({ s with subs := s.subs.erase id } : Fanout E P).shut id else s

def closeAllSubs (visited : List Nat) : Fanout E P :=
  { visited.foldl shut s with subs := [] }

def subscribeEvents : Fanout E P :=
  let id := s.subscribers.length
  let made : Fanout E P := { s with subscribers := s.subscribers ++ [.new] }
  if s.stopped then made.shut id else { made with subs := s.subs ++ [id] }

def send (j : Nat) : Option (Fanout E P) :=
  s.jobs[j]?.bind fun job =>
    match job.severing, job.left with
    | none, id :: rest =>
      s.subscribers[id]?.map fun sub =>
        let sent (sub' : Subscriber E P) : Fanout E P :=
          { s with subscribers := s.subscribers.set id sub', jobs := s.jobs.set j { job with left := rest } }
        let full := { s with jobs := s.jobs.set j { job with left := rest, severing := some id } }
        match job.load with
        | .event ev =>
          match sub.events.offer ev with
          | .sent events => sent { sub with events }
          | .full => full
          | .panicked => { s with panicked := some .sendOnClosed }
        | .push frame =>
          match sub.pushes.offer frame with
          | .sent pushes => sent { sub with pushes }
          | .full => full
          | .panicked => { s with panicked := some .sendOnClosed }
    | _, _ => none

def sever (j : Nat) : Option (Fanout E P) :=
  s.jobs[j]?.bind fun job =>
    job.severing.map fun id =>
      ({ s with jobs := s.jobs.set j { job with severing := none } } : Fanout E P).unregister id

def receive (pushed : Bool) : Option (Fanout E P) :=
  s.subscribers[id]?.bind fun sub =>
    if pushed then
      match sub.pushes.receive with
      | .got _ pushes => some { s with subscribers := s.subscribers.set id { sub with pushes } }
      | _ => none
    else
      match sub.events.receive with
      | .got _ events => some { s with subscribers := s.subscribers.set id { sub with events } }
      | _ => none

def act (label : FanoutLabel E P) : Option (Fanout E P) :=
  if s.panicked.isSome then none
  else
    match label with
    | .subscribeEvents => some s.subscribeEvents
    | .unregister id => some (s.unregister id)
    | .broadcast load snapshot =>
      if snapshot.Perm s.subs then some { s with jobs := s.jobs ++ [⟨load, snapshot, none⟩] }
      else none
    | .send j => s.send j
    | .sever j => s.sever j
    | .closeAllSubs visited => if visited.Perm s.subs then some (s.closeAllSubs visited) else none
    | .stop => some { s with stopped := true }
    | .receive id pushed => s.receive id pushed

def Step (label : FanoutLabel E P) (s' : Fanout E P) : Prop :=
  s.act label = some s'

/-! ## Every channel is closed once -/

variable {s s' : Fanout E P} {label : FanoutLabel E P} {id : Nat}

/-- The channels of a subscriber are there and open. -/
def OpenAt (s : Fanout E P) (id : Nat) : Prop := ∃ sub, s.subscribers[id]? = some sub ∧ sub.isOpen

structure Registered (s : Fanout E P) : Prop where
  nodup : s.subs.Nodup
  opened : ∀ id ∈ s.subs, s.OpenAt id

theorem OpenAt.congr (opened : s.OpenAt id) (same : s'.subscribers = s.subscribers) : s'.OpenAt id := by
  rwa [OpenAt, same]

theorem Registered.congr (reg : s.Registered) (same : s'.subscribers = s.subscribers)
    (subs : s'.subs = s.subs) : s'.Registered := by
  refine ⟨subs ▸ reg.nodup, fun id mem => ?_⟩
  rw [subs] at mem
  exact (reg.opened id mem).congr same

theorem OpenAt.set {other : Nat} {sub : Subscriber E P} (opened : s.OpenAt id)
    (still : other = id → sub.isOpen = true)
    (written : s'.subscribers = s.subscribers.set other sub) : s'.OpenAt id := by
  obtain ⟨was, found, open'⟩ := opened
  rw [OpenAt, written]
  by_cases same : other = id
  · subst same
    obtain ⟨inside, -⟩ := List.getElem?_eq_some_iff.mp found
    exact ⟨sub, by simp [inside], still rfl⟩
  · exact ⟨was, by rw [getElem?_set_ne same, found], open'⟩

theorem Registered.write {sub sub' : Subscriber E P} (reg : s.Registered)
    (there : s.subscribers[id]? = some sub) (same : sub'.isOpen = sub.isOpen)
    (subs : s'.subs = s.subs) (written : s'.subscribers = s.subscribers.set id sub') : s'.Registered := by
  refine ⟨subs ▸ reg.nodup, fun other mem => ?_⟩
  rw [subs] at mem
  refine (reg.opened other mem).set (fun here => ?_) written
  obtain ⟨was, at', still⟩ := reg.opened other mem
  rw [← here, there] at at'
  cases at'
  rwa [same]

theorem shut_of_open (opened : s.OpenAt id) : ∃ sub : Subscriber E P,
    s.shut id = { s with subscribers := s.subscribers.set id sub } := by
  obtain ⟨sub, found, still⟩ := opened
  simp only [Subscriber.isOpen, Bool.and_eq_true, Bool.not_eq_true'] at still
  refine ⟨⟨{ sub.events with closed := true }, { sub.pushes with closed := true }⟩, ?_⟩
  simp only [shut, found, close_of_open still.1, close_of_open still.2]

theorem unregister_spec (reg : s.Registered) (id : Nat) :
    (s.unregister id).Registered ∧ (s.unregister id).jobs = s.jobs ∧
      (s.unregister id).panicked = s.panicked ∧ (s.unregister id).subs = s.subs.erase id := by
  unfold unregister
  split
  · next mem =>
      let taken : Fanout E P := { s with subs := s.subs.erase id }
      obtain ⟨sub, shut⟩ := shut_of_open (s := taken) ((reg.opened id mem).congr rfl)
      rw [shut]
      refine ⟨⟨reg.nodup.erase id, fun other left => ?_⟩, rfl, rfl, rfl⟩
      obtain ⟨apart, kept⟩ := (reg.nodup.mem_erase_iff).mp left
      exact (reg.opened other kept).set (fun same => absurd same.symm apart) rfl
  · next absent => exact ⟨reg, rfl, rfl, (erase_of_not_mem absent).symm⟩

theorem foldl_shut {ids : List Nat} (once : ids.Nodup) (opened : ∀ id ∈ ids, s.OpenAt id) :
    (ids.foldl shut s).jobs = s.jobs ∧ (ids.foldl shut s).panicked = s.panicked := by
  induction ids generalizing s with
  | nil => exact ⟨rfl, rfl⟩
  | cons id rest ih =>
    obtain ⟨absent, once⟩ := nodup_cons.mp once
    obtain ⟨sub, shut⟩ := shut_of_open (opened id mem_cons_self)
    rw [foldl_cons, shut]
    refine ih once fun other mem => ?_
    exact (opened other (mem_cons_of_mem _ mem)).set (fun same => absurd (same ▸ mem) absent) rfl

theorem closeAllSubs_spec {visited : List Nat} (reg : s.Registered) (perm : visited.Perm s.subs) :
    (s.closeAllSubs visited).Registered ∧ (s.closeAllSubs visited).jobs = s.jobs ∧
      (s.closeAllSubs visited).panicked = s.panicked := by
  obtain ⟨jobs, panicked⟩ := foldl_shut (perm.nodup_iff.mpr reg.nodup) fun id mem =>
    reg.opened id (perm.mem_iff.mp mem)
  exact ⟨⟨nodup_nil, forall_mem_nil _⟩, jobs, panicked⟩

theorem subscribeEvents_spec (reg : s.Registered) : s.subscribeEvents.Registered ∧ s.subscribeEvents.jobs = s.jobs ∧
      s.subscribeEvents.panicked = s.panicked ∧ ∀ id ∈ s.subs, id ∈ s.subscribeEvents.subs := by
  let made : Fanout E P := { s with subscribers := s.subscribers ++ [.new] }
  have fresh : made.OpenAt s.subscribers.length := ⟨.new, by simp [made], rfl⟩
  have older : ∀ id, s.OpenAt id → made.OpenAt id ∧ id ≠ s.subscribers.length := by
    rintro id ⟨sub, found, still⟩
    obtain ⟨inside, -⟩ := List.getElem?_eq_some_iff.mp found
    refine ⟨⟨sub, ?_, still⟩, Nat.ne_of_lt inside⟩
    rw [getElem?_append_left inside, found]
  unfold subscribeEvents
  split
  · obtain ⟨sub, shut⟩ := shut_of_open fresh
    rw [shut]
    refine ⟨⟨reg.nodup, fun id mem => ?_⟩, rfl, rfl, fun id mem => mem⟩
    obtain ⟨opened, apart⟩ := older id (reg.opened id mem)
    exact opened.set (fun same => absurd same.symm apart) rfl
  refine ⟨⟨?_, fun id mem => ?_⟩, rfl, rfl, fun id mem => mem_append_left _ mem⟩
  · refine nodup_append.mpr ⟨reg.nodup, nodup_singleton _, ?_⟩
    intro id mem other last
    rw [mem_singleton] at last
    rw [last]
    exact (older id (reg.opened id mem)).2
  · rcases mem_append.mp mem with old | new
    · exact (older id (reg.opened id old)).1.congr rfl
    · obtain rfl := mem_singleton.mp new
      exact fresh.congr rfl

theorem send_spec {j : Nat} (reg : s.Registered) (done : s.send j = some s') :
    ∃ job id rest, s.jobs[j]? = some job ∧ job.left = id :: rest ∧
      ((s'.Registered ∧ s'.subs = s.subs ∧ s'.panicked = s.panicked ∧
          ∃ severing, s'.jobs = s.jobs.set j { job with left := rest, severing }) ∨
        ¬s.OpenAt id ∧ s' = { s with panicked := some .sendOnClosed }) := by
  obtain ⟨job, found, later⟩ := bind_eq_some_iff.mp done
  split at later
  · next id rest idle left =>
      obtain ⟨sub, there, rfl⟩ := map_eq_some_iff.mp later
      refine ⟨job, id, rest, found, left, ?_⟩
      have closed : sub.isOpen = false → ¬s.OpenAt id := by
        rintro shut ⟨was, at', still⟩
        cases there.symm.trans at'
        cases shut.symm.trans still
      split <;> split <;> rename_i offered
      all_goals first
        | exact .inl ⟨reg.congr rfl rfl, rfl, rfl, _, rfl⟩
        | exact .inr ⟨closed (by simp [offer_eq_panicked_iff.mp offered]), rfl⟩
        | obtain ⟨still, rfl⟩ := eq_of_offer offered
          exact .inl ⟨reg.write there (by simp [still]) rfl rfl, rfl, rfl, _, by rw [idle]⟩
  · cases later

theorem receive_spec {pushed : Bool} (reg : s.Registered) (done : s.receive id pushed = some s') :
    s'.Registered ∧ s'.jobs = s.jobs ∧ s'.panicked = s.panicked ∧ s'.subs = s.subs := by
  obtain ⟨sub, there, later⟩ := bind_eq_some_iff.mp done
  split at later <;> split at later <;> cases later
  all_goals
    rename_i got
    refine ⟨reg.write there ?_ rfl rfl, rfl, rfl, rfl⟩
    simp [(eq_of_receive got).2]

def closing (s : Fanout E P) : FanoutLabel E P → List Nat
  | .unregister id => s.subs.filter (· = id)
  | .sever j => s.subs.filter fun id => (s.jobs[j]?.bind Broadcast.severing) = some id
  | .closeAllSubs _ => s.subs
  | _ => []

/-- What a step can do: it closes the channels it names and no others and a snapshot holds only what
was registered or in a snapshot before, or a broadcaster panics on a channel that is closed. -/
theorem Step.cases (reg : s.Registered) (step : s.Step label s') : (s'.Registered ∧ s'.panicked = s.panicked ∧
        (∀ job' ∈ s'.jobs, ∀ id ∈ job'.left, id ∈ s.subs ∧ s.closing label = [] ∨ ∃ job ∈ s.jobs, id ∈ job.left) ∧
        ∀ id ∈ s.subs, id ∉ s.closing label → id ∈ s'.subs) ∨
      (∃ job ∈ s.jobs, ∃ id ∈ job.left, ¬s.OpenAt id) ∧ s' = { s with panicked := some .sendOnClosed } := by
  unfold Step act at step
  split at step
  · cases step
  have before : ∀ job ∈ s.jobs, ∀ id ∈ job.left, id ∈ s.subs ∧ s.closing label = [] ∨ ∃ job ∈ s.jobs, id ∈ job.left :=
    fun job mem id held => .inr ⟨job, mem, held⟩
  cases label with
  | subscribeEvents =>
    cases step
    obtain ⟨after, jobs, panicked, kept⟩ := subscribeEvents_spec reg
    exact .inl ⟨after, panicked, by rwa [jobs], fun id mem _ => kept id mem⟩
  | unregister id =>
    cases step
    obtain ⟨after, jobs, panicked, subs⟩ := unregister_spec reg id
    refine .inl ⟨after, panicked, by rwa [jobs], fun other mem stays => ?_⟩
    rw [subs, reg.nodup.mem_erase_iff]
    exact ⟨fun same => stays (mem_filter.mpr ⟨mem, decide_eq_true same⟩), mem⟩
  | broadcast =>
    obtain ⟨perm, rfl⟩ := of_guard step
    refine .inl ⟨reg.congr rfl rfl, rfl, fun job mem id held => ?_, fun id mem _ => mem⟩
    rcases mem_append.mp mem with old | new
    · exact before job old id held
    · obtain rfl := mem_singleton.mp new
      exact .inl ⟨perm.mem_iff.mp held, rfl⟩
  | send =>
    obtain ⟨job, id, rest, found, left, done | stuck⟩ := send_spec reg step
    · obtain ⟨after, subs, panicked, severing, jobs⟩ := done
      refine .inl ⟨after, panicked, ?_, fun id mem _ => subs ▸ mem⟩
      rw [jobs]
      intro job' mem other held
      rcases mem_or_eq_of_mem_set mem with old | rfl
      · exact before job' old other held
      refine before job (mem_of_getElem? found) other ?_
      rw [left]
      exact mem_cons_of_mem _ held
    obtain ⟨shut, rfl⟩ := stuck
    refine .inr ⟨⟨job, mem_of_getElem? found, id, ?_, shut⟩, rfl⟩
    rw [left]
    exact mem_cons_self
  | sever j =>
    obtain ⟨job, found, later⟩ := bind_eq_some_iff.mp step
    obtain ⟨id, severing, rfl⟩ := map_eq_some_iff.mp later
    let moved : Fanout E P := { s with jobs := s.jobs.set j { job with severing := none } }
    obtain ⟨after, jobs, panicked, subs⟩ := unregister_spec (s := moved) (reg.congr rfl rfl) id
    refine .inl ⟨after, panicked, ?_, fun other mem stays => ?_⟩
    · rw [jobs]
      intro job' mem other held
      rcases mem_or_eq_of_mem_set mem with old | rfl
      · exact before job' old other held
      · exact before job (mem_of_getElem? found) other held
    · rw [subs, reg.nodup.mem_erase_iff]
      refine ⟨fun same => stays (mem_filter.mpr ⟨mem, ?_⟩), mem⟩
      simp [found, severing, same]
  | closeAllSubs =>
    obtain ⟨perm, rfl⟩ := of_guard step
    obtain ⟨after, jobs, panicked⟩ := closeAllSubs_spec reg perm
    exact .inl ⟨after, panicked, by rwa [jobs], fun id mem stays => absurd mem stays⟩
  | stop =>
    cases step
    exact .inl ⟨reg.congr rfl rfl, rfl, before, fun id mem _ => mem⟩
  | receive id =>
    obtain ⟨after, jobs, panicked, subs⟩ := receive_spec reg step
    exact .inl ⟨after, panicked, by rwa [jobs], fun id mem _ => subs ▸ mem⟩

theorem Registered.start : (({} : Fanout E P)).Registered :=
  ⟨nodup_nil, forall_mem_nil _⟩

/-- In no run of the fan-out is a channel closed twice. -/
theorem closed_once {labels : List (FanoutLabel E P)} (run : Run Step {} labels s) :
    s.panicked ≠ some .closeOfClosed := by
  have both := run.invariant (fun s => s.Registered ∧ s.panicked ≠ some .closeOfClosed)
    ⟨.start, by simp⟩ fun s label s' kept step => ?_
  · exact both.2
  obtain ⟨reg, once⟩ := kept
  rcases step.cases reg with ⟨after, panicked, -, -⟩ | ⟨-, rfl⟩
  · exact ⟨after, panicked ▸ once⟩
  · exact ⟨reg.congr rfl rfl, by simp⟩

/-! ## Nothing is sent on a closed channel -/

/-- No broadcaster still has a subscriber in its snapshot whose channels the step closes. -/
def careful (s : Fanout E P) (label : FanoutLabel E P) : Bool :=
  s.jobs.all fun job => job.left.all fun id => decide (id ∉ s.closing label)

end Fanout

open Fanout

variable {E P : Type}

/-- Where no subscriber is closed that a broadcaster has in its snapshot and has not yet sent to,
nothing is ever sent on a closed channel, and no channel is closed twice. -/
theorem fanout_never_panics {labels : List (FanoutLabel E P)} {s : Fanout E P}
    (run : Run (fun s label s' => Step s label s' ∧ s.careful label = true) {} labels s) : s.panicked = none := by
  have all := run.invariant
    (fun s => s.Registered ∧ s.panicked = none ∧ ∀ job ∈ s.jobs, ∀ id ∈ job.left, id ∈ s.subs)
    ⟨.start, rfl, forall_mem_nil _⟩ fun s label s' kept step => ?_
  · exact all.2.1
  obtain ⟨reg, calm, held⟩ := kept
  obtain ⟨step, careful⟩ := step
  rcases step.cases reg with ⟨after, panicked, jobs, stays⟩ | ⟨⟨job, mem, id, left, shut⟩, -⟩
  · refine ⟨after, panicked.trans calm, fun job' mem id left => ?_⟩
    have known : id ∈ s.subs ∧ id ∉ s.closing label := by
      rcases jobs job' mem id left with ⟨fresh, none⟩ | ⟨job, was, held'⟩
      · rw [none]
        exact ⟨fresh, not_mem_nil⟩
      · have spared := List.all_eq_true.mp (List.all_eq_true.mp careful job was) id held'
        exact ⟨held job was id held', of_decide_eq_true spared⟩
    exact stays id known.1 known.2
  · exact absurd (reg.opened id (held job mem id left)) shut

/-- Two browsers get an event; one of them leaves after that, and the other when the daemon is
lost. -/
def orderlyLeave : List (FanoutLabel String String) :=
  [.subscribeEvents, .subscribeEvents, .broadcast (.event "output") [1, 0], .send 0, .send 0,
    .unregister 0, .receive 1 false, .closeAllSubs [1], .stop, .subscribeEvents]

theorem fanout_never_panics_orderlyLeave : ∃ s,
    Run (fun s label s' => Step s label s' ∧ s.careful label = true) {} orderlyLeave s ∧
      s.subscribers.length = 3 ∧ s.subscribers.all (fun sub => !sub.isOpen) = true ∧ s.panicked = none := by
  have facts : ((replay (guarded act fun s label => s.careful label = true) {} orderlyLeave).map
      fun s => (s.subscribers.length, s.subscribers.all fun sub => !sub.isOpen)) = some (3, true) := by
    decide +kernel
  obtain ⟨s, replayed, found⟩ := map_eq_some_iff.mp facts
  obtain ⟨made, shut⟩ := Prod.mk.inj found
  have run := guarded_run replayed
  exact ⟨s, run, made, shut, fanout_never_panics run⟩

theorem closed_once_orderlyLeave : ∃ s, Run Step {} orderlyLeave s ∧ s.panicked ≠ some .closeOfClosed := by
  obtain ⟨s, replayed⟩ := isSome_iff_exists.mp (show (replay act {} orderlyLeave).isSome = true by decide +kernel)
  exact ⟨s, replay_run replayed, closed_once (replay_run replayed)⟩

/-- A browser disconnects between the snapshot of a broadcaster and its send. -/
def abruptLeave : List (FanoutLabel String String) :=
  [.subscribeEvents, .broadcast (.event "output") [0], .unregister 0, .send 0]

/-- The send panics, and the gateway with it. -/
theorem disconnect_panics : ∃ s : Fanout String String,
    Run Step {} abruptLeave s ∧ s.panicked = some .sendOnClosed := by
  have facts : ((replay act {} abruptLeave).map Fanout.panicked) = some (some .sendOnClosed) := by decide +kernel
  obtain ⟨s, replayed, found⟩ := map_eq_some_iff.mp facts
  exact ⟨s, replay_run replayed, found⟩

end AgentGrid.Gateway
