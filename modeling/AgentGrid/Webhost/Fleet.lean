import AgentGrid.Lib.Run
import Mathlib.Data.List.Nodup

/-!
# The subscribers of the fleet

A subscriber of the fleet, or of its health, has a channel with one slot.  `replace`, or `publishHealth`,
overwrites the slot by a receive and a send under the lock that both share; the subscriber may receive
in between.  A snapshot stands for its revision here.
-/

namespace AgentGrid.Webhost

open AgentGrid.Lib List Function

structure Subscriber where
  registered : Bool := false
  /-- In `healthSubs`, not in `subscribers`. -/
  health : Bool := false
  slot : Option Nat := none
  received : List Nat := []

/-- What the loop does next for a subscriber: the send that may find the slot full, the receive that
may find it empty, or the send that waits for room. -/
inductive Stage where
  | offer | drain | send
  deriving DecidableEq

structure FleetRuntime where
  /-- `healthRevision`, and the revision of the snapshot. -/
  revision : Bool → Nat := fun _ => 0
  subs : Nat → Subscriber := fun _ => {}
  next : Nat := 0
  /-- A publication holds the lock. -/
  publishing : Bool := false
  /-- The subscribers that its loop has still to serve, the present one first. -/
  todo : List Nat := []
  stage : Stage := .offer

inductive FleetLabel where
  | subscribe (health : Bool) | unsubscribe (i : Nat)
  /-- A publication takes the lock, and is to visit the subscribers in this order. -/
  | publish (health : Bool) (order : List Nat) | advance | receive (i : Nat)

/-- What the subscriber has received, and what it will receive next. -/
def Subscriber.seen (sub : Subscriber) : List Nat := sub.received ++ sub.slot.toList

namespace FleetRuntime

variable (s : FleetRuntime)

/-- The revision that is published to the subscriber. -/
def due (i : Nat) : Nat := s.revision (s.subs i).health

def put (i : Nat) (sub : Subscriber) : FleetRuntime := { s with subs := update s.subs i sub }

/-- The publication goes on; without a result its send waits. -/
def serve : Option FleetRuntime :=
  match s.todo, s.stage with
  | [], _ => some { s with publishing := false }
  | i :: _, .drain => some { s.put i { s.subs i with slot := none } with stage := .send }
  | i :: rest, stage =>
    if (s.subs i).slot = none then
      some { s.put i { s.subs i with slot := some (s.due i) } with todo := rest, stage := .offer }
    else if stage = .offer then some { s with stage := .drain }
    else none

def act : FleetLabel → Option FleetRuntime
  | .subscribe health =>
    if s.publishing then none
    else some { s.put s.next { registered := true, health, slot := some (s.revision health) } with next := s.next + 1 }
  | .unsubscribe i => if s.publishing then none else some (s.put i { s.subs i with registered := false })
  | .publish health order =>
    if s.publishing = false ∧
        order.Perm ((range s.next).filter fun i => (s.subs i).registered && (s.subs i).health == health) then
      some { s with
        revision := update s.revision health (s.revision health + 1), publishing := true, todo := order
        stage := .offer }
    else none
  | .advance => if s.publishing then s.serve else none
  | .receive i =>
    (s.subs i).slot.map fun r => s.put i { s.subs i with slot := none, received := (s.subs i).received ++ [r] }

def Step (s : FleetRuntime) (label : FleetLabel) (s' : FleetRuntime) : Prop := s.act label = some s'

structure Sound : Prop where
  sorted : ∀ i, (s.subs i).seen.Pairwise (· < ·)
  bounded : ∀ i, ∀ r ∈ (s.subs i).seen, r ≤ s.due i
  current : ∀ i, (s.subs i).registered = true → i ∉ s.todo → (s.subs i).seen.getLast? = some (s.due i)
  behind : ∀ i ∈ s.todo, ∀ r ∈ (s.subs i).seen, r < s.due i
  known : ∀ i, (s.subs i).registered = true → i < s.next
  idle : s.publishing = false → s.todo = []
  once : s.todo.Nodup
  drained : ∀ i ∈ s.todo.head?, s.stage = .send → (s.subs i).slot = none

variable {s} {s' : FleetRuntime} {sub : Subscriber} {i : Nat} {label : FleetLabel} {labels : List FleetLabel}

theorem put_self : (s.put i sub).subs i = sub := update_self ..

theorem put_other {j : Nat} (other : j ≠ i) : (s.put i sub).subs j = s.subs j := update_of_ne other ..

theorem seen_empty (sub : Subscriber) : Subscriber.seen { sub with slot := none } = sub.received := append_nil _

/-- One subscriber changes: what holds of the others stays, where the loop has still to serve the same
of them. -/
theorem Sound.change (sound : s.Sound) {next : Nat} {todo : List Nat} {stage : Stage}
    (sorted : sub.seen.Pairwise (· < ·)) (bounded : ∀ r ∈ sub.seen, r ≤ s.revision sub.health)
    (current : sub.registered = true → i ∉ todo → sub.seen.getLast? = some (s.revision sub.health))
    (behind : i ∈ todo → ∀ r ∈ sub.seen, r < s.revision sub.health) (known : sub.registered = true → i < next)
    (more : s.next ≤ next) (others : ∀ j, j ≠ i → (j ∈ todo ↔ j ∈ s.todo)) (idle : s.publishing = false → todo = [])
    (once : todo.Nodup)
    (drained : ∀ j ∈ todo.head?, stage = .send → ((s.put i sub).subs j).slot = none) :
    Sound { s.put i sub with next, todo, stage } := by
  refine ⟨fun j => ?_, fun j r mem => ?_, fun j there out => ?_, fun j mem r held => ?_, fun j there => ?_, idle, once,
    drained⟩
  all_goals rcases eq_or_ne j i with rfl | other
  · simpa only [put_self] using sorted
  · simpa only [put_other other] using sound.sorted j
  · simp only [due, put_self] at mem ⊢
    exact bounded r mem
  · simp only [due, put_other other] at mem ⊢
    exact sound.bounded j r mem
  · simp only [due, put_self] at there ⊢
    exact current there out
  · simp only [due, put_other other] at there ⊢
    exact sound.current j there (mt (others j other).mpr out)
  · simp only [due, put_self] at held ⊢
    exact behind mem r held
  · simp only [due, put_other other] at held ⊢
    exact sound.behind j ((others j other).mp mem) r held
  · simp only [put_self] at there
    exact known there
  · simp only [put_other other] at there
    exact Nat.lt_of_lt_of_le (sound.known j there) more

theorem Sound.put (sound : s.Sound) (seen : sub.seen = (s.subs i).seen) (health : sub.health = (s.subs i).health)
    (known : sub.registered = true → (s.subs i).registered = true)
    (empty : (s.subs i).slot = none → sub.slot = none) : (s.put i sub).Sound := by
  refine sound.change (seen ▸ sound.sorted i) ?_ ?_ ?_ (fun there => sound.known i (known there)) (Nat.le_refl _)
    (fun _ _ => Iff.rfl) sound.idle sound.once fun j mem stage => ?_
  all_goals try rw [seen, health]
  · exact sound.bounded i
  · exact fun there => sound.current i (known there)
  · exact sound.behind i
  rcases eq_or_ne j i with rfl | other
  · rw [put_self]
    exact empty (sound.drained j mem stage)
  · rw [put_other other]
    exact sound.drained j mem stage

/-- The receive of the loop: the slot is empty until the send, since nobody else sends while the lock
is held. -/
theorem Sound.drain (sound : s.Sound) {rest : List Nat} (todo : s.todo = i :: rest) :
    Sound { s.put i { s.subs i with slot := none } with stage := .send } := by
  have kept : ∀ r ∈ (s.subs i).received, r ∈ (s.subs i).seen := fun r => mem_append_left _
  refine sound.change ?_ ?_ ?_ ?_ (sound.known i) (Nat.le_refl _) (fun _ _ => Iff.rfl) sound.idle sound.once
    fun j mem _ => ?_
  all_goals try rw [seen_empty]
  · exact (sound.sorted i).sublist (sublist_append_left ..)
  · exact fun r mem => sound.bounded i r (kept r mem)
  · exact fun _ out => absurd (todo ▸ mem_cons_self) out
  · exact fun mem r held => sound.behind i mem r (kept r held)
  · obtain rfl : j = i := by simpa [FleetRuntime.put, todo, eq_comm] using mem
    rw [put_self]

/-- A send into the empty slot: the subscriber has the present revision, and is served. -/
theorem Sound.send (sound : s.Sound) {rest : List Nat} (todo : s.todo = i :: rest) (empty : (s.subs i).slot = none) :
    Sound { s.put i { s.subs i with slot := some (s.due i) } with todo := rest, stage := .offer } := by
  have mine : i ∈ s.todo := todo ▸ mem_cons_self
  have after : Subscriber.seen { s.subs i with slot := some (s.due i) } = (s.subs i).seen ++ [s.due i] := by
    simp [Subscriber.seen, empty]
  have once := sound.once
  rw [todo, nodup_cons] at once
  refine sound.change ?_ ?_ ?_ (fun mem => absurd mem once.1) (sound.known i) (Nat.le_refl _) (fun j other => ?_)
    (fun free => ?_) once.2 fun j _ stage => by cases stage
  all_goals try rw [after]
  · refine pairwise_append.mpr ⟨sound.sorted i, pairwise_singleton _ _, fun r mem r' mem' => ?_⟩
    rw [mem_singleton.mp mem']
    exact sound.behind i mine r mem
  · intro r mem
    exact (mem_append.mp mem).elim (sound.bounded i r) fun new => Nat.le_of_eq (mem_singleton.mp new)
  · exact fun _ _ => getLast?_concat
  · rw [todo, mem_cons, or_iff_right other]
  · cases todo.symm.trans (sound.idle free)

theorem Sound.serve (sound : s.Sound) (step : s.serve = some s') : s'.Sound := by
  revert step
  fun_cases FleetRuntime.serve s <;> rintro ⟨⟩
  case case1 none =>
    exact ⟨sound.sorted, sound.bounded, sound.current, sound.behind, sound.known, fun _ => none, sound.once,
      sound.drained⟩
  case case2 todo => exact sound.drain todo
  case case3 todo empty _ => exact sound.send todo empty
  case case4 =>
    exact ⟨sound.sorted, sound.bounded, sound.current, sound.behind, sound.known, sound.idle, sound.once,
      fun _ _ stage => by cases stage⟩

theorem Sound.subscribe (sound : s.Sound) (free : s.publishing = false) (health : Bool) :
    Sound { s.put s.next { registered := true, health, slot := some (s.revision health) } with
      next := s.next + 1 } := by
  have waits : ∀ j, j ∉ s.todo := by simp [sound.idle free]
  exact sound.change (pairwise_singleton _ _) (fun r mem => Nat.le_of_eq (mem_singleton.mp mem)) (fun _ _ => rfl)
    (fun mem => absurd mem (waits _)) (fun _ => Nat.lt_succ_self _) (Nat.le_succ _) (fun _ _ => Iff.rfl) sound.idle
    sound.once fun j mem => absurd (mem_of_mem_head? mem) (waits j)

theorem Sound.publish (sound : s.Sound) {health : Bool} {order : List Nat} (free : s.publishing = false)
    (perm : order.Perm ((range s.next).filter fun i => (s.subs i).registered && (s.subs i).health == health)) :
    Sound { s with
      revision := update s.revision health (s.revision health + 1), publishing := true, todo := order
      stage := .offer } := by
  have waits : ∀ j, j ∉ s.todo := by simp [sound.idle free]
  have listed : ∀ j, j ∈ order ↔ j < s.next ∧ (s.subs j).registered = true ∧ (s.subs j).health = health := by
    simp [perm.mem_iff]
  have raised : ∀ j, (s.subs j).health = health → update s.revision health (s.revision health + 1) (s.subs j).health =
      s.due j + 1 := by
    rintro j rfl
    exact update_self ..
  have same : ∀ j, (s.subs j).health ≠ health →
      update s.revision health (s.revision health + 1) (s.subs j).health = s.due j := by
    intro j other
    exact update_of_ne other ..
  refine ⟨sound.sorted, fun j r mem => ?_, fun j there out => ?_, fun j mem r held => ?_, sound.known,
    fun free => (by cases free), perm.nodup_iff.mpr (nodup_range.filter _), fun j _ stage => by cases stage⟩
  · have before := sound.bounded j r mem
    show r ≤ update s.revision health _ _
    by_cases own : (s.subs j).health = health
    · rw [raised j own]
      exact Nat.le_succ_of_le before
    · rwa [same j own]
  · have other : (s.subs j).health ≠ health := fun own => out ((listed j).mpr ⟨sound.known j there, there, own⟩)
    show _ = some (update s.revision health _ _)
    rw [same j other]
    exact sound.current j there (waits j)
  · show r < update s.revision health _ _
    rw [raised j ((listed j).mp mem).2.2]
    exact Nat.lt_succ_of_le (sound.bounded j r held)

theorem Sound.step (sound : s.Sound) (step : s.Step label s') : s'.Sound := by
  cases label with
  | subscribe health =>
    obtain ⟨free, same⟩ := Option.ite_none_left_eq_some.mp step
    cases same
    exact sound.subscribe (Bool.eq_false_iff.mpr free) health
  | unsubscribe =>
    obtain ⟨_, same⟩ := Option.ite_none_left_eq_some.mp step
    cases same
    exact sound.put rfl rfl (by rintro ⟨⟩) id
  | publish health order =>
    obtain ⟨⟨free, perm⟩, rfl⟩ := of_guard step
    exact sound.publish free perm
  | advance => exact sound.serve (Option.ite_none_right_eq_some.mp step).2
  | receive =>
    obtain ⟨r, held, rfl⟩ := Option.map_eq_some_iff.mp step
    exact sound.put (by simp [Subscriber.seen, held]) rfl id fun _ => rfl

/-- In every run a publication can go on while it holds the lock; a subscriber receives increasing
revisions; and the last one that it has received or will receive next is the present one, unless a
publication holds the lock and has still to serve it. -/
theorem subscribers_converge (run : Run Step {} labels s) :
    (s.publishing = true → ∃ s', s.Step .advance s') ∧ (∀ i, (s.subs i).received.Pairwise (· < ·)) ∧
    (s.publishing = false → s.todo = []) ∧
    ∀ i, (s.subs i).registered = true → i ∉ s.todo → (s.subs i).seen.getLast? = some (s.due i) := by
  have sound : s.Sound := by
    refine run.invariant Sound ?_ fun _ _ _ sound step => sound.step step
    constructor <;> simp [Subscriber.seen]
  refine ⟨fun busy => ?_, fun i => (sound.sorted i).sublist (sublist_append_left ..), sound.idle, sound.current⟩
  simp only [Step, act, busy, if_true]
  fun_cases serve s with
  | case5 i rest todo full =>
    have stage : s.stage = .send := by cases stage : s.stage <;> grind
    exact absurd (sound.drained i (by simp [todo]) stage) full
  | _ => exact ⟨_, rfl⟩

/-- A publication that has not yet reached the subscriber. -/
theorem subscriber_behind_in_publication : ∃ s, Run Step {} [.subscribe true, .publish true [0]] s ∧
    (s.subs 0).registered = true ∧ (s.subs 0).seen = [0] ∧ s.due 0 = 1 :=
  ⟨_, replay_run rfl, rfl, rfl, rfl⟩

def fullSlot : List FleetLabel :=
  [.subscribe true, .publish true [0], .advance, .receive 0] ++ replicate 3 .advance

theorem subscribers_converge_full_slot : ∃ s, Run Step {} fullSlot s ∧ (s.subs 0).received = [0] ∧
    (s.subs 0).seen.getLast? = some 1 := by
  have run : Run Step {} fullSlot _ := replay_run rfl
  exact ⟨_, run, rfl, (subscribers_converge run).2.2.2 0 rfl (by simp)⟩

end FleetRuntime

end AgentGrid.Webhost
