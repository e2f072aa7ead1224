import AgentGrid.Terminal.Relay

/-!
# What an instruction does to the table of the relay

Subscriptions come into the table by `install` only, and `rebindOwned` and `unsubscribeOwned` leave
no subscription in the place they are about unless it is of the frame that is asked for.  The
instructions that an instruction leads to open what it opens itself.
-/

namespace AgentGrid.Terminal

open AgentGrid.Lib AgentGrid.Host Option GoMap

namespace Instr

/-- The subscription that the instruction is to open, and on which frame. -/
@[simp] def opens : Instr → Option (SurfaceKey × FrameID)
  | .subscribeOwned key frameID _ _ | .subscribeSurface key frameID _ _
  | .rebindOwned key frameID _ _ => some (key, frameID)
  | .install key ref _ _ => some (key, ref.frameID)
  | _ => none

/-- The instruction settles what the table holds for the key. -/
@[simp] def settles (key : SurfaceKey) : Instr → Bool
  | .rebindOwned key' _ _ _ | .unsubscribeOwned key' => decide (key' = key)
  | _ => false

/-- The loop is to take up an event of its interactive lane. -/
@[simp] def internal : Instr → Bool
  | .dispatchInternal _ => true
  | _ => false

/-- The instruction closes or releases a subscription that was taken out of the table. -/
def closes : Instr → Bool
  | .cancel _ | .release _ => true
  | _ => false

end Instr

namespace World

variable {D : Type} {env : Env D} {draw : Draw} {w w' : World D} {attach : Attach} {t : Thread}

theorem subscribeSurface_table (w : World D) (frameID : FrameID) (attach : Attach) :
    (w.subscribeSurface frameID attach).1.subs = w.subs ∧ (w.subscribeSurface frameID attach).1.host = w.host ∧
      ∀ ref, (w.subscribeSurface frameID attach).2 = some ref → ref.frameID = frameID := by
  fun_cases w.subscribeSurface frameID attach <;> exact ⟨rfl, rfl, by rintro _ ⟨⟩ <;> rfl⟩

theorem unsubscribeSurface_table (w : World D) (ref : Ref) :
    (w.unsubscribeSurface ref).subs = w.subs ∧ (w.unsubscribeSurface ref).host = w.host := by
  unfold unsubscribeSurface
  split <;> exact ⟨rfl, rfl⟩

theorem queueWireToConn_table (w : World D) (connID : ConnID) (wire : Wire) (sub : SurfaceKey) :
    (w.queueWireToConn connID wire sub).1.host = w.host ∧ (w.queueWireToConn connID wire sub).1.subs = w.subs ∧
      (w.queueWireToConn connID wire sub).1.threads = w.threads ∧
      (w.queueWireToConn connID wire sub).2.all (fun j => j.opens.isNone && !j.internal) = true := by
  have severs : (if sub.sessionID ≠ "" then [Instr.severOwned sub] else []).all
      (fun j => j.opens.isNone && !j.internal) = true := by
    split <;> rfl
  unfold queueWireToConn
  cases w.conns.get? connID with
  | none => cases wire <;> exact ⟨rfl, rfl, rfl, rfl⟩
  | some =>
    dsimp only
    split
    · exact ⟨rfl, rfl, rfl, rfl⟩
    · cases wire <;> exact ⟨rfl, rfl, rfl, severs⟩

/-- What an instruction that is not an event of the lane does to the table. -/
structure Performed (w : World D) (i : Instr) (r : World D × List Instr) : Prop where
  host : r.1.host = w.host
  table : ∀ key ref, r.1.subs.get? key = some ref →
    i.opens = some (key, ref.frameID) ∨ w.subs.get? key = some ref ∧ i.settles key = false
  opens : ∀ j ∈ r.2, ∀ target, j.opens = some target → i.opens = some target
  internal : ∀ j ∈ r.2, j.internal = false

variable {i : Instr} {r : World D × List Instr}

theorem Performed.aside (host : r.1.host = w.host := by rfl) (subs : r.1.subs = w.subs := by rfl)
    (unsettling : ∀ key, i.settles key = false := by exact fun _ => rfl)
    (idle : r.2.all (fun j => j.opens.isNone && !j.internal) = true := by rfl) : w.Performed i r := by
  have each : ∀ j ∈ r.2, j.opens = none ∧ j.internal = false := by
    intro j mem
    simpa using List.all_eq_true.mp idle j mem
  refine ⟨host, fun key ref found => .inr ⟨subs ▸ found, unsettling key⟩, ?_, fun j mem => (each j mem).2⟩
  intro j mem target opened
  rw [(each j mem).1] at opened
  cases opened

theorem Performed.ends {next : World D} (host : next.host = w.host)
    (table : ∀ key ref, next.subs.get? key = some ref →
      i.opens = some (key, ref.frameID) ∨ w.subs.get? key = some ref ∧ i.settles key = false) :
    w.Performed i (next, []) := by refine ⟨host, table, ?_, ?_⟩ <;> simp

variable {key : SurfaceKey}

theorem Performed.removed {rest : List Instr} (own : ∀ key', i.settles key' = true → key' = key)
    (opens : ∀ j ∈ rest, ∀ target, j.opens = some target → i.opens = some target := by simp)
    (internal : ∀ j ∈ rest, j.internal = false := by simp) :
    w.Performed i ({ w with subs := w.subs.delete key }, rest) := by
  refine ⟨rfl, fun key' ref found => .inr ?_, opens, internal⟩
  obtain ⟨other, before⟩ := get?_of_delete found
  refine ⟨before, ?_⟩
  rw [Bool.eq_false_iff]
  exact fun settled => other (own key' settled)

theorem perform_table (plain : i.internal = false) (done : w.perform env draw attach i = some r) :
    w.Performed i r := by
  have other : ∀ {key key'} {ref}, w.subs.get? key = none → w.subs.get? key' = some ref →
      decide (key = key') = false := by
    intro key key' ref absent found
    rw [decide_eq_false_iff_not]
    rintro rfl
    cases absent.symm.trans found
  revert done
  fun_cases w.perform env draw attach i <;> intro done <;> try cases done
  all_goals try exact .aside
  case case2 => exact ⟨rfl, fun key' ref found => .inr ⟨found, rfl⟩, by simp, by simp⟩
  case case3 frameID _ _ _ =>
    obtain ⟨subs, host, named⟩ := w.subscribeSurface_table frameID attach
    refine ⟨host, fun key' ref found => .inr ⟨subs ▸ found, rfl⟩, ?_, ?_⟩
    · intro j mem target opened
      obtain ⟨ref, made, rfl⟩ := List.mem_map.mp mem
      rw [mem_toList] at made
      rw [← opened, Instr.opens, Instr.opens, named ref made]
    · intro j mem
      obtain ⟨ref, -, rfl⟩ := List.mem_map.mp mem
      rfl
  case case5 =>
    refine .ends rfl fun key' ref' found => ?_
    rcases get?_of_set found with ⟨rfl, rfl⟩ | before
    · exact .inl rfl
    · exact .inr ⟨before, rfl⟩
  case case6 absent => exact ⟨rfl, fun key' ref found => .inr ⟨found, other absent found⟩, by simp, by simp⟩
  case case7 key _ _ _ _ present same =>
    simp only [Bool.and_eq_true, decide_eq_true_eq] at same
    refine .ends rfl fun key' ref found => ?_
    by_cases own : key = key'
    · subst own
      rw [present, some.injEq] at found
      subst found
      exact .inl (by rw [Instr.opens, same.1])
    · exact .inr ⟨found, by simp [own]⟩
  case case8 | case10 => exact .removed fun key' settled => (of_decide_eq_true settled).symm
  case case9 absent => exact .ends rfl fun key' ref found => .inr ⟨found, other absent found⟩
  case case12 => exact .removed (by simp)
  case case15 ref =>
    obtain ⟨subs, host⟩ := w.unsubscribeSurface_table ref
    exact .aside host subs
  case case16 =>
    obtain ⟨next, sent, rfl⟩ := map_eq_some_iff.mp done
    obtain ⟨-, rfl⟩ := of_guard sent
    exact .aside
  case case19 => cases plain
  case case21 connID wire sub =>
    obtain ⟨host, subs, -, idle⟩ := w.queueWireToConn_table connID wire sub
    exact .aside host subs (fun _ => rfl) idle
  case case22 =>
    obtain ⟨next, pushed, rfl⟩ := map_eq_some_iff.mp done
    unfold pushUnsubscribed at pushed
    split at pushed
    · cases pushed
      exact .aside
    obtain ⟨-, rfl⟩ := of_guard pushed
    exact .aside
  case case31 =>
    split
    · exact .removed (by simp)
    · exact .aside
  case case41 =>
    refine .aside rfl rfl (fun _ => rfl) ?_
    split <;> rfl

theorem subscribeSurface_threads (w : World D) (frameID : FrameID) (attach : Attach) :
    (w.subscribeSurface frameID attach).1.threads = w.threads := by
  fun_cases w.subscribeSurface frameID attach <;> rfl

theorem dispatch_threads {ev : Host.Event D} (done : w.dispatch env draw ev = some r) :
    r.1.threads = w.threads := by
  unfold dispatch at done
  split at done
  · cases done
  obtain ⟨-, rfl⟩ := of_guard done
  rfl

theorem perform_threads (done : w.perform env draw attach i = some r) : r.1.threads = w.threads := by
  revert done
  fun_cases w.perform env draw attach i <;> intro done <;> try cases done
  all_goals try rfl
  case case3 frameID _ _ _ => exact w.subscribeSurface_threads frameID attach
  case case15 ref =>
    unfold unsubscribeSurface
    split <;> rfl
  case case16 =>
    obtain ⟨next, sent, rfl⟩ := map_eq_some_iff.mp done
    obtain ⟨-, rfl⟩ := of_guard sent
    rfl
  case case19 => exact dispatch_threads done
  case case21 connID wire sub => exact (w.queueWireToConn_table connID wire sub).2.2.1
  case case22 =>
    obtain ⟨next, pushed, rfl⟩ := map_eq_some_iff.mp done
    unfold pushUnsubscribed at pushed
    split at pushed
    · cases pushed
      rfl
    obtain ⟨-, rfl⟩ := of_guard pushed
    rfl
  case case31 => split <;> rfl

theorem receive_threads {a : Label D} (done : w.receive env draw a = some r) : r.1.threads = w.threads := by
  unfold receive at done
  split at done
  · split at done <;> cases done
    rfl
  · exact dispatch_threads done
  · have opened := dispatch_threads done
    exact opened
  · obtain ⟨next, dispatched, rfl⟩ := map_eq_some_iff.mp done
    have closed := dispatch_threads dispatched
    exact closed
  · cases done
    rfl
  · cases done

theorem todo_setTodo (w : World D) (t t' : Thread) (instrs : List Instr) :
    (w.setTodo t instrs).todo t' = if t' = t then instrs else w.todo t' := by
  rw [setTodo, todo, get?_set]
  split <;> rfl

theorem apply_exec (done : w.apply env draw (.exec t attach) = some w') :
    ∃ i rest r, w.todo t = i :: rest ∧ w.perform env draw attach i = some r ∧ w' = r.1.setTodo t (r.2 ++ rest) := by
  simp only [apply] at done
  split at done
  · cases done
  rename_i i rest todo
  obtain ⟨r, performed, rfl⟩ := map_eq_some_iff.mp done
  exact ⟨i, rest, r, todo, performed, rfl⟩

variable {n : Nat}

theorem apply_effect {target : Option (FrameID × Nat × Nat)}
    (done : w.apply env draw (.effect n key target) = some w') :
    w' = w.setTodo (.effect n) [target.elim (.unsubscribeOwned key) fun t => .rebindOwned key t.1 t.2.1 t.2.2] := by
  simp only [apply, ite_none_right_eq_some, some.injEq] at done
  exact done.2.symm

variable {a : Label D}

theorem apply_receive (received : w.receive env draw a = some r) (done : w.apply env draw a = some w') :
    w.todo .loop = [] ∧ w' = r.1.setTodo .loop r.2 := by
  have idle : ∀ {done}, (if (w.todo .loop).isEmpty = true then
      (w.receive env draw a).map fun r => r.1.setTodo .loop r.2 else none) = done →
      done = some w' → w.todo .loop = [] ∧ w' = r.1.setTodo .loop r.2 := by
    rintro _ rfl taken
    rw [received] at taken
    simp only [map_some, ite_none_right_eq_some, some.injEq, List.isEmpty_iff] at taken
    exact ⟨taken.1, taken.2.symm⟩
  cases a <;> first | exact idle rfl done | cases received

def forwards : Thread → Bool
  | .fanOut _ | .relayForward _ => true
  | _ => false

/-- A step that leaves the table and the reducer's state alone, and gives at most the goroutine of a
subscription something to do. -/
def Outside (w w' : World D) : Prop :=
  w'.host = w.host ∧ w'.subs = w.subs ∧
    (w'.threads = w.threads ∨ ∃ t i, forwards t = true ∧ i.opens = none ∧ i.internal = false ∧
      w'.threads = w.threads.set t [i])

/-- What a step does: an instruction, the start of an attempt, something the idle loop takes up, or
nothing that concerns the table. -/
theorem apply_cases (done : w.apply env draw a = some w') :
    (∃ t attach i rest r, a = .exec t attach ∧ w.todo t = i :: rest ∧
      w.perform env draw attach i = some r ∧ w' = r.1.setTodo t (r.2 ++ rest)) ∨
    (∃ n key target, a = .effect n key target) ∨
    (∃ r, w.receive env draw a = some r ∧ w.todo .loop = [] ∧ w' = r.1.setTodo .loop r.2) ∨ w.Outside w' := by
  cases a with
  | exec t attach =>
    obtain ⟨i, rest, r, todo, performed, rfl⟩ := apply_exec done
    exact .inl ⟨t, attach, i, rest, r, rfl, todo, performed, rfl⟩
  | effect n key target => exact .inr (.inl ⟨n, key, target, rfl⟩)
  | fanReceive ref =>
    refine .inr (.inr (.inr ?_))
    revert done
    show w.fanReceive ref = _ → _
    fun_cases w.fanReceive ref <;> rintro ⟨⟩
    · exact ⟨rfl, rfl, .inr ⟨.fanOut ref, _, rfl, rfl, rfl, rfl⟩⟩
    · exact ⟨rfl, rfl, .inl rfl⟩
    · exact ⟨rfl, rfl, .inr ⟨.fanOut ref, _, rfl, rfl, rfl, rfl⟩⟩
  | forwardReceive ref =>
    refine .inr (.inr (.inr ?_))
    revert done
    show w.forwardReceive ref = _ → _
    fun_cases w.forwardReceive ref <;> rintro ⟨⟩
    exact ⟨rfl, rfl, .inr ⟨.relayForward ref, _, rfl, rfl, rfl, rfl⟩⟩
  | fanCancel | forwardCancel =>
    refine .inr (.inr (.inr ?_))
    simp only [apply] at done
    split at done
    · cases done
    obtain ⟨-, rfl⟩ := of_guard done
    exact ⟨rfl, rfl, .inl rfl⟩
  | start =>
    simp only [apply, ite_none_left_eq_some, some.injEq] at done
    obtain ⟨-, rfl⟩ := done
    exact .inr (.inr (.inr ⟨rfl, rfl, .inl rfl⟩))
  | fanout | exit =>
    obtain ⟨-, rfl⟩ := of_guard done
    exact .inr (.inr (.inr ⟨rfl, rfl, .inl rfl⟩))
  | write =>
    simp only [apply] at done
    split at done <;> cases done
    exact .inr (.inr (.inr ⟨rfl, rfl, .inl rfl⟩))
  | _ =>
    simp only [apply, ite_none_right_eq_some, List.isEmpty_iff] at done
    obtain ⟨r, received, rfl⟩ := map_eq_some_iff.mp done.2
    exact .inr (.inr (.inl ⟨r, received, done.1, rfl⟩))

theorem todo_of_threads (threads : w'.threads = w.threads) : w'.todo t = w.todo t := by rw [todo, todo, threads]

theorem apply_effect_todo (done : w.apply env draw a = some w') (exec : ∀ attach, a ≠ .exec (.effect n) attach)
    (effect : ∀ m key target, a ≠ .effect m key target) : w'.todo (.effect n) = w.todo (.effect n) := by
  rcases apply_cases done with ⟨t, attach, i, rest, r, rfl, -, performed, rfl⟩ |
      ⟨m, key, target, rfl⟩ | ⟨r, received, -, rfl⟩ |
      ⟨-, -, threads | ⟨t, i, serving, -, -, threads⟩⟩
  · have other : Thread.effect n ≠ t := by
      rintro rfl
      exact exec attach rfl
    rw [todo_setTodo, if_neg other, todo_of_threads (perform_threads performed)]
  · exact absurd rfl (effect m key target)
  · rw [todo_setTodo, if_neg (by simp), todo_of_threads (receive_threads received)]
  · exact todo_of_threads threads
  have other : Thread.effect n ≠ t := by
    rintro rfl
    cases serving
  rw [todo, threads, get?_set_of_ne _ other, todo]

theorem apply_unsubscribe {mid : World D} (took : w.apply env draw (.lifecycle [key]) = some mid)
    (done : mid.apply env draw (.exec .loop attach) = some w') :
    w'.host = w.host ∧ w'.subs.get? key = none ∧ (∀ other, other ≠ key → w'.subs.get? other = w.subs.get? other) ∧
      (∀ i ∈ w'.todo .loop, i.closes = true) ∧ ∀ t, t ≠ .loop → w'.todo t = w.todo t := by
  obtain ⟨-, rfl⟩ := apply_receive (r := (w, [.unsubscribeOwned key])) rfl took
  obtain ⟨i, rest, r, todo, performed, rfl⟩ := apply_exec done
  rw [todo_setTodo, if_pos rfl] at todo
  cases todo
  have others : ∀ t, t ≠ .loop → ∀ next : World D, next.threads =
      (w.setTodo .loop [Instr.unsubscribeOwned key]).threads → ∀ instrs,
      (next.setTodo .loop instrs).todo t = w.todo t := by
    intro t other next threads instrs
    have mid := todo_setTodo w .loop t [.unsubscribeOwned key]
    rw [if_neg other] at mid
    rw [todo_setTodo, if_neg other, ← mid, World.todo, threads, World.todo]
  simp only [perform] at performed
  cases found : (w.setTodo .loop [Instr.unsubscribeOwned key]).subs.get? key with
  | none =>
    rw [found] at performed
    cases performed
    refine ⟨rfl, found, fun _ _ => rfl, ?_, fun t other => others t other _ rfl _⟩
    simp [todo_setTodo]
  | some =>
    rw [found] at performed
    cases performed
    refine ⟨rfl, get?_delete_self _ _, fun other ne => get?_delete_of_ne _ ne, ?_,
      fun t other => others t other _ rfl _⟩
    simp [todo_setTodo, Instr.closes]

end World

end AgentGrid.Terminal
