import AgentGrid.Host.Surfaces
import AgentGrid.Terminal.Lifecycle

/-!
# Subscriptions follow the head of their session

After every event the loop rebinds the subscriptions of the reducer's table to the heads of their
sessions.  Those that only the lifecycle holds are in no such table and stay on the frame they were
opened on.  Where no event moves the head of a session that the lifecycle has or is about to open a
subscription of, every subscription of the relay is of the head.
-/

namespace AgentGrid.Terminal

open AgentGrid.Lib AgentGrid.Host List Option GoMap

variable {D : Type} {env : Env D} {draw : Draw}

def SurfaceKey.relayKey (key : SurfaceKey) : RelayKey :=
  ⟨key.connID, key.sessionID, key.subscriberID⟩

theorem sessionHeadFrameTarget_eq (s : State D) (sid : SessionID) :
    sessionHeadFrameTarget s sid = (headFrameOf s sid).getD "" := by
  unfold sessionHeadFrameTarget headFrameOf
  cases s.sessions.get? sid <;> rfl

theorem headFrameOf_target {s : State D} {sid : SessionID} (there : sessionHeadFrameTarget s sid ≠ "") :
    headFrameOf s sid = some (sessionHeadFrameTarget s sid) := by
  rw [sessionHeadFrameTarget_eq] at there ⊢
  cases head : headFrameOf s sid with
  | none =>
    rw [head] at there
    exact absurd rfl there
  | some => rfl

namespace World

variable {w w' : World D}

/-! ## What an event leads to -/

theorem execute_opens (s : State D) (e : Effect D) : ∀ i ∈ execute draw s e,
    i.internal = false ∧ ∀ key frameID, i.opens = some (key, frameID) →
      headFrameOf s key.sessionID = some frameID := by
  unfold execute
  split
  · split
    · simp
    · rename_i there
      simp only [mem_singleton, forall_eq]
      refine ⟨rfl, fun key frameID opened => ?_⟩
      obtain ⟨rfl, rfl⟩ := opened
      exact headFrameOf_target there
  · simp
  · simp
  · simp
  · simp
  · intro i mem
    simp only [broadcastSurfaceOutput, mem_flatMap, mem_filterMap, ite_none_right_eq_some, some.injEq] at mem
    obtain ⟨_, _, _, _, _, rfl⟩ := mem
    simp
  · intro i mem
    simp only [broadcastPromptEvent] at mem
    split at mem
    · cases mem
    simp only [mem_filterMap, map_eq_some_iff] at mem
    obtain ⟨_, _, _, _, rfl⟩ := mem
    simp
  · simp

theorem reconcileSurfaceRelay_opens (s : State D) : ∀ i ∈ reconcileSurfaceRelay draw s,
    i.internal = false ∧ ∀ key frameID, i.opens = some (key, frameID) →
      headFrameOf s key.sessionID = some frameID := by
  intro i mem
  simp only [reconcileSurfaceRelay, mem_flatMap, List.mem_map] at mem
  obtain ⟨_, _, entry, _, rfl⟩ := mem
  split
  · simp
  rename_i there
  refine ⟨rfl, fun key frameID opened => ?_⟩
  obtain ⟨rfl, rfl⟩ := opened
  exact headFrameOf_target there

variable {s : State D} {key : SurfaceKey}

theorem reconcileSurfaceRelay_settles (subscribed : s.subscribed key.relayKey = true) :
    ∃ i ∈ reconcileSurfaceRelay draw s, i.settles key = true := by
  unfold State.subscribed State.surfacesOf at subscribed
  cases conn : s.surfaceSubs.get? key.connID with
  | none =>
    simp only [SurfaceKey.relayKey, conn, getD_none] at subscribed
    cases subscribed
  | some subs =>
    simp only [SurfaceKey.relayKey, conn, getD_some] at subscribed
    obtain ⟨geometry, found⟩ := isSome_iff_exists.mp subscribed
    refine ⟨_, mem_flatMap.mpr ⟨(key.connID, subs), GoMap.mem_range.mpr conn,
      List.mem_map.mpr ⟨(⟨key.sessionID, key.subscriberID⟩, geometry), GoMap.mem_range.mpr found, rfl⟩⟩, ?_⟩
    split <;> exact decide_eq_true rfl

theorem execute_stops {effs : List (Effect D)} (stopped : false ∈ relaySignals key.relayKey effs) :
    ∃ i ∈ effs.flatMap (execute draw s), i.settles key = true := by
  obtain ⟨e, mem, signal⟩ := mem_filterMap.mp stopped
  cases e with
  | surfaceSubscribeStop connID sid sub =>
    simp only [Effect.signal, ite_none_right_eq_some] at signal
    refine ⟨.unsubscribeOwned ⟨connID, sid, sub⟩, mem_flatMap.mpr ⟨_, mem, ?_⟩, ?_⟩
    · exact mem_singleton_self _
    · obtain ⟨rfl, rfl, rfl⟩ := RelayKey.mk.inj signal.1
      exact decide_eq_true rfl
  | surfaceSubscribeStart =>
    simp only [Effect.signal, ite_none_right_eq_some, some.injEq] at signal
    cases signal.2
  | _ => cases signal

/-- What the loop has to do for an event: it opens subscriptions on heads, and it settles every
subscription that is or was in the reducer's table. -/
structure Dispatched (w w' : World D) (instrs : List Instr) : Prop where
  subs : w'.subs = w.subs
  threads : w'.threads = w.threads
  internal : ∀ i ∈ instrs, i.internal = false
  opens : ∀ i ∈ instrs, ∀ key frameID, i.opens = some (key, frameID) →
    headFrameOf w'.host key.sessionID = some frameID
  settles : ∀ key : SurfaceKey, (w.host.subscribed key.relayKey = true) → ∃ i ∈ instrs, i.settles key = true

variable {r : World D × List Instr}

theorem dispatch_spec (silent : ∀ e, env.Emits e → e.relays = false) {ev : Host.Event D}
    (done : w.dispatch env draw ev = some r) (fresh : draw.Fresh w.host) : w.Dispatched r.1 r.2 := by
  unfold dispatch at done
  split at done
  · cases done
  rename_i reduced reduces
  obtain ⟨-, rfl⟩ := of_guard done
  have step : Host.Step env w.host (ev, reduced.2) reduced.1 := ⟨draw, fresh, reduces⟩
  obtain ⟨d, surfacing⟩ := step.surfacing silent
  have each : ∀ i ∈ reduced.2.flatMap (execute draw reduced.1) ++
      reconcileSurfaceRelay draw reduced.1, i.internal = false ∧
      ∀ key frameID, i.opens = some (key, frameID) → headFrameOf reduced.1 key.sessionID = some frameID := by
    intro i mem
    rcases mem_append.mp mem with effect | follow
    · obtain ⟨e, -, here⟩ := mem_flatMap.mp effect
      exact execute_opens reduced.1 e i here
    · exact reconcileSurfaceRelay_opens reduced.1 i follow
  refine ⟨rfl, rfl, fun i mem => (each i mem).1, fun i mem => (each i mem).2, ?_⟩
  intro key subscribed
  cases after : reduced.1.subscribed key.relayKey with
  | true =>
    obtain ⟨i, mem, settles⟩ := reconcileSurfaceRelay_settles after
    exact ⟨i, mem_append_right _ mem, settles⟩
  | false =>
    have stopped := (surfacing.flips key.relayKey).off subscribed after
    obtain ⟨i, mem, settles⟩ := execute_stops stopped
    exact ⟨i, mem_append_left _ mem, settles⟩

/-! ## The invariant -/

/-- Every subscription is of the head of its session or is still to be settled by the loop, and
whatever is to be opened is to be opened on a head. -/
structure Follows (w : World D) : Prop where
  table : ∀ key ref, w.subs.get? key = some ref → headFrameOf w.host key.sessionID = some ref.frameID ∨
      ∃ i ∈ w.todo .loop, i.settles key = true
  opening : ∀ t, ∀ i ∈ w.todo t, ∀ key frameID, i.opens = some (key, frameID) →
    headFrameOf w.host key.sessionID = some frameID
  lone : ∀ t, ∀ i ∈ w.todo t, i.internal = true → t = .loop ∧ w.todo .loop = [i]
  forwarding : ∀ t, forwards t = true → ∀ i ∈ w.todo t, i.opens = none

theorem Follows.new (host : State D) : (World.new host).Follows := by
  have idle : ∀ t, (World.new host).todo t = [] := fun _ => rfl
  refine ⟨nofun, fun t i mem => ?_, fun t i mem => ?_, fun t _ i mem => ?_⟩ <;>
    · rw [idle] at mem
      cases mem

/-- The step keeps the heads of the sessions with a subscription that is not in the reducer's table,
or with one that an effect is to open. -/
structure Steady (w w' : World D) : Prop where
  table : ∀ key ref, w.subs.get? key = some ref → w.host.subscribed key.relayKey = false →
    headFrameOf w'.host key.sessionID = headFrameOf w.host key.sessionID
  effects : ∀ n, ∀ i ∈ w.todo (.effect n), ∀ key frameID, i.opens = some (key, frameID) →
    headFrameOf w'.host key.sessionID = headFrameOf w.host key.sessionID

variable {instrs : List Instr} {t t' : Thread} {i : Instr}

theorem todo_setTodo_self : (w.setTodo t instrs).todo t = instrs := by rw [todo_setTodo, if_pos rfl]

theorem todo_setTodo_of_ne (threads : w'.threads = w.threads) (other : t' ≠ t) :
    (w'.setTodo t instrs).todo t' = w.todo t' := by rw [todo_setTodo, if_neg other, todo_of_threads threads]

/-- One thread gets other instructions. -/
theorem Follows.retask (follows : w.Follows) (others : ∀ t', t' ≠ t → w'.todo t' = w.todo t')
    (heads : ∀ t', t' ≠ t → ∀ i ∈ w.todo t', ∀ key frameID, i.opens = some (key, frameID) →
      headFrameOf w'.host key.sessionID = some frameID)
    (table : ∀ key ref, w'.subs.get? key = some ref → headFrameOf w'.host key.sessionID = some ref.frameID ∨
      ∃ i ∈ w'.todo .loop, i.settles key = true)
    (opens : ∀ i ∈ w'.todo t, ∀ key frameID, i.opens = some (key, frameID) → forwards t = false ∧
      headFrameOf w'.host key.sessionID = some frameID)
    (internal : ∀ i ∈ w'.todo t, i.internal = true → t = .loop ∧ w'.todo t = [i]) : w'.Follows := by
  refine ⟨table, ?_, ?_, ?_⟩
  · intro t' i mem key frameID opened
    by_cases here : t' = t
    · subst here
      exact (opens i mem key frameID opened).2
    · exact heads t' here i (others t' here ▸ mem) key frameID opened
  · intro t' i mem lane
    by_cases here : t' = t
    · subst here
      obtain ⟨rfl, alone⟩ := internal i mem lane
      exact ⟨rfl, alone⟩
    · obtain ⟨rfl, alone⟩ := follows.lone t' i (others t' here ▸ mem) lane
      exact ⟨rfl, (others .loop here).trans alone⟩
  · intro t' serving i mem
    by_cases here : t' = t
    · subst here
      cases opened : i.opens with
      | none => rfl
      | some target =>
        rw [(opens i mem target.1 target.2 opened).1] at serving
        cases serving
    · exact follows.forwarding t' serving i (others t' here ▸ mem)

theorem Follows.dispatched (follows : w.Follows) {mid : World D}
    (dispatched : w.Dispatched mid instrs) (unsettled : ∀ key, ∀ i ∈ w.todo .loop,
      i.settles key = false) (steady : w.Steady (mid.setTodo .loop instrs)) : (mid.setTodo .loop instrs).Follows := by
  have loop : (mid.setTodo .loop instrs).todo .loop = instrs := todo_setTodo_self
  refine follows.retask (fun _ => todo_setTodo_of_ne dispatched.threads) ?_ ?_ ?_ ?_
  · intro t other i mem key frameID opened
    cases t with
    | loop => exact absurd rfl other
    | effect n => exact (steady.effects n i mem key frameID opened).trans (follows.opening _ i mem key frameID opened)
    | fanOut | relayForward =>
      rw [follows.forwarding _ rfl i mem] at opened
      cases opened
  · intro key ref found
    have before := dispatched.subs ▸ found
    cases subscribed : w.host.subscribed key.relayKey with
    | true =>
      rw [loop]
      exact .inr (dispatched.settles key subscribed)
    | false =>
      rcases follows.table key ref before with head | ⟨i, mem, settles⟩
      · exact .inl ((steady.table key ref before subscribed).trans head)
      · rw [unsettled key i mem] at settles
        cases settles
  · exact fun i mem key frameID opened => ⟨rfl, dispatched.opens i (loop ▸ mem) key frameID opened⟩
  · intro i mem internal
    rw [dispatched.internal i (loop ▸ mem)] at internal
    cases internal

variable {rest : List Instr}

theorem Performed.opened (performed : w.Performed i r) (todo : w.todo t = i :: rest) {j : Instr}
    (mem : j ∈ r.2 ++ rest) {target : SurfaceKey × FrameID} (opened : j.opens = some target) :
    ∃ j' ∈ w.todo t, j'.opens = some target := by
  rw [todo]
  rcases mem_append.mp mem with next | there
  · exact ⟨i, mem_cons_self, performed.opens j next _ opened⟩
  · exact ⟨j, mem_cons_of_mem _ there, opened⟩

theorem Follows.performed (follows : w.Follows) (todo : w.todo t = i :: rest)
    (threads : r.1.threads = w.threads) (performed : w.Performed i r) : (r.1.setTodo t (r.2 ++ rest)).Follows := by
  have own : (r.1.setTodo t (r.2 ++ rest)).todo t = r.2 ++ rest := todo_setTodo_self
  have others : ∀ t', t' ≠ t → (r.1.setTodo t (r.2 ++ rest)).todo t' = w.todo t' :=
    fun _ => todo_setTodo_of_ne threads
  have host : (r.1.setTodo t (r.2 ++ rest)).host = w.host := performed.host
  refine follows.retask others ?_ ?_ ?_ ?_
  all_goals try simp only [host]
  · exact fun t' _ => follows.opening t'
  · intro key ref found
    rcases performed.table key ref found with opened | ⟨before, unsettling⟩
    · exact .inl (follows.opening t i (todo ▸ mem_cons_self) key _ opened)
    rcases follows.table key ref before with head | ⟨j, mem, settles⟩
    · exact .inl head
    refine .inr ⟨j, ?_, settles⟩
    by_cases here : t = .loop
    · subst here
      rw [todo] at mem
      rcases mem_cons.mp mem with rfl | there
      · cases unsettling.symm.trans settles
      · exact own ▸ mem_append_right _ there
    · rwa [others .loop (Ne.symm here)]
  · intro j mem key frameID opened
    obtain ⟨j', there, opened⟩ := performed.opened todo (own ▸ mem) opened
    refine ⟨Bool.eq_false_iff.mpr fun serving => ?_, follows.opening t j' there key frameID opened⟩
    rw [follows.forwarding t serving j' there] at opened
    cases opened
  · intro j mem internal
    rw [own] at mem
    rcases mem_append.mp mem with next | there
    · rw [performed.internal j next] at internal
      cases internal
    obtain ⟨rfl, alone⟩ := follows.lone t j (todo ▸ mem_cons_of_mem _ there) internal
    rw [todo] at alone
    obtain ⟨-, rfl⟩ := List.cons.inj alone
    cases there

theorem Follows.assign (follows : w.Follows) (host : w'.host = w.host) (subs : w'.subs = w.subs)
    (others : ∀ t', t' ≠ t → w'.todo t' = w.todo t') (idle : t = .loop → w.todo .loop = [])
    (opens : ∀ i ∈ w'.todo t, ∀ key frameID, i.opens = some (key, frameID) → forwards t = false ∧
      headFrameOf w.host key.sessionID = some frameID)
    (internal : ∀ i ∈ w'.todo t, i.internal = true → t = .loop ∧ w'.todo t = [i]) : w'.Follows := by
  refine follows.retask others ?_ ?_ ?_ internal <;> simp only [host]
  · exact fun t' _ => follows.opening t'
  · intro key ref found
    rcases follows.table key ref (subs ▸ found) with head | ⟨i, mem, settles⟩
    · exact .inl head
    by_cases here : t = .loop
    · rw [idle here] at mem
      cases mem
    · exact .inr ⟨i, (others .loop (Ne.symm here)).symm ▸ mem, settles⟩
  · exact opens

/-- The instructions neither open a subscription nor are of the loop itself. -/
theorem Follows.aside (follows : w.Follows) (host : w'.host = w.host) (subs : w'.subs = w.subs)
    (others : ∀ t', t' ≠ t → w'.todo t' = w.todo t') (idle : t = .loop → w.todo .loop = [])
    (plain : ∀ i ∈ w'.todo t, i.opens = none ∧ i.internal = false) : w'.Follows := by
  refine follows.assign host subs others idle ?_ ?_
  · intro i mem key frameID opened
    rw [(plain i mem).1] at opened
    cases opened
  · intro i mem lane
    rw [(plain i mem).2] at lane
    cases lane

theorem Follows.assigned (follows : w.Follows) {n : Nat} (opens : ∀ key frameID, i.opens = some (key, frameID) →
      headFrameOf w.host key.sessionID = some frameID) (internal : i.internal = false) :
    (w.setTodo (.effect n) [i]).Follows := by
  refine follows.assign rfl rfl (fun _ => todo_setTodo_of_ne rfl) nofun ?_ ?_ <;>
    simp only [todo_setTodo_self, mem_singleton, forall_eq]
  · exact fun key frameID opened => ⟨rfl, opens key frameID opened⟩
  · intro lane
    cases internal.symm.trans lane

theorem Follows.internal (silent : ∀ e, env.Emits e → e.relays = false) (follows : w.Follows)
    (fresh : draw.Fresh w.host) {attach : Attach} {ev : InternalEvent} (alone : w.todo .loop = [.dispatchInternal ev])
    (performed : w.perform env draw attach (.dispatchInternal ev) = some r)
    (steady : w.Steady (r.1.setTodo .loop r.2)) : (r.1.setTodo .loop r.2).Follows := by
  have aside : ∀ next, w.Performed (.dispatchInternal ev) next →
      next.1.threads = w.threads → (next.1.setTodo .loop next.2).Follows := by
    intro next done threads
    have followed := follows.performed alone threads done
    rwa [append_nil] at followed
  cases ev with
  | broadcastSurface =>
    simp only [perform] at performed
    split at performed
    all_goals
      cases performed
      exact aside _ (.aside rfl rfl (fun _ => rfl) rfl) rfl
  | surfaceClosed key =>
    simp only [perform] at performed
    split at performed
    · refine follows.dispatched (dispatch_spec silent performed fresh) ?_ steady
      intro key i mem
      rw [alone, mem_singleton] at mem
      rw [mem]
      rfl
    · cases performed
      exact aside _ (.aside rfl rfl (fun _ => rfl) rfl) rfl

variable {a : Label D}

theorem Follows.received (silent : ∀ e, env.Emits e → e.relays = false) (follows : w.Follows)
    (fresh : draw.Fresh w.host) (idle : w.todo .loop = [])
    (received : w.receive env draw a = some r) (steady : w.Steady (r.1.setTodo .loop r.2)) :
    (r.1.setTodo .loop r.2).Follows := by
  have unsettled : ∀ key, ∀ i ∈ w.todo .loop, i.settles key = false := by
    rw [idle]
    exact fun _ => nofun
  have released : ∀ keys : List SurfaceKey, ∀ i ∈ keys.map Instr.unsubscribeOwned,
      i.opens = none ∧ i.internal = false := by
    intro keys i mem
    obtain ⟨_, _, rfl⟩ := List.mem_map.mp mem
    exact ⟨rfl, rfl⟩
  unfold receive at received
  split at received
  · split at received <;> cases received
    refine follows.assign rfl rfl (fun _ => todo_setTodo_of_ne rfl) (fun _ => idle) ?_ ?_ <;>
      simp [todo_setTodo_self]
  · exact follows.dispatched (dispatch_spec silent received fresh) unsettled steady
  · have opened := dispatch_spec silent received fresh
    exact follows.dispatched ⟨opened.subs, opened.threads, opened.internal, opened.opens,
      opened.settles⟩ unsettled steady
  · obtain ⟨next, dispatches, rfl⟩ := map_eq_some_iff.mp received
    have closed := dispatch_spec silent dispatches fresh
    refine follows.dispatched ⟨closed.subs, closed.threads, ?_, ?_, ?_⟩ unsettled steady
    · intro i mem
      rcases mem_append.mp mem with release | rest
      · exact (released _ i release).2
      rcases mem_cons.mp rest with rfl | later
      · rfl
      · exact closed.internal i later
    · intro i mem key frameID opened
      rcases mem_append.mp mem with release | rest
      · rw [(released _ i release).1] at opened
        cases opened
      rcases mem_cons.mp rest with rfl | later
      · cases opened
      · exact closed.opens i later key frameID opened
    · intro key subscribed
      obtain ⟨i, mem, settles⟩ := closed.settles key subscribed
      exact ⟨i, mem_append_right _ (mem_cons_of_mem _ mem), settles⟩
  · cases received
    exact follows.aside rfl rfl (fun _ => todo_setTodo_of_ne rfl) (fun _ => idle) (todo_setTodo_self ▸ released _)
  · cases received

theorem Follows.apply (silent : ∀ e, env.Emits e → e.relays = false) (follows : w.Follows)
    (fresh : draw.Fresh w.host) (done : w.apply env draw a = some w') (steady : w.Steady w')
    (attempts : ∀ n key target, a = .effect n key (some target) →
      headFrameOf w.host key.sessionID = some target.1) : w'.Follows := by
  rcases apply_cases done with ⟨t, attach, i, rest, r, rfl, todo, performed, rfl⟩ |
      ⟨n, key, target, rfl⟩ | ⟨r, received, idle, rfl⟩ | ⟨host, subs, threads⟩
  · have first := todo ▸ mem_cons_self
    cases lane : i.internal with
    | false => exact follows.performed todo (perform_threads performed) (perform_table lane performed)
    | true =>
      obtain ⟨rfl, alone⟩ := follows.lone t i first lane
      rw [todo] at alone
      obtain ⟨-, rfl⟩ := List.cons.inj alone
      rw [append_nil] at steady ⊢
      cases i with
      | dispatchInternal => exact follows.internal silent fresh todo performed steady
      | _ => cases lane
  · obtain rfl := apply_effect done
    refine follows.assigned ?_ ?_
    · intro key' frameID opened
      cases target with
      | none => cases opened
      | some target =>
        obtain ⟨rfl, rfl⟩ := opened
        exact attempts n key target rfl
    · cases target <;> rfl
  · exact follows.received silent fresh idle received steady
  rcases threads with same | ⟨t, i, serving, opens, internal, threads⟩
  · have todo : ∀ t, w'.todo t = w.todo t := fun t => todo_of_threads same
    refine follows.assign (t := .effect 0) host subs (fun t _ => todo t) nofun ?_ ?_ <;> simp only [todo]
    · exact fun i mem key frameID opened => ⟨rfl, follows.opening _ i mem key frameID opened⟩
    · intro i mem lane
      cases (follows.lone _ i mem lane).1
  have own : w'.todo t = [i] := by rw [todo, threads, get?_set_self, getD_some]
  have others : ∀ t', t' ≠ t → w'.todo t' = w.todo t' := by
    intro t' other
    rw [todo, threads, get?_set_of_ne _ other, todo]
  refine follows.aside host subs others ?_ ?_
  · rintro rfl
    cases serving
  · rw [own]
    exact forall_mem_singleton.mpr ⟨opens, internal⟩

theorem Follows.released (follows : w.Follows) (host : w'.host = w.host)
    (subs : ∀ key ref, w'.subs.get? key = some ref → w.subs.get? key = some ref)
    (idle : w.todo .loop = []) (closes : ∀ i ∈ w'.todo .loop, i.closes = true)
    (others : ∀ t, t ≠ .loop → w'.todo t = w.todo t) : w'.Follows := by
  have aside : ∀ i ∈ w'.todo .loop, i.opens = none ∧ i.internal = false := by
    intro i mem
    have closes := closes i mem
    cases i <;> first | exact ⟨rfl, rfl⟩ | cases closes
  have kept : ({ w with subs := w'.subs } : World D).Follows := by
    refine ⟨fun key ref found => .inl ?_, follows.opening, follows.lone, follows.forwarding⟩
    rcases follows.table key ref (subs key ref found) with head | ⟨i, mem, -⟩
    · exact head
    · rw [idle] at mem
      cases mem
  exact kept.aside host rfl others (fun _ => idle) aside

end World

/-! ## The lifecycle -/

namespace Lifecycle

variable {s s' : Lifecycle D} {label : LifecycleLabel D}

/-- The sessions with a subscription that only the lifecycle holds, or with an effect in flight that
is to open one. -/
def lifecycleSessions (s : Lifecycle D) : List SessionID :=
  s.effects.entries.filterMap (fun e => if e.2.cmd.desired then some e.2.cmd.sessionID else none) ++
  s.world.subs.entries.filterMap fun e => if s.world.host.subscribed e.1.relayKey then none else some e.1.sessionID

/-- The step keeps the heads of the sessions that the lifecycle holds. -/
def Steady (s s' : Lifecycle D) : Prop :=
  ∀ sid ∈ s.lifecycleSessions, headFrameOf s'.world.host sid = headFrameOf s.world.host sid

/-- What the effects are to open is of the heads of their sessions. -/
structure Following (s : Lifecycle D) : Prop where
  world : s.world.Follows
  effects : ∀ n e, s.effects.get? n = some e → e.cmd.desired = true →
    headFrameOf s.world.host e.cmd.sessionID = some e.frameID
  owned : ∀ n, ∀ i ∈ s.world.todo (.effect n), ∀ key frameID, i.opens = some (key, frameID) →
    ∃ e, s.effects.get? n = some e ∧ e.cmd.desired = true ∧ key.sessionID = e.cmd.sessionID
  fresh : ∀ n e, s.effects.get? n = some e → n < s.nextEffect

theorem Following.new (host : State D) : (Lifecycle.new host).Following := by
  refine ⟨.new host, nofun, fun n i mem => ?_, nofun⟩
  have idle : (Lifecycle.new host).world.todo (.effect n) = [] := rfl
  rw [idle] at mem
  cases mem

theorem Following.kept (following : s.Following) (world : s'.world.Follows)
    (heads : ∀ n e, s.effects.get? n = some e → e.cmd.desired = true →
      headFrameOf s'.world.host e.cmd.sessionID = headFrameOf s.world.host e.cmd.sessionID)
    (todo : ∀ n, s'.world.todo (.effect n) = s.world.todo (.effect n))
    (effects : s'.effects = s.effects) (next : s'.nextEffect = s.nextEffect) : s'.Following := by
  refine ⟨world, ?_, ?_, ?_⟩
  · intro n e found desired
    rw [effects] at found
    exact (heads n e found desired).trans (following.effects n e found desired)
  · simp only [todo, effects]
    exact following.owned
  · rw [effects, next]
    exact following.fresh

theorem Following.same (following : s.Following) (world : s'.world = s.world)
    (effects : s'.effects = s.effects) (next : s'.nextEffect = s.nextEffect) : s'.Following := by
  refine following.kept (world ▸ following.world) ?_ ?_ effects next <;> simp [world]

theorem Steady.world (steady : s.Steady s') (following : s.Following) : s.world.Steady s'.world := by
  constructor
  · intro key ref found alone
    refine steady key.sessionID (mem_append_right _ (mem_filterMap.mpr ⟨(key, ref), mem_entries.mpr found, ?_⟩))
    simp [alone]
  · intro n i mem key frameID opened
    obtain ⟨e, found, desired, session⟩ := following.owned n i mem key frameID opened
    rw [session]
    refine steady e.cmd.sessionID (mem_append_left _ (mem_filterMap.mpr ⟨(n, e), mem_entries.mpr found, ?_⟩))
    simp [desired]

variable {n : Nat} {e : LifecycleEffect}

theorem Steady.effects (steady : s.Steady s') (found : s.effects.get? n = some e) (desired : e.cmd.desired = true) :
    headFrameOf s'.world.host e.cmd.sessionID = headFrameOf s.world.host e.cmd.sessionID := by
  refine steady e.cmd.sessionID (mem_append_left _ (mem_filterMap.mpr ⟨(n, e), mem_entries.mpr found, ?_⟩))
  simp [desired]

theorem Following.daemon (silent : ∀ e, env.Emits e → e.relays = false)
    (following : s.Following) (fresh : draw.Fresh s.world.host) {a : Label D}
    (done : s.world.apply env draw a = some s'.world) (exec : ∀ n attach, a ≠ .exec (.effect n) attach)
    (effect : ∀ n key target, a ≠ .effect n key target) (steady : s.Steady s')
    (effects : s'.effects = s.effects) (next : s'.nextEffect = s.nextEffect) : s'.Following := by
  refine following.kept (following.world.apply silent fresh done (steady.world following)
    fun n key target same => absurd same (effect n key _)) (fun _ _ => steady.effects) ?_ effects next
  exact fun n => World.apply_effect_todo done (exec n) effect

theorem Following.unsubscribing (following : s.Following) {key : Option SurfaceKey}
    (idle : s.world.todo .loop = []) (done : unsubscribing env draw s.world key = some s'.world)
    (effects : s'.effects = s.effects) (next : s'.nextEffect = s.nextEffect) : s'.Following := by
  obtain ⟨host, subs, closes, threads⟩ := unsubscribing_spec done
  refine following.kept (following.world.released host ?_ idle closes threads) (fun _ _ _ _ => by rw [host])
    (fun _ => threads _ (by simp)) effects next
  intro key ref found
  rw [subs] at found
  split at found
  · cases found
  · exact found

variable {e' : LifecycleEffect} {world : World D}

theorem Following.advance (following : s.Following) (found : s.effects.get? n = some e)
    (cmd : e'.cmd = e.cmd) (frame : e'.frameID = e.frameID) (locked : Bool)
    (host : world.host = s.world.host) (follows : world.Follows)
    (others : ∀ m, m ≠ n → world.todo (.effect m) = s.world.todo (.effect m))
    (own : ∀ i ∈ world.todo (.effect n), ∀ key frameID, i.opens = some (key, frameID) →
      e.cmd.desired = true ∧ key.sessionID = e.cmd.sessionID) :
    Following { s with world := world, locked := locked, effects := s.effects.set n e' } := by
  refine ⟨follows, ?_, ?_, ?_⟩
  · intro m e'' stored desired
    rw [host]
    rcases get?_of_set stored with ⟨rfl, rfl⟩ | before
    · rw [cmd] at desired ⊢
      rw [frame]
      exact following.effects m e found desired
    · exact following.effects m e'' before desired
  · intro m i mem key frameID opened
    by_cases here : m = n
    · subst here
      obtain ⟨desired, session⟩ := own i mem key frameID opened
      exact ⟨e', get?_set_self _ _ _, cmd ▸ desired, cmd ▸ session⟩
    rw [others m here] at mem
    rw [get?_set_of_ne _ here]
    exact following.owned m i mem key frameID opened
  · intro m e'' stored
    rcases get?_of_set stored with ⟨rfl, -⟩ | before
    · exact following.fresh m e found
    · exact following.fresh m e'' before

theorem Following.attempting (following : s.Following) (found : s.effects.get? n = some e)
    (begun : s.attempting env draw n e' = some s') (cmd : e'.cmd = e.cmd)
    (frame : e'.frameID = e.frameID) : s'.Following := by
  obtain ⟨world, applies, rfl⟩ := map_eq_some_iff.mp begun
  obtain rfl := World.apply_effect applies
  have asked : ∀ key frameID, (e'.target.elim (Instr.unsubscribeOwned e'.key) fun t =>
      Instr.rebindOwned e'.key t.1 t.2.1 t.2.2).opens = some (key, frameID) →
      e.cmd.desired = true ∧ key.sessionID = e.cmd.sessionID ∧ frameID = e.frameID := by
    intro key frameID opened
    unfold LifecycleEffect.target at opened
    split at opened
    · rename_i desired
      obtain ⟨rfl, rfl⟩ := opened
      refine ⟨cmd ▸ desired, ?_, frame⟩
      rw [← cmd]
      rfl
    · cases opened
  refine following.advance found cmd frame true rfl ?_ ?_ ?_
  · refine following.world.assigned ?_ ?_
    · intro key frameID opened
      obtain ⟨desired, session, rfl⟩ := asked key frameID opened
      rw [session]
      exact following.effects n e found desired
    · cases e'.target <;> rfl
  · intro m other
    exact World.todo_setTodo_of_ne rfl (by simpa using other)
  · intro i mem key frameID opened
    rw [World.todo_setTodo_self] at mem
    rw [mem_singleton.mp mem] at opened
    obtain ⟨desired, session, -⟩ := asked key frameID opened
    exact ⟨desired, session⟩

theorem Following.exec (following : s.Following) {attach : Attach} (found : s.effects.get? n = some e)
    (applies : s.world.apply env draw (.exec (.effect n) attach) = some world)
    (cmd : e'.cmd = e.cmd) (frame : e'.frameID = e.frameID) :
    Following { s with world := world, effects := s.effects.set n e' } := by
  obtain ⟨i, rest, r, todo, performed, rfl⟩ := World.apply_exec applies
  have first := todo ▸ mem_cons_self
  have plain : i.internal = false := by
    rw [Bool.eq_false_iff]
    intro lane
    cases (following.world.lone _ i first lane).1
  have table := World.perform_table plain performed
  have threads := World.perform_threads performed
  refine following.advance found cmd frame s.locked table.host (following.world.performed todo threads table) ?_ ?_
  · intro m other
    exact World.todo_setTodo_of_ne threads (by simpa using other)
  · intro j mem key frameID opened
    rw [World.todo_setTodo_self] at mem
    obtain ⟨j', there, opened⟩ := table.opened todo mem opened
    obtain ⟨owner, owns, desired, session⟩ := following.owned n j' there key frameID opened
    obtain rfl := some.inj (found.symm.trans owns)
    exact ⟨desired, session⟩

theorem head_of_accepted {connID : ConnID} {cmd : CmdLifecycleDesired}
    (accepted : s.refusal connID cmd = none) (desired : cmd.desired = true) :
    (headFrameOf s.world.host cmd.sessionID).isSome = true := by
  revert accepted
  fun_cases s.refusal connID cmd <;> rintro ⟨⟩
  case case7 found ready _ =>
    rw [headFrameOf, found, bind_some, isSome_map, isSome_iff_ne_none]
    simpa using ready
  case case8 unwanted => exact absurd desired unwanted

theorem Following.admission (following : s.Following) {a : Admission} (idle : s.world.todo .loop = [])
    (head : a.cmd.desired = true → (headFrameOf s.world.host a.cmd.sessionID).isSome = true)
    (done : admission env draw s a = some s') : s'.Following := by
  unfold Lifecycle.admission at done
  dsimp only at done
  split at done
  · cases done
    exact following.same rfl rfl rfl
  obtain ⟨world, unsubscribed, rfl⟩ := map_eq_some_iff.mp done
  have released : ({ s with world := world } : Lifecycle D).Following :=
    following.unsubscribing idle unsubscribed rfl rfl
  obtain ⟨host, -, -, -⟩ := unsubscribing_spec unsubscribed
  refine ⟨released.world, ?_, ?_, ?_⟩
  · intro n e stored desired
    rcases get?_of_set stored with ⟨-, rfl⟩ | before
    · obtain ⟨frameID, there⟩ := isSome_iff_exists.mp (head desired)
      rw [host, if_pos desired, there, getD_some]
    · exact released.effects n e before desired
  · intro n i mem key frameID opened
    obtain ⟨e, found, owner⟩ := released.owned n i mem key frameID opened
    refine ⟨e, ?_, owner⟩
    rw [← found]
    exact get?_set_of_ne _ (Nat.ne_of_lt (released.fresh n e found)) _
  · intro n e stored
    rcases get?_of_set stored with ⟨rfl, -⟩ | before
    · exact Nat.lt_succ_self _
    · exact Nat.lt_succ_of_lt (released.fresh n e before)

theorem Following.finish (following : s.Following) (empty : s.world.todo (.effect n) = [])
    (effects : s'.effects = s.effects.delete n) (world : s'.world = s.world)
    (next : s'.nextEffect = s.nextEffect) : s'.Following := by
  have kept : ∀ m e, s'.effects.get? m = some e → s.effects.get? m = some e := by
    intro m e stored
    rw [effects] at stored
    exact (get?_of_delete stored).2
  refine ⟨world ▸ following.world, ?_, ?_, ?_⟩
  · intro m e stored desired
    rw [world]
    exact following.effects m e (kept m e stored) desired
  · intro m i mem key frameID opened
    rw [world] at mem
    obtain ⟨e, found, owner⟩ := following.owned m i mem key frameID opened
    have other : m ≠ n := by
      rintro rfl
      rw [empty] at mem
      cases mem
    exact ⟨e, by rw [effects, get?_delete_of_ne _ other, found], owner⟩
  · intro m e stored
    rw [next]
    exact following.fresh m e (kept m e stored)

theorem Following.step (silent : ∀ e, env.Emits e → e.relays = false) (following : s.Following)
    (fresh : draw.Fresh s.world.host) (done : s.apply env draw label = some s')
    (steady : s.Steady s') : s'.Following := by
  cases label with
  | desired connID cmd =>
    simp only [apply, handleLifecycleDesired, ite_none_right_eq_some, List.isEmpty_iff] at done
    obtain ⟨idle, done⟩ := done
    split at done
    · cases done
      exact following
    rename_i accepted
    have accepted : s.refusal connID cmd = none := by simpa using accepted
    refine following.admission idle ?_ done
    unfold named
    split <;> exact head_of_accepted accepted
  | start =>
    obtain ⟨e, found, done⟩ := bind_eq_some_iff.mp done
    split at done
    · cases done
    · exact following.attempting found done rfl rfl
  | exec =>
    obtain ⟨e, found, done⟩ := bind_eq_some_iff.mp done
    simp only [ite_none_right_eq_some] at done
    obtain ⟨world, applies, rfl⟩ := map_eq_some_iff.mp done.2
    exact following.exec found applies rfl rfl
  | retry =>
    obtain ⟨e, found, done⟩ := bind_eq_some_iff.mp done
    simp only [ite_none_right_eq_some] at done
    exact following.attempting found done.2 rfl rfl
  | finish =>
    obtain ⟨e, found, done⟩ := bind_eq_some_iff.mp done
    simp only [ite_none_right_eq_some, Bool.and_eq_true, List.isEmpty_iff, some.injEq] at done
    obtain ⟨⟨⟨-, empty⟩, -⟩, rfl⟩ := done
    exact following.finish empty rfl rfl rfl
  | result =>
    simp only [apply] at done
    split at done <;> cases done
    exact following.same rfl rfl rfl
  | deadline =>
    obtain ⟨-, rfl⟩ := of_guard done
    exact following.same rfl rfl rfl
  | expiry =>
    simp only [apply, handleLifecycleExpiry, ite_none_right_eq_some, List.isEmpty_iff] at done
    obtain ⟨idle, done⟩ := done
    split at done
    · cases done
      exact following
    split at done
    · cases done
      exact following
    · obtain ⟨world, unsubscribed, rfl⟩ := map_eq_some_iff.mp done
      exact following.unsubscribing idle unsubscribed rfl rfl
  | connClose =>
    obtain ⟨world, applies, rfl⟩ := map_eq_some_iff.mp done
    exact following.daemon silent fresh applies (by simp) (by simp) steady rfl rfl
  | daemon =>
    obtain ⟨beside, done⟩ := ite_none_right_eq_some.mp done
    obtain ⟨world, applies, rfl⟩ := map_eq_some_iff.mp done
    refine following.daemon silent fresh applies ?_ ?_ steady rfl rfl
    · rintro n attach rfl
      cases beside
    · rintro n key target rfl
      cases beside

end Lifecycle

/-! ## Runs -/

/-- In every run in which no step moves the head of a session that the lifecycle holds, or is to
open, a subscription of: when the loop has done what the last event led to, every subscription of
the relay is of the head of its session, the frame that the session's input goes to, and a session
without a head has no subscription. -/
theorem terminal_whole (silent : ∀ e, env.Emits e → e.relays = false) {host : State D}
    {labels : List (LifecycleLabel D)} {s : Lifecycle D}
    (run : Run (fun s a s' => Lifecycle.Step env s a s' ∧ s.Steady s') (Lifecycle.new host)
      labels s) (idle : s.world.todo .loop = []) :
    (∀ key ref, s.world.subs.get? key = some ref → headFrameOf s.world.host key.sessionID = some ref.frameID ∧
      sessionHeadFrameTarget s.world.host key.sessionID = ref.frameID) ∧
    ∀ key : SurfaceKey, headFrameOf s.world.host key.sessionID = none → s.world.subs.get? key = none := by
  have following : s.Following := by
    refine run.invariant _ (Lifecycle.Following.new host) ?_
    rintro s a s' following ⟨⟨draw, fresh, done⟩, steady⟩
    exact following.step silent fresh done steady
  have heads : ∀ key ref, s.world.subs.get? key = some ref →
      headFrameOf s.world.host key.sessionID = some ref.frameID := by
    intro key ref found
    rcases following.world.table key ref found with head | ⟨i, mem, -⟩
    · exact head
    · rw [idle] at mem
      cases mem
  constructor
  · intro key ref found
    have head := heads key ref found
    refine ⟨head, ?_⟩
    rw [sessionHeadFrameTarget_eq, head, getD_some]
  · intro key none
    cases found : s.world.subs.get? key with
    | none => rfl
    | some ref =>
      rw [heads key ref found] at none
      cases none

namespace Lifecycle

instance (s s' : Lifecycle D) : Decidable (s.Steady s') :=
  inferInstanceAs (Decidable (∀ sid ∈ _, _))

def attemptSteady (s : Lifecycle Unit) (input : Char × LifecycleLabel Unit) :
    Option (Lifecycle Unit × LifecycleLabel Unit) :=
  (attempt s input).filter fun r => decide (s.Steady r.1)

theorem attemptSteady_run {s s' : Lifecycle Unit} {inputs : List (Char × LifecycleLabel Unit)}
    {labels : List (LifecycleLabel Unit)} (driven : drive attemptSteady s inputs = some (s', labels)) :
    Run (fun s a s' => Step Env.inert s a s' ∧ s.Steady s') s labels s' := by
  refine drive_run ?_ driven
  intro s input s' a taken
  obtain ⟨taken, steady⟩ := filter_eq_some_iff.mp taken
  exact ⟨attempt_step taken, of_decide_eq_true steady⟩

/-- A frame is pushed onto the session, and its terminal starts. -/
def pushing : List (Char × LifecycleLabel Unit) :=
  [('c', .daemon (.dispatch
      (.event 1 "q" (.pushDriver (.ok { sessionID := "a", command := "x" }))))),
    ('b', .daemon (.start "c"))]

def looping (instrs : Nat) : List (Char × LifecycleLabel Unit) :=
  List.replicate instrs ('b', .daemon (.exec .loop (.snapshot [0])))

/-- A viewer subscribes, a frame is pushed, and the lifecycle subscribes to it. -/
def viewing : List (Char × LifecycleLabel Unit) :=
  connecting ++ [('b', .daemon (.dispatch (.surfaceSubscribe ⟨1, "r", "a", "x", 80, 24⟩)))] ++
    looping 4 ++ pushing ++ looping 6 ++ [('b', .desired 1 (command 1 "v" true))] ++ running 0 4

/-- The lifecycle subscribes to the head, and a frame is pushed. -/
def leaving : List (Char × LifecycleLabel Unit) :=
  connecting ++ [('b', .desired 1 (command 1 "v" true))] ++ running 0 4 ++ pushing

end Lifecycle

open Lifecycle in
/-- The theorem at a run in which a viewer follows a pushed frame. -/
theorem terminal_whole_pushed : ∃ labels s, Run (fun s a s' => Lifecycle.Step Env.inert s a s' ∧ s.Steady s')
      (Lifecycle.new (State.new {})) labels s ∧ headFrameOf s.world.host "a" = some "c" ∧
    s.world.subs.get? ⟨1, "a", "x"⟩ = some ⟨"c", 1⟩ ∧ s.world.subs.get? ⟨1, "a", "v"⟩ = some ⟨"c", 2⟩ ∧
    ∀ key ref, s.world.subs.get? key = some ref → headFrameOf s.world.host key.sessionID = some ref.frameID := by
  have facts : ((drive attemptSteady (Lifecycle.new (State.new {})) viewing).map fun r =>
      (headFrameOf r.1.world.host "a", r.1.world.subs.get? ⟨1, "a", "x"⟩,
        r.1.world.subs.get? ⟨1, "a", "v"⟩, r.1.world.todo .loop)) =
        some (some "c", some ⟨"c", 1⟩, some ⟨"c", 2⟩, []) := by
    decide +kernel
  obtain ⟨⟨s, labels⟩, driven, found⟩ := map_eq_some_iff.mp facts
  simp only [Prod.mk.injEq] at found
  obtain ⟨head, viewer, held, idle⟩ := found
  have run := attemptSteady_run driven
  have whole := terminal_whole (fun e emitted => absurd emitted Env.inert_emits) run idle
  exact ⟨labels, s, run, head, viewer, held, fun key ref found => (whole.1 key ref found).1⟩

open Lifecycle in
/-- The lifecycle's subscription stays on the frame it was opened on when another frame is pushed:
its output comes from one frame, and the session's input goes to the other. -/
theorem lifecycle_subscription_left_behind : ∃ labels s,
    Run (Lifecycle.Step Env.inert) (Lifecycle.new (State.new {})) labels s ∧ s.Quiet ∧
    s.world.todo .loop = [] ∧ s.world.subs.get? ⟨1, "a", "v"⟩ = some ⟨"aa", 1⟩ ∧
    headFrameOf s.world.host "a" = some "c" ∧ sessionHeadFrameTarget s.world.host "a" = "c" := by
  have facts : ((drive attempt (Lifecycle.new (State.new {})) leaving).map fun r =>
      (r.1.effects.entries.isEmpty, r.1.world.todo .loop, r.1.world.subs.get? ⟨1, "a", "v"⟩,
        headFrameOf r.1.world.host "a", sessionHeadFrameTarget r.1.world.host "a")) =
        some (true, [], some ⟨"aa", 1⟩, some "c", "c") := by
    decide +kernel
  obtain ⟨⟨s, labels⟩, driven, found⟩ := map_eq_some_iff.mp facts
  simp only [Prod.mk.injEq] at found
  obtain ⟨empty, idle, held, head, target⟩ := found
  exact ⟨labels, s, attempt_run driven, quiet_of_isEmpty empty, idle, held, head, target⟩

end AgentGrid.Terminal
