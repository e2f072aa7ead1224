import AgentGrid.Terminal.Lifecycle

/-!
# The desire of a client

Where every command of a client comes over one connection and is admitted while no effect goroutine
is in flight, the subscription of the highest revision is held exactly when it asks for one and the
last attempt to open it succeeded, and none for another target.  The mutex of the effects gives no
order: of two in flight the older can come last.
-/

namespace AgentGrid.Terminal

open AgentGrid.Lib AgentGrid.Host List Option GoMap

/-- A client instance over a connection of some generation. -/
structure Client where
  connID : ConnID
  clientInstanceID : String
  connectionGeneration : Nat
  deriving DecidableEq

namespace Client

/-- The correlation is the client's, over its connection. -/
def Owns (k : Client) (connID : ConnID) (c : PublicCorrelation) : Prop :=
  connID = k.connID ∧ c.clientInstanceID = k.clientInstanceID ∧ c.connectionGeneration = k.connectionGeneration

instance (k : Client) (connID : ConnID) (c : PublicCorrelation) : Decidable (k.Owns connID c) :=
  inferInstanceAs (Decidable (_ ∧ _))

def correlation (k : Client) : PublicCorrelation :=
  ⟨k.clientInstanceID, k.connectionGeneration, 0⟩

def bindingKey (k : Client) : String := lifecycleBindingKey k.connID k.correlation

def baseKey (k : Client) : String := correlationBaseKey k.correlation

variable {k : Client} {connID : ConnID} {c : PublicCorrelation}

theorem Owns.bindingKey (owns : k.Owns connID c) : lifecycleBindingKey connID c = k.bindingKey := by
  obtain ⟨rfl, instanceID, generation⟩ := owns
  simp only [Client.bindingKey, lifecycleBindingKey, correlation, instanceID, generation]

theorem Owns.baseKey (owns : k.Owns connID c) : correlationBaseKey c = k.baseKey := by
  obtain ⟨-, instanceID, generation⟩ := owns
  simp only [Client.baseKey, correlationBaseKey, correlation, instanceID, generation]

variable {D : Type}

/-- A step leaves the client's binding and the subscriptions of its connection as they are. -/
def Spared (k : Client) (s s' : Lifecycle D) : Prop :=
  s'.bindings.get? k.bindingKey = s.bindings.get? k.bindingKey ∧ ∀ key : SurfaceKey, key.connID = k.connID →
      s'.world.subs.get? key = s.world.subs.get? key

/-- The commands are the client's and come over one connection, each admitted while no effect
goroutine is in flight, and nothing else touches what the client holds. -/
def Orderly (k : Client) (s : Lifecycle D) (a : LifecycleLabel D) (s' : Lifecycle D) : Prop :=
  match a with
  | .desired connID cmd => k.Owns connID cmd.correlation ∧ (s.Quiet ∨ s'.admitted = s.admitted)
  | .start _ | .exec _ _ | .retry _ | .finish _ _ => True
  | _ => k.Spared s s'

end Client

/-! ## An attempt -/

section Attempt

variable {D : Type} {env : Env D} {draw : Draw} {w : World D} {attach : Attach} {key : SurfaceKey}

/-- What is left of an attempt that has taken the old subscription out of the table. -/
inductive Opening (key : SurfaceKey) : List Instr → Prop where
  | close {i : Instr} {rest : List Instr} (closes : i.closes = true) (later : Opening key rest) :
      Opening key (i :: rest)
  | subscribeOwned (frameID : FrameID) (cols rows : Nat) : Opening key [.subscribeOwned key frameID cols rows]
  | subscribeSurface (frameID : FrameID) (cols rows : Nat) : Opening key [.subscribeSurface key frameID cols rows]
  | install (ref : Ref) (cols rows : Nat) : Opening key [.install key ref cols rows]

variable {i : Instr} {r : World D × List Instr}

theorem perform_closes (closes : i.closes = true) (performed : w.perform env draw attach i = some r) :
    r.2 = [] ∧ r.1.subs = w.subs := by
  cases i with
  | cancel =>
    simp only [World.perform] at performed
    split at performed <;> cases performed <;> exact ⟨rfl, rfl⟩
  | release ref =>
    cases performed
    exact ⟨rfl, (w.unsubscribeSurface_table ref).1⟩
  | _ => cases closes

variable {rest : List Instr}

/-- The attempt goes on with the place free, or it ends and the place is taken unless the terminal
refused. -/
theorem Opening.perform (opening : Opening key (i :: rest)) (free : w.subs.get? key = none)
    (performed : w.perform env draw attach i = some r) :
    (Lifecycle.refused w attach (i :: rest) = false ∧ r.1.subs.get? key = none ∧ Opening key (r.2 ++ rest)) ∨
    (r.2 ++ rest = [] ∧ (r.1.subs.get? key).isSome = !Lifecycle.refused w attach (i :: rest)) := by
  cases opening with
  | close closes later =>
    obtain ⟨none, subs⟩ := perform_closes closes performed
    rw [none, subs]
    refine .inl ⟨?_, free, later⟩
    cases i <;> first | rfl | cases closes
  | subscribeOwned frameID cols rows =>
    simp only [World.perform, free, isSome_none] at performed
    cases performed
    exact .inl ⟨rfl, free, .subscribeSurface frameID cols rows⟩
  | subscribeSurface frameID cols rows =>
    obtain ⟨subs, -, -⟩ := w.subscribeSurface_table frameID attach
    simp only [World.perform, some.injEq] at performed
    subst performed
    unfold Lifecycle.refused
    dsimp only
    rw [subs, free]
    cases made : (w.subscribeSurface frameID attach).2 with
    | none => exact .inr ⟨rfl, rfl⟩
    | some ref => exact .inl ⟨rfl, rfl, .install ref cols rows⟩
  | install =>
    simp only [World.perform, free, isSome_none] at performed
    cases performed
    refine .inr ⟨rfl, ?_⟩
    simp [Lifecycle.refused]

/-- Where an effect is, given whether its subscription is held. -/
def Progress (held : Bool) (e : LifecycleEffect) (todo : List Instr) : Prop :=
  if e.cmd.desired then
    (e.failed = false ∧ ∃ frameID cols rows, todo = [.rebindOwned e.key frameID cols rows]) ∨
    (e.failed = false ∧ held = false ∧ Opening e.key todo) ∨ (todo = [] ∧ held = !e.failed)
  else todo = [.unsubscribeOwned e.key] ∨ held = false ∧ ∀ i ∈ todo, i.closes = true

/-- What an effect executes concerns its own subscription. -/
@[simp] def Concerns (key : SurfaceKey) (i : Instr) : Prop :=
  i.closes = true ∨ i = .unsubscribeOwned key ∨ ∃ frameID, i.opens = some (key, frameID)

variable {todo : List Instr}

theorem Opening.concerns (opening : Opening key todo) : ∀ i ∈ todo, Concerns key i := by
  induction opening with
  | close closes later ih =>
    intro i mem
    rcases mem_cons.mp mem with rfl | there
    · exact .inl closes
    · exact ih i there
  | subscribeOwned | subscribeSurface | install => simp

variable {held : Bool} {e : LifecycleEffect}

theorem Progress.concerns (progress : Progress held e todo) : ∀ i ∈ todo, Concerns e.key i := by
  unfold Progress at progress
  split at progress
  · rcases progress with ⟨-, frameID, cols, rows, rfl⟩ | ⟨-, -, opening⟩ | ⟨rfl, -⟩
    · simp
    · exact opening.concerns
    · simp
  rcases progress with rfl | ⟨-, closes⟩
  · simp
  · exact fun i mem => .inl (closes i mem)

theorem perform_frame {other : SurfaceKey} (concerns : Concerns key i)
    (performed : w.perform env draw attach i = some r) (ne : other ≠ key) :
    r.1.subs.get? other = w.subs.get? other := by
  rcases concerns with closes | rfl | ⟨frameID, opened⟩
  · rw [(perform_closes closes performed).2]
  · simp only [World.perform] at performed
    split at performed <;> cases performed
    · rfl
    · exact get?_delete_of_ne _ ne
  revert opened performed
  fun_cases w.perform env draw attach i <;> intro performed opened <;> cases opened <;> cases performed
  case case3.refl.refl => rw [(w.subscribeSurface_table frameID attach).1]
  case case5.refl.refl => exact get?_set_of_ne _ ne _
  case case8.refl.refl => exact get?_delete_of_ne _ ne
  all_goals rfl

theorem Progress.perform (progress : Progress (w.subs.get? e.key).isSome e (i :: rest))
    (performed : w.perform env draw attach i = some r) : Progress (r.1.subs.get? e.key).isSome
      { e with failed := e.failed || Lifecycle.refused w attach (i :: rest) } (r.2 ++ rest) := by
  have same : (LifecycleEffect.key
    { e with failed := e.failed || Lifecycle.refused w attach (i :: rest) }) = e.key := rfl
  unfold Progress at progress ⊢
  rw [same]
  by_cases desired : e.cmd.desired
  · rw [if_pos desired] at progress ⊢
    rcases progress with ⟨fresh, frameID, cols, rows, todo⟩ | ⟨fresh, free, opening⟩ | ⟨done, -⟩
    · obtain ⟨rfl, rfl⟩ := List.cons.inj todo
      have accepted : Lifecycle.refused w attach [.rebindOwned e.key frameID cols rows] = false := rfl
      rw [fresh, accepted, Bool.false_or]
      simp only [World.perform] at performed
      split at performed
      · rename_i absent
        cases performed
        refine .inr (.inl ⟨rfl, by rw [absent]; rfl, ?_⟩)
        exact .subscribeOwned frameID cols rows
      rename_i old present
      split at performed
      · cases performed
        exact .inr (.inr ⟨rfl, by rw [present]; rfl⟩)
      cases performed
      refine .inr (.inl ⟨rfl, by rw [get?_delete_self]; rfl, ?_⟩)
      exact .close rfl (.close rfl (.subscribeOwned frameID cols rows))
    · have free : w.subs.get? e.key = none := by simpa using free
      rw [fresh, Bool.false_or]
      rcases opening.perform free performed with ⟨accepted, free, later⟩ | ⟨done, held⟩
      · exact .inr (.inl ⟨accepted, by rw [free]; rfl, later⟩)
      · exact .inr (.inr ⟨done, held⟩)
    · cases done
  rw [if_neg desired] at progress ⊢
  rcases progress with todo | ⟨free, closes⟩
  · obtain ⟨rfl, rfl⟩ := List.cons.inj todo
    refine .inr ?_
    simp only [World.perform] at performed
    split at performed
    · rename_i absent
      cases performed
      rw [absent]
      exact ⟨rfl, by simp⟩
    cases performed
    rw [get?_delete_self]
    exact ⟨rfl, by simp [Instr.closes]⟩
  obtain ⟨none, subs⟩ := perform_closes (closes i mem_cons_self) performed
  rw [none, subs]
  exact .inr ⟨free, fun j mem => closes j (mem_cons_of_mem _ mem)⟩

theorem Progress.done (progress : Progress held e []) : held = (e.cmd.desired && !e.failed) := by
  unfold Progress at progress
  split at progress
  · rename_i desired
    rcases progress with ⟨-, _, _, _, todo⟩ | ⟨-, -, opening⟩ | ⟨-, held⟩
    · cases todo
    · cases opening
    · rw [held, desired, Bool.true_and]
  rename_i undesired
  rcases progress with todo | ⟨free, -⟩
  · cases todo
  · rw [free, Bool.eq_false_iff.mpr undesired, Bool.false_and]

end Attempt

/-! ## What the steps keep -/

namespace Lifecycle

variable {D : Type} {env : Env D} {draw : Draw} {s s' : Lifecycle D} {k : Client}
  {label : LifecycleLabel D}

theorem admitRevision_newer {a : Actor} {c : PublicCorrelation}
    (accepted : (a.admitRevision c).2.status ≠ .rejected) (unknown : a.lookup c = none) :
    (∀ latest, a.latest.get? (correlationBaseKey c) = some latest → latest < c.clientRevision) ∧
      (a.admitRevision c).1.latest.get? (correlationBaseKey c) = some c.clientRevision := by
  unfold Actor.admitRevision at accepted ⊢
  unfold Actor.lookup at unknown
  split at accepted
  · exact absurd rfl accepted
  rename_i notStale
  split at accepted
  · rw [unknown] at accepted
    exact absurd rfl accepted
  rename_i notEqual
  rw [if_neg notStale, if_neg notEqual]
  refine ⟨fun latest there => ?_, get?_set_self _ _ _⟩
  rw [there] at notStale notEqual
  simp only [any_some, decide_eq_true_eq, some.injEq] at notStale notEqual
  omega

def last (s : Lifecycle D) : Option Admission := s.admitted.getLast?

/-- What the daemon holds for the client agrees with the last command admitted, up to what the one
effect in flight has still to do. -/
structure Applied (k : Client) (s : Lifecycle D) : Prop where
  owned : ∀ a ∈ s.admitted, k.Owns a.connID a.cmd.correlation
  latest : ∀ a ∈ s.admitted, ∃ latest, s.actor.latest.get? k.baseKey = some latest ∧ a.revision ≤ latest
  sorted : s.admitted.Pairwise fun a b => a.revision < b.revision
  binding : s.bindings.get? k.bindingKey = (s.last.filter fun a => a.cmd.desired).map Admission.binding
  others : ∀ key : SurfaceKey, key.connID = k.connID → (∀ a, s.last = some a → key ≠ a.key) →
    s.world.subs.get? key = none
  effect : ∀ i e, s.effects.get? i = some e → s.last = some ⟨e.connID, e.cmd⟩ ∧
    if e.started then Progress (s.world.subs.get? e.key).isSome e (s.world.todo (.effect i))
    else e.failed = false
  single : ∀ i j e e', s.effects.get? i = some e → s.effects.get? j = some e' → i = j
  settled : s.Quiet → ∀ a, s.last = some a → (s.world.subs.get? a.key).isSome =
    (a.cmd.desired && decide (s.bound.get? a.cmd.correlation = some true))

theorem Applied.new (k : Client) (host : State D) : (Lifecycle.new host).Applied k :=
  ⟨nofun, nofun, .nil, rfl, fun _ _ _ => rfl, nofun, nofun, fun _ => nofun⟩

variable {a : Admission}

theorem Applied.owns_last (applied : s.Applied k) (last : s.last = some a) : k.Owns a.connID a.cmd.correlation :=
  applied.owned a (mem_of_getLast? last)

theorem Applied.spared (applied : s.Applied k) (spared : k.Spared s s')
    (admitted : s'.admitted = s.admitted) (effects : s'.effects = s.effects) (bound : s'.bound = s.bound)
    (todo : ∀ i, s'.world.todo (.effect i) = s.world.todo (.effect i))
    (latest : ∀ latest, s.actor.latest.get? k.baseKey = some latest →
      ∃ latest', s'.actor.latest.get? k.baseKey = some latest' ∧ latest ≤ latest') : s'.Applied k := by
  obtain ⟨bindings, subs⟩ := spared
  have last : s'.last = s.last := congrArg List.getLast? admitted
  refine ⟨admitted ▸ applied.owned, fun a mem => ?_, admitted ▸ applied.sorted, ?_, ?_, ?_, ?_, ?_⟩
  · obtain ⟨reached, there, le⟩ := applied.latest a (admitted ▸ mem)
    obtain ⟨later, there, more⟩ := latest reached there
    exact ⟨later, there, le.trans more⟩
  · rw [bindings, applied.binding, last]
  · intro key own other
    rw [subs key own]
    exact applied.others key own (last ▸ other)
  · intro i e found
    obtain ⟨top, progress⟩ := applied.effect i e (effects ▸ found)
    rw [last, subs e.key (applied.owns_last top).1, todo i]
    exact ⟨top, progress⟩
  · rw [effects]
    exact applied.single
  · intro quiet a top
    rw [last] at top
    rw [subs a.key (applied.owns_last top).1, bound]
    exact applied.settled (fun i => effects ▸ quiet i) a top

variable {i : Nat} {e e' : LifecycleEffect} {world : World D}

section

variable (applied : s.Applied k)

include applied

section

variable (found : s.effects.get? i = some e)

include found

theorem Applied.advance (connID : e'.connID = e.connID) (cmd : e'.cmd = e.cmd) (started : e'.started = true)
    (locked : Bool) (frame : ∀ key, key ≠ e.key → world.subs.get? key = s.world.subs.get? key)
    (progress : Progress (world.subs.get? e'.key).isSome e' (world.todo (.effect i))) :
    Applied k { s with world := world, locked := locked, effects := s.effects.set i e' } := by
  obtain ⟨top, -⟩ := applied.effect i e found
  have only : ∀ j e'', (s.effects.set i e').get? j = some e'' → j = i ∧ e'' = e' := by
    intro j e'' stored
    rcases get?_of_set stored with both | before
    · exact both
    obtain rfl := applied.single i j e e'' found before
    rw [get?_set_self, some.injEq] at stored
    exact ⟨rfl, stored.symm⟩
  refine ⟨applied.owned, applied.latest, applied.sorted, applied.binding, ?_, ?_, ?_, ?_⟩
  · intro key own other
    exact (frame key (other _ top)).trans (applied.others key own other)
  · intro j e'' stored
    obtain ⟨rfl, rfl⟩ := only j e'' stored
    rw [if_pos started, connID, cmd]
    exact ⟨top, progress⟩
  · intro j j' e₁ e₂ first second
    exact (only j e₁ first).1.trans (only j' e₂ second).1.symm
  · intro quiet
    have gone := quiet i
    rw [get?_set_self] at gone
    cases gone

theorem Applied.attempting (begun : s.attempting env draw i e' = some s') (connID : e'.connID = e.connID)
    (cmd : e'.cmd = e.cmd) (started : e'.started = true) (fresh : e'.failed = false) : s'.Applied k := by
  obtain ⟨world, applies, rfl⟩ := map_eq_some_iff.mp begun
  have next := World.apply_effect applies
  subst next
  refine applied.advance found connID cmd started true (fun _ _ => rfl) ?_
  rw [World.todo_setTodo, if_pos rfl]
  unfold Progress LifecycleEffect.target
  split
  · exact .inl ⟨fresh, _, _, _, rfl⟩
  · exact .inl rfl

theorem Applied.exec {attach : Attach} (started : e.started = true)
    (applies : s.world.apply env draw (.exec (.effect i) attach) = some world) : Applied k
      { s with
        world := world, effects := s.effects.set i
          { e with failed := e.failed || refused s.world attach (s.world.todo (.effect i)) } } := by
  obtain ⟨instr, rest, r, todo, performed, rfl⟩ := World.apply_exec applies
  obtain ⟨-, progress⟩ := applied.effect i e found
  rw [if_pos started, todo] at progress
  have concerns := progress.concerns instr mem_cons_self
  rw [todo]
  have connID : LifecycleEffect.connID
      { e with failed := e.failed || refused s.world attach (instr :: rest) } = e.connID := rfl
  refine applied.advance found connID rfl started s.locked ?_ ?_
  · exact fun key other => perform_frame concerns performed other
  · rw [World.todo_setTodo, if_pos rfl]
    exact progress.perform performed

theorem Applied.finish (started : e.started = true) (empty : s.world.todo (.effect i) = [])
    (results : List (CmdLifecycleDesired × Option String)) : Applied k
      { s with
        locked := false, effects := s.effects.delete i, results := results
        bound := if e.cmd.desired then s.bound.set e.cmd.correlation !e.failed else s.bound } := by
  obtain ⟨top, progress⟩ := applied.effect i e found
  rw [if_pos started, empty] at progress
  have none : ∀ j e', (s.effects.delete i).get? j ≠ some e' := by
    intro j e' stored
    obtain ⟨other, before⟩ := get?_of_delete stored
    exact other (applied.single j i e' e before found)
  refine ⟨applied.owned, applied.latest, applied.sorted, applied.binding, applied.others,
    fun j e' stored => absurd stored (none j e'), fun j _ e' _ stored => absurd stored (none j e'),
    fun _ a last => ?_⟩
  obtain rfl := some.inj (top.symm.trans last)
  refine progress.done.trans ?_
  cases desired : e.cmd.desired with
  | false => rfl
  | true => simp

end

/-- When a newer revision is admitted with no effect in flight, the loop takes out what the client
holds for another target. -/
theorem Applied.released (quiet : s.Quiet)
    (owns : k.Owns a.connID a.cmd.correlation) (newer : ∀ b ∈ s.admitted, b.revision < a.revision)
    {key : SurfaceKey} (own : key.connID = k.connID) (other : key ≠ a.key) (kept : s.released a ≠ some key) :
    s.world.subs.get? key = none := by
  by_cases held : ∃ top, s.last = some top ∧ key = top.key
  · obtain ⟨top, last, rfl⟩ := held
    have settled := applied.settled quiet top last
    cases desired : top.cmd.desired with
    | false =>
      rw [desired, Bool.false_and] at settled
      simpa using settled
    | true =>
      refine absurd ?_ kept
      have older := newer top (mem_of_getLast? last)
      have sameConn : top.connID = a.connID := (applied.owns_last last).1.trans owns.1.symm
      have bound : s.bindings.get? (lifecycleBindingKey a.connID a.cmd.correlation) = some top.binding := by
        rw [owns.bindingKey, applied.binding, last]
        simp [Option.filter, desired]
      have differs : top.cmd.sessionID ≠ a.cmd.sessionID ∨ top.cmd.subscriberID ≠ a.cmd.subscriberID := by
        by_contra both
        push Not at both
        apply other
        simp only [Admission.key, CmdLifecycleDesired.key, sameConn, both.1, both.2]
      have replaced : s.replaced a = some top.binding := by
        rw [Lifecycle.replaced, bound]
        exact filter_some_pos (decide_eq_true older)
      rw [Lifecycle.released, replaced]
      rw [filter_some_pos]
      · rfl
      · rwa [Bool.or_eq_true, decide_eq_true_eq, decide_eq_true_eq]
  · refine applied.others key own fun top last same => held ⟨top, last, same⟩

end

theorem rebinding_get (s : Lifecycle D) (a : Admission) :
    (s.rebinding a).get? (lifecycleBindingKey a.connID a.cmd.correlation) =
      if a.cmd.desired then some a.binding else none := by
  unfold rebinding
  dsimp only
  split
  · exact get?_set_self _ _ _
  · exact get?_delete_self _ _

theorem Applied.admission (applied : s.Applied k) (owns : k.Owns a.connID a.cmd.correlation)
    (orderly : s.Quiet ∨ s'.admitted = s.admitted) (done : admission env draw s a = some s') : s'.Applied k := by
  have recorded : Actor.Step s.actor (.admitRevision a.cmd.correlation)
      (s.actor.admitRevision a.cmd.correlation).1 := rfl
  have marked : Actor.Step (s.actor.admitRevision a.cmd.correlation).1 (.markWaiting a.cmd.correlation)
      ((s.actor.admitRevision a.cmd.correlation).1.markWaiting a.cmd.correlation).1 := rfl
  unfold Lifecycle.admission at done
  dsimp only at done
  split at done
  · cases done
    exact applied.spared ⟨rfl, fun _ _ => rfl⟩ rfl rfl rfl (fun _ => rfl)
      fun latest there => recorded.latest_le there
  rename_i admitted
  simp only [Bool.or_eq_true, decide_eq_true_eq, not_or, not_isSome_iff_eq_none] at admitted
  obtain ⟨newer, latest⟩ := admitRevision_newer admitted.1 admitted.2
  rw [owns.baseKey] at newer latest
  obtain ⟨world, unsubscribed, rfl⟩ := map_eq_some_iff.mp done
  have quiet : s.Quiet := by
    rcases orderly with quiet | same
    · exact quiet
    · simp at same
  obtain ⟨-, subs, -, -⟩ := unsubscribing_spec unsubscribed
  have later : ∀ b ∈ s.admitted, b.revision < a.revision := by
    intro b mem
    obtain ⟨reached, there, le⟩ := applied.latest b mem
    exact le.trans_lt (newer reached there)
  have last : (s.admitted ++ [a]).getLast? = some a := getLast?_concat
  have only : ∀ fresh j e, (s.effects.set s.nextEffect fresh).get? j = some e → j = s.nextEffect ∧ e = fresh := by
    intro fresh j e stored
    rcases get?_of_set stored with both | before
    · exact both
    · rw [quiet j] at before
      cases before
  obtain ⟨reached, there, le⟩ := marked.latest_le latest
  constructor
  · intro b mem
    rcases mem_append.mp mem with before | new
    · exact applied.owned b before
    · rwa [mem_singleton.mp new]
  · intro b mem
    refine ⟨reached, there, ?_⟩
    rcases mem_append.mp mem with before | new
    · exact (later b before).le.trans le
    · rwa [mem_singleton.mp new]
  · rw [pairwise_append]
    refine ⟨applied.sorted, pairwise_singleton _ _, fun b mem c new => ?_⟩
    rw [mem_singleton.mp new]
    exact later b mem
  · have bound := rebinding_get s a
    rw [owns.bindingKey] at bound
    refine bound.trans ?_
    rw [Lifecycle.last, last]
    cases desired : a.cmd.desired <;> simp [Option.filter, desired]
  · intro key own other
    refine (subs key).trans ?_
    split
    · rfl
    · rename_i kept
      exact applied.released quiet owns later own (other a last) kept
  · intro j e stored
    obtain ⟨rfl, rfl⟩ := only _ j e stored
    exact ⟨last, rfl⟩
  · intro i j e e' first second
    exact (only _ i e first).1.trans (only _ j e' second).1.symm
  · intro quiet
    have gone := quiet s.nextEffect
    rw [get?_set_self] at gone
    cases gone

theorem complete_latest (a : Actor) (c : PublicCorrelation) (status : RevisionOutcomeKind)
    (reason : String) {base : String} {latest : Nat} (there : a.latest.get? base = some latest) :
    ∃ latest', (a.complete c status 0 0 reason).1.latest.get? base = some latest' ∧ latest ≤ latest' := by
  have step : Actor.Step a (.complete c status 0 0 reason (a.complete c status 0 0 reason).2.isOk)
      (a.complete c status 0 0 reason).1 := by
    simp [Actor.Step, Actor.call]
  exact step.latest_le there

theorem Applied.step (applied : s.Applied k) (done : s.apply env draw label = some s')
    (orderly : k.Orderly s label s') : s'.Applied k := by
  cases label with
  | desired =>
    obtain ⟨owns, orderly⟩ := orderly
    obtain ⟨-, done⟩ := ite_none_right_eq_some.mp done
    split at done
    · cases done
      exact applied
    refine applied.admission ?_ orderly done
    unfold named
    split <;> exact owns
  | start i =>
    obtain ⟨e, found, done⟩ := bind_eq_some_iff.mp done
    split at done
    · cases done
    rename_i waiting
    have fresh : e.failed = false := by
      have progress := (applied.effect i e found).2
      rwa [if_neg fun started => waiting (by rw [started, Bool.true_or])] at progress
    exact applied.attempting found done rfl rfl rfl fresh
  | exec =>
    obtain ⟨e, found, done⟩ := bind_eq_some_iff.mp done
    obtain ⟨started, done⟩ := ite_none_right_eq_some.mp done
    obtain ⟨world, applies, rfl⟩ := map_eq_some_iff.mp done
    exact applied.exec found started applies
  | retry =>
    obtain ⟨e, found, done⟩ := bind_eq_some_iff.mp done
    simp only [ite_none_right_eq_some, Bool.and_eq_true] at done
    obtain ⟨⟨⟨started, -⟩, -⟩, done⟩ := done
    exact applied.attempting found done rfl rfl started rfl
  | finish =>
    obtain ⟨e, found, done⟩ := bind_eq_some_iff.mp done
    simp only [ite_none_right_eq_some, Bool.and_eq_true, List.isEmpty_iff, some.injEq] at done
    obtain ⟨⟨⟨started, empty⟩, -⟩, rfl⟩ := done
    exact applied.finish found started empty _
  | result =>
    simp only [apply] at done
    split at done <;> cases done
    exact applied.spared orderly rfl rfl rfl (fun _ => rfl) fun latest there => complete_latest _ _ _ _ there
  | deadline =>
    obtain ⟨-, rfl⟩ := of_guard done
    exact applied.spared orderly rfl rfl rfl (fun _ => rfl) fun latest there => complete_latest _ _ _ _ there
  | expiry =>
    obtain ⟨-, done⟩ := ite_none_right_eq_some.mp done
    split at done
    · cases done
      exact applied
    split at done
    · cases done
      exact applied
    obtain ⟨world, unsubscribed, rfl⟩ := map_eq_some_iff.mp done
    obtain ⟨-, -, -, threads⟩ := unsubscribing_spec unsubscribed
    exact applied.spared orderly rfl rfl rfl (fun i => threads (.effect i) (by simp))
      fun latest there => complete_latest _ _ _ _ there
  | connClose =>
    obtain ⟨world, applies, rfl⟩ := map_eq_some_iff.mp done
    exact applied.spared orderly rfl rfl rfl (fun i => World.apply_effect_todo applies (by simp) (by simp))
      fun latest there => ⟨latest, there, Nat.le_refl _⟩
  | daemon =>
    obtain ⟨beside, done⟩ := ite_none_right_eq_some.mp done
    obtain ⟨world, applies, rfl⟩ := map_eq_some_iff.mp done
    refine applied.spared orderly rfl rfl rfl (fun i => World.apply_effect_todo applies ?_ ?_)
      fun latest there => ⟨latest, there, Nat.le_refl _⟩
    · rintro attach rfl
      cases beside
    · rintro m key target rfl
      cases beside

end Lifecycle

/-! ## Runs -/

section Runs

variable {D : Type} {env : Env D} {host : State D} {labels : List (LifecycleLabel D)}
  {s : Lifecycle D} {k : Client}

theorem lifecycle_applied (run : Run (fun s a s' => Lifecycle.Step env s a s' ∧ k.Orderly s a s') (Lifecycle.new host)
      labels s) : s.Applied k := by
  refine run.invariant _ (Lifecycle.Applied.new k host) ?_
  rintro s a s' applied ⟨⟨draw, -, done⟩, orderly⟩
  exact applied.step done orderly

theorem Lifecycle.Applied.last_of_highest (applied : s.Applied k) {top : Admission}
    (admitted : top ∈ s.admitted) (highest : ∀ a ∈ s.admitted, a.revision ≤ top.revision) : s.last = some top := by
  cases last : s.last with
  | none => exact absurd (getLast?_eq_none_iff.mp last) (ne_nil_of_mem admitted)
  | some b =>
    have split := dropLast_append_getLast? b last
    have sorted := applied.sorted
    rw [← split] at admitted sorted
    rcases mem_append.mp admitted with before | new
    · have lower := (pairwise_append.mp sorted).2.2 top before b (mem_singleton_self b)
      exact absurd (highest b (mem_of_getLast? last)) (Nat.not_le.mpr lower)
    · rw [mem_singleton.mp new]

/-- In every run in which the commands of a client come over one connection, each admitted while no
effect goroutine is in flight, and nothing else touches what the client holds: when no effect is in
flight the subscription of the highest revision is held exactly when the revision asks for it and
its last attempt succeeded, and none is held for a lower revision's other target. -/
theorem desire_applied (run : Run (fun s a s' => Lifecycle.Step env s a s' ∧ k.Orderly s a s') (Lifecycle.new host)
      labels s) (quiet : s.Quiet) {top : Admission} (admitted : top ∈ s.admitted)
    (highest : ∀ a ∈ s.admitted, a.revision ≤ top.revision) : ((s.world.subs.get? top.key).isSome = true ↔
      top.cmd.desired = true ∧ s.bound.get? top.cmd.correlation = some true) ∧
    ∀ a ∈ s.admitted, a.revision < top.revision → a.key ≠ top.key → s.world.subs.get? a.key = none := by
  have applied := lifecycle_applied run
  have last := applied.last_of_highest admitted highest
  constructor
  · rw [applied.settled quiet top last, Bool.and_eq_true, decide_eq_true_eq]
  · intro a mem _ other
    refine applied.others a.key (applied.owned a mem).1 fun b same => ?_
    obtain rfl := some.inj (last.symm.trans same)
    exact other

end Runs

def browser : Client := ⟨1, "w", 1⟩

namespace Lifecycle

def checks (k : Client) (s s' : Lifecycle Unit) : LifecycleLabel Unit → Bool
  | .desired connID cmd => decide (k.Owns connID cmd.correlation) &&
      (s.effects.entries.isEmpty || decide (s'.admitted = s.admitted))
  | .start _ | .exec _ _ | .retry _ | .finish _ _ => true
  | _ => decide (s'.bindings.get? k.bindingKey = s.bindings.get? k.bindingKey) &&
      decide (s'.world.subs.entries = s.world.subs.entries)

variable {s s' : Lifecycle Unit}

theorem orderly_of_checks {k : Client} {a : LifecycleLabel Unit} (checked : s.checks k s' a = true)
    : k.Orderly s a s' := by
  have spared : (decide (s'.bindings.get? k.bindingKey = s.bindings.get? k.bindingKey) &&
      decide (s'.world.subs.entries = s.world.subs.entries)) = true → k.Spared s s' := by
    intro both
    rw [Bool.and_eq_true, decide_eq_true_eq, decide_eq_true_eq] at both
    refine ⟨both.1, fun key _ => Option.ext fun ref => ?_⟩
    rw [← mem_entries, ← mem_entries, both.2]
  cases a with
  | desired =>
    simp only [checks, Bool.and_eq_true, Bool.or_eq_true, decide_eq_true_eq] at checked
    exact ⟨checked.1, checked.2.imp_left quiet_of_isEmpty⟩
  | start | exec | retry | finish => trivial
  | _ => exact spared checked

def attemptOrderly (s : Lifecycle Unit) (input : Char × LifecycleLabel Unit) :
    Option (Lifecycle Unit × LifecycleLabel Unit) :=
  (attempt s input).filter fun r => s.checks browser r.1 r.2

theorem attemptOrderly_run {inputs : List (Char × LifecycleLabel Unit)} {labels : List (LifecycleLabel Unit)}
    (driven : drive attemptOrderly s inputs = some (s', labels)) :
    Run (fun s a s' => Step Env.inert s a s' ∧ browser.Orderly s a s') s labels s' := by
  refine drive_run ?_ driven
  intro s input s' a taken
  obtain ⟨taken, checked⟩ := filter_eq_some_iff.mp taken
  exact ⟨attempt_step taken, orderly_of_checks checked⟩

/-- The client asks for one subscription and then for another. -/
def switching : List (Char × LifecycleLabel Unit) :=
  connecting ++ [('b', .desired 1 (command 1 "v" true))] ++ running 0 4 ++
    [('b', .desired 1 (command 2 "x" true))] ++ running 1 4

/-- The client asks for a subscription and then asks for none, and the effects run in the other
order. -/
def overtaken : List (Char × LifecycleLabel Unit) :=
  connecting ++ [('b', .desired 1 (command 1 "v" true)), ('b', .desired 1 (command 2 "v" false))] ++
    running 1 1 ++ running 0 4

end Lifecycle

open Lifecycle in
/-- The theorem at a run in which the client switches from one subscription to another. -/
theorem desire_applied_switching : ∃ labels s,
    Run (fun s a s' => Lifecycle.Step Env.inert s a s' ∧ browser.Orderly s a s')
      (Lifecycle.new (State.new {})) labels s ∧ s.Quiet ∧
    s.admitted = [⟨1, command 1 "v" true⟩, ⟨1, command 2 "x" true⟩] ∧
    (s.world.subs.get? ⟨1, "a", "x"⟩).isSome = true ∧ s.world.subs.get? ⟨1, "a", "v"⟩ = none := by
  have facts : ((drive attemptOrderly (Lifecycle.new (State.new {})) switching).map fun r =>
      (r.1.admitted, r.1.effects.entries.isEmpty, r.1.bound.get? ⟨"w", 1, 2⟩)) =
        some ([⟨1, command 1 "v" true⟩, ⟨1, command 2 "x" true⟩], true, some true) := by
    decide +kernel
  obtain ⟨⟨s, labels⟩, driven, found⟩ := map_eq_some_iff.mp facts
  simp only [Prod.mk.injEq] at found
  obtain ⟨admitted, empty, bound⟩ := found
  have run := attemptOrderly_run driven
  have quiet := quiet_of_isEmpty empty
  have top : (⟨1, command 2 "x" true⟩ : Admission) ∈ s.admitted := by
    rw [admitted]
    simp
  have highest : ∀ a ∈ s.admitted, a.revision ≤ Admission.revision ⟨1, command 2 "x" true⟩ := by
    rw [admitted]
    decide
  obtain ⟨held, others⟩ := desire_applied run quiet top highest
  refine ⟨labels, s, run, quiet, admitted, held.mpr ⟨rfl, bound⟩, ?_⟩
  exact others ⟨1, command 1 "v" true⟩ (by rw [admitted]; simp) (by decide) (by decide)

open Lifecycle in
/-- Two commands are admitted before the first effect has run; the older effect runs last, and the
subscription is held although the highest revision asks for none. -/
theorem older_desire_wins : ∃ labels s,
    Run (Lifecycle.Step Env.inert) (Lifecycle.new (State.new {})) labels s ∧ s.Quiet ∧
    s.admitted = [⟨1, command 1 "v" true⟩, ⟨1, command 2 "v" false⟩] ∧
    s.world.subs.get? ⟨1, "a", "v"⟩ = some ⟨"aa", 1⟩ := by
  have facts : ((drive attempt (Lifecycle.new (State.new {})) overtaken).map fun r =>
      (r.1.admitted, r.1.effects.entries.isEmpty, r.1.world.subs.get? ⟨1, "a", "v"⟩)) =
        some ([⟨1, command 1 "v" true⟩, ⟨1, command 2 "v" false⟩], true, some ⟨"aa", 1⟩) := by
    decide +kernel
  obtain ⟨⟨s, labels⟩, driven, found⟩ := map_eq_some_iff.mp facts
  simp only [Prod.mk.injEq] at found
  obtain ⟨admitted, empty, held⟩ := found
  exact ⟨labels, s, attempt_run driven, quiet_of_isEmpty empty, admitted, held⟩

end AgentGrid.Terminal
