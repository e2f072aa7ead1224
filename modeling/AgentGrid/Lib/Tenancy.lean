import Mathlib.Data.List.Basic

/-!
# A post with one worker at a time

A post is held by at most one worker.  It is vacated by a decision; the order to dismiss the
worker goes out later, through the handle that the post keeps, and the worker is gone later
still.  If a new worker is appointed only when every dismissed one is gone, then whoever is
around holds the post or is on the way out, and the post is vacant in fact, not only on paper.
-/

namespace AgentGrid.Lib

open List

/-- A post, the workers that are not gone, and those that were dismissed. -/
structure Post (W : Type) where
  (tenant handle : Option W)
  /-- Dismissals that are decided and have not gone out. -/
  orders : Nat
  (around dismissed : List W)

namespace Post

variable {W : Type} {p : Post W} {u : W}

/-- The worker that holds the post is alone and can be dismissed; whoever is around of a
vacant post was dismissed or is about to be. -/
structure Single (p : Post W) : Prop where
  held : ∀ u, p.tenant = some u → p.handle = some u ∧ p.orders = 0 ∧ ∀ v ∈ p.around, v = u
  vacant : p.tenant = none → ∀ v ∈ p.around, v ∈ p.dismissed ∨ (0 < p.orders ∧ p.handle = some v)
  dropped : p.tenant = none → p.orders = 0 → p.handle = none

namespace Single

theorem unheld (dismissed : List W) : Single ⟨none, none, 0, [], dismissed⟩ :=
  ⟨fun _ held => (by cases held), fun _ _ mem => absurd mem not_mem_nil, fun _ _ => rfl⟩

theorem kept {q : Post W} (single : p.Single) (tenant : q.tenant = p.tenant)
    (handle : q.handle = p.handle) (orders : q.orders = p.orders)
    (fewer : ∀ v ∈ q.around, v ∈ p.around) (more : ∀ v ∈ p.dismissed, v ∈ q.dismissed) : q.Single where
  held u held := by
    obtain ⟨named, none_out, alone⟩ := single.held u (tenant.symm.trans held)
    exact ⟨handle.trans named, orders.trans none_out, fun v mem => alone v (fewer v mem)⟩
  vacant vacant v mem := by
    rw [handle, orders]
    exact (single.vacant (tenant.symm.trans vacant) v (fewer v mem)).imp_left (more v)
  dropped vacant none_out := handle.trans (single.dropped (tenant.symm.trans vacant) (orders.symm.trans none_out))

theorem vacate (single : p.Single) (tenant : p.tenant = some u) :
    Single { p with tenant := none, orders := p.orders + 1 } where
  held _ held := by cases held
  vacant _ v mem := by
    obtain ⟨handle, _, alone⟩ := single.held u tenant
    exact .inr ⟨Nat.succ_pos _, by rw [handle, alone v mem]⟩
  dropped _ none_out := absurd none_out (Nat.succ_ne_zero _)

theorem dismiss {n : Nat} (single : p.Single) (orders : p.orders = n + 1) : Single { p with
      handle := none, orders := n, dismissed := p.handle.toList ++ p.dismissed } where
  held u tenant := by
    have idle := (single.held u tenant).2.1
    cases orders.symm.trans idle
  vacant tenant v mem := by
    refine .inl (mem_append.mpr ?_)
    rcases single.vacant tenant v mem with before | ⟨_, handle⟩
    · exact .inr before
    · exact .inl (by rw [handle]; exact mem_singleton_self v)
  dropped _ _ := rfl

theorem nobody (single : p.Single) (tenant : p.tenant = none) (orders : p.orders = 0)
    (gone : ∀ v ∈ p.around, v ∉ p.dismissed) : p.around = [] := by
  refine eq_nil_iff_forall_not_mem.mpr fun v mem => ?_
  rcases single.vacant tenant v mem with dismissed | ⟨decided, _⟩
  · exact gone v mem dismissed
  · exact absurd orders (Nat.ne_of_gt decided)

theorem appoint (u : W) (dismissed : List W) : Single ⟨some u, some u, 0, [u], dismissed⟩ where
  held v held := by
    cases held
    exact ⟨rfl, rfl, fun _ mem => mem_singleton.mp mem⟩
  vacant tenant := by cases tenant
  dropped tenant := by cases tenant

theorem eq_tenant (single : p.Single) {v : W} (tenant : p.tenant = some u) (mem : v ∈ p.around) : v = u :=
  (single.held u tenant).2.2 v mem

/-- A worker is found gone: if it held the post, nobody else is around. -/
theorem resign (single : p.Single) (orders : p.orders = 0) (here : u ∈ p.around)
    (around : List W) (rest : ∀ v ∈ around, v ∈ p.around ∧ v ≠ u) : Single ⟨none, none, 0, around, p.dismissed⟩ where
  held _ held := by cases held
  vacant _ v mem := by
    obtain ⟨before, other⟩ := rest v mem
    cases tenant : p.tenant with
    | some => exact absurd ((single.eq_tenant tenant before).trans (single.eq_tenant tenant here).symm) other
    | none =>
      rcases single.vacant tenant v before with dismissed | ⟨decided, _⟩
      · exact .inl dismissed
      · exact absurd orders (Nat.ne_of_gt decided)
  dropped _ _ := rfl

end Single

end Post

end AgentGrid.Lib
