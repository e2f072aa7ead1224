import AgentGrid.Stream.Routing

/-!
# The slot of the pending frame

A fresh frame takes the slot before it is registered, and is registered as pending.  The slot and
the pending frame stay together as long as the slot is not emptied for a frame that is not yet
registered.
-/

namespace AgentGrid.Stream

open AgentGrid.Lib AgentGrid.Host List GoMap

/-- The step empties the slot only for a frame that is registered as pending. -/
@[simp] def Label.slotted (b : Backend) : Label → Bool
  | .adoptPendingFrame => b.slot.all fun slot => (b.frames.get? slot.frameID).any fun x => x.threadID = ""
  | .reapOnce now =>
    b.slot.all fun slot => decide (now < slot.deadline) || (b.frames.get? slot.frameID).any fun x => x.threadID = ""
  | _ => true

namespace Backend

variable {b b' : Backend} {a : Label}

def Holds (b : Backend) (f : FrameID) : Prop := ∃ slot, b.slot = some slot ∧ slot.frameID = f

def Pending (b : Backend) (f : FrameID) : Prop :=
  ∃ x, b.frames.get? f = some x ∧ x.threadID = ""

/-- The slot is held for every pending frame and for every bind that is under way. -/
structure Slotted (b : Backend) : Prop where
  pending : ∀ f, b.Pending f → b.Holds f
  registering : ∀ e ∈ b.registering, b.Holds e.1 ∧ ¬ b.Pending e.1
  single : b.registering.length ≤ 1
  named : b.Named

variable {f g : FrameID}

theorem Holds.unique (first : b.Holds f) (second : b.Holds g) : f = g := by
  obtain ⟨slot, held, rfl⟩ := first
  obtain ⟨slot', held', rfl⟩ := second
  cases held.symm.trans held'
  rfl

theorem Slotted.settled (slotted : b.Slotted) (pending : b.Pending f) : b.registering = [] := by
  refine eq_nil_iff_forall_not_mem.mpr fun e mem => ?_
  obtain ⟨held, unregistered⟩ := slotted.registering e mem
  have same := (slotted.pending f pending).unique held
  exact unregistered (same ▸ pending)

theorem Slotted.free (slotted : b.Slotted) (empty : b.slot = none) : (∀ f, ¬ b.Pending f) ∧ b.registering = [] := by
  have none_held : ∀ f, ¬ b.Holds f := by
    rintro f ⟨slot, held, _⟩
    cases empty.symm.trans held
  refine ⟨fun f pending => none_held f (slotted.pending f pending), ?_⟩
  exact eq_nil_iff_forall_not_mem.mpr fun e mem => none_held _ (slotted.registering e mem).1

variable {x : FrameBinding}

theorem pending_of_set {frames : GoMap FrameID FrameBinding} {y : FrameBinding}
    (named : x.threadID ≠ "") (found : (frames.set f x).get? g = some y) (empty : y.threadID = "") :
    g ≠ f ∧ frames.get? g = some y := by
  rw [get?_set] at found
  by_cases same : g = f
  · rw [if_pos same] at found
    cases found
    exact absurd empty named
  · rw [if_neg same] at found
    exact ⟨same, found⟩

theorem Slotted.fewer (slotted : b.Slotted) (fewer : ∀ f, b'.Pending f → b.Pending f)
    (slot : b'.slot = b.slot) (registering : b'.registering = b.registering) (named : b'.Named) : b'.Slotted := by
  have held : ∀ f, b.Holds f → b'.Holds f := fun f => by
    unfold Holds
    rw [slot]
    exact id
  refine ⟨fun f pending => held f (slotted.pending f (fewer f pending)), ?_, ?_, named⟩
  · rw [registering]
    intro e mem
    obtain ⟨holds, unregistered⟩ := slotted.registering e mem
    exact ⟨held _ holds, fun pending => unregistered (fewer _ pending)⟩
  · rw [registering]
    exact slotted.single

theorem Slotted.same (slotted : b.Slotted) (tables : SameTables b b') (named : b'.Named) : b'.Slotted := by
  refine slotted.fewer ?_ tables.slot tables.registering named
  unfold Pending
  rw [tables.frames]
  exact fun _ pending => pending

theorem Slotted.emptied (none_pending : ∀ f, ¬ b'.Pending f) (settled : b'.registering = [])
    (named : b'.Named) : b'.Slotted :=
  ⟨fun f pending => absurd pending (none_pending f), by simp [settled], by simp [settled], named⟩

theorem Slotted.registerPending (slotted : b.Slotted) {w : String} (mem : (f, w) ∈ b.registering) {n : Nat} :
    ({ b with
        nextGeneration := n, frames := b.frames.set f x
        registering := b.registering.erase (f, w) } : Backend).Slotted := by
  have holds := (slotted.registering _ mem).1
  have alone : b.registering = [(f, w)] := by
    obtain ⟨e, only⟩ := length_eq_one_iff.mp (Nat.le_antisymm slotted.single (length_pos_of_mem mem))
    rw [only] at mem ⊢
    rw [mem_singleton.mp mem]
  have none_left : b.registering.erase (f, w) = [] := by rw [alone, erase_cons_head]
  refine ⟨?_, by simp [none_left], by simp [none_left], slotted.named⟩
  rintro g ⟨y, found, empty⟩
  by_cases same : g = f
  · subst same
    exact holds
  · rw [get?_set_of_ne _ same] at found
    exact slotted.pending g ⟨y, found, empty⟩

theorem Slotted.acquire (slotted : b.Slotted) (empty : b.slot = none) (slot : PendingSlot) (w : String) :
    ({ b with slot := some slot, registering := (slot.frameID, w) :: b.registering } : Backend).Slotted := by
  obtain ⟨none_pending, settled⟩ := slotted.free empty
  refine ⟨fun f pending => absurd pending (none_pending f), ?_, by simp [settled], slotted.named⟩
  intro e mem
  rw [settled] at mem
  obtain rfl := mem_singleton.mp mem
  exact ⟨⟨slot, rfl, rfl⟩, none_pending _⟩

theorem releaseFrame_registering (f : FrameID) : (b.releaseFrame f).registering = b.registering := by
  unfold releaseFrame
  split <;> rfl

theorem releaseFrame_pending (pending : (b.releaseFrame f).Pending g) : g ≠ f ∧ b.Pending g := by
  obtain ⟨x, found, empty⟩ := pending
  unfold releaseFrame at found
  cases held : b.frames.get? f with
  | none =>
    rw [held] at found
    refine ⟨?_, x, found, empty⟩
    rintro rfl
    cases held.symm.trans found
  | some =>
    rw [held] at found
    obtain ⟨other, before⟩ := get?_of_delete found
    exact ⟨other, x, before, empty⟩

theorem releaseFrame_slot (f : FrameID) : (b.releaseFrame f).slot = b.slot ∨
      b.Pending f ∧ b.Holds f ∧ (b.releaseFrame f).slot = none := by
  unfold releaseFrame
  cases found : b.frames.get? f with
  | none => exact .inl rfl
  | some x =>
    dsimp only
    split
    · rename_i own
      simp only [Bool.and_eq_true, decide_eq_true_eq] at own
      refine .inr ⟨⟨x, found, own.1⟩, ?_, rfl⟩
      cases held : b.slot with
      | none => simp [held] at own
      | some slot => exact ⟨slot, held, by simpa [held] using own.2⟩
    · exact .inl rfl

theorem Slotted.releaseFrame (slotted : b.Slotted) (f : FrameID) : (b.releaseFrame f).Slotted := by
  have named := slotted.named.of_reader (releaseFrame_reader f)
  rcases releaseFrame_slot f with kept | ⟨pending, holds, emptied⟩
  · exact slotted.fewer (fun g pending => (releaseFrame_pending pending).2) kept (releaseFrame_registering f) named
  refine .emptied (fun g left => ?_) ?_ named
  · obtain ⟨other, was⟩ := releaseFrame_pending left
    exact other ((slotted.pending g was).unique holds)
  · rw [releaseFrame_registering, slotted.settled pending]

theorem failFrame_pending {message : String} (pending : (b.failFrame f message).Pending g) : b.Pending g := by
  obtain ⟨x, found, empty⟩ := pending
  unfold failFrame at found
  cases held : b.frames.get? f with
  | none =>
    rw [held] at found
    exact ⟨x, found, empty⟩
  | some y =>
    rw [held] at found
    dsimp only at found
    split at found
    · exact ⟨x, found, empty⟩
    rcases get?_of_set found with ⟨rfl, rfl⟩ | before
    · exact ⟨y, held, empty⟩
    · exact ⟨x, before, empty⟩

variable {slot : PendingSlot}

theorem reapOnce_pending {now : Time} (held : b.slot = some slot) (expired : ¬ now < slot.deadline)
    (pending : (b.reapOnce now).Pending g) : g ≠ slot.frameID ∧ b.Pending g := by
  unfold reapOnce at pending
  rw [held] at pending
  dsimp only at pending
  rw [if_neg expired] at pending
  obtain ⟨other, was⟩ := releaseFrame_pending pending
  have left := failFrame_pending was
  exact ⟨other, left⟩

theorem reapOnce_registering (now : Time) : (b.reapOnce now).registering = b.registering := by
  unfold reapOnce
  split
  · rfl
  split
  · rfl
  · rw [releaseFrame_registering, (failFrame_kept _ _).2.2.1]

theorem Slotted.step (slotted : b.Slotted) (step : Step b a b') (good : a.slotted b = true) : b'.Slotted := by
  have named := slotted.named.step step
  cases step.taken with
  | acquirePendingSlot f w now empty => exact slotted.acquire empty ⟨f, now + initAdoptDeadline⟩ w
  | registerPendingFrame f w mem => exact slotted.registerPending mem
  | registerBoundFrame f w t path sid nonempty =>
    unfold registerBoundFrame at named ⊢
    split
    · exact slotted
    rename_i accepted
    rw [if_neg accepted] at named
    refine slotted.fewer ?_ rfl rfl named
    rintro g ⟨x, found, empty⟩
    exact ⟨x, (pending_of_set nonempty found empty).2, empty⟩
  | handleThreadStarted note => exact slotted.same (handleThreadStarted_same note) named
  | adoptPendingFrame note place =>
    unfold adoptPendingFrame at named ⊢
    cases held : b.slot with
    | none =>
      rw [held] at named
      exact slotted.same ⟨rfl, rfl, held.symm, rfl⟩ named
    | some slot =>
      rw [held] at named
      dsimp only at named ⊢
      cases found : b.frames.get? slot.frameID with
      | none => simp [held, found] at good
      | some x =>
        rw [found] at named
        have pending : b.Pending slot.frameID := ⟨x, found, by simpa [held, found] using good⟩
        refine .emptied ?_ (slotted.settled pending) named
        rintro g ⟨y, left, empty⟩
        obtain ⟨other, was⟩ := pending_of_set (slotted.named.1 note place) left empty
        exact other ((slotted.pending g ⟨y, was, empty⟩).unique ⟨slot, held, rfl⟩)
  | confirm note f place =>
    unfold Backend.confirm at named ⊢
    cases found : b.frames.get? f with
    | none =>
      rw [found] at named
      exact slotted.same ⟨rfl, rfl, rfl, rfl⟩ named
    | some =>
      rw [found] at named
      refine slotted.fewer ?_ rfl rfl named
      rintro g ⟨y, left, empty⟩
      exact ⟨y, (pending_of_set (slotted.named.2 note f place) left empty).2, empty⟩
  | handleNotification t => exact slotted.same (handleNotification_same t) named
  | handleRequest req => exact slotted.same (handleRequest_same req) named
  | inferFrame req => exact slotted.same (hold_same req b.soleFrame).1 named
  | releaseFrame f => exact slotted.releaseFrame f
  | reapOnce now =>
    cases held : b.slot with
    | none => rwa [reapOnce, held]
    | some slot =>
      by_cases early : now < slot.deadline
      · simp only [reapOnce, held, if_pos early]
        exact slotted
      have pending : b.Pending slot.frameID := by
        cases found : b.frames.get? slot.frameID with
        | none => simp [held, found, early] at good
        | some x => exact ⟨x, found, by simpa [held, found, early] using good⟩
      refine .emptied (fun g left => ?_) ?_ named
      · obtain ⟨other, was⟩ := reapOnce_pending held early left
        exact other ((slotted.pending g was).unique ⟨slot, held, rfl⟩)
      · rw [reapOnce_registering, slotted.settled pending]

/-! ## Slot and pending frame stay together -/

/-- The steps that empty the slot only for a pending frame. -/
def SlottedStep (b : Backend) (a : Label) (b' : Backend) : Prop :=
  Step b a b' ∧ a.slotted b = true

theorem Slotted.new : Backend.new.Slotted := by
  refine ⟨?_, forall_mem_nil _, Nat.zero_le 1, .new⟩
  rintro f ⟨x, found, _⟩
  cases found

theorem slotted_of_run {labels : List Label} (run : Run SlottedStep Backend.new labels b) : b.Slotted :=
  run.invariant Slotted .new fun _ _ _ kept step => kept.step step.1 step.2

theorem slot_change (step : Step b a b') (good : a.slotted b = true) (named : b.Named)
    (held : b.slot = some slot) (changed : b'.slot ≠ some slot) :
    b'.slot = none ∧ (a = .adoptPendingFrame ∧ (∃ x, b'.frames.get? slot.frameID = some x ∧ x.threadID ≠ "") ∨
      a = .releaseFrame slot.frameID ∨ ∃ now, a = .reapOnce now ∧ slot.deadline ≤ now) := by
  have unchanged : SameTables b b' → False := fun tables => changed (tables.slot.trans held)
  cases step.taken with
  | acquirePendingSlot f w now empty => cases held.symm.trans empty
  | registerPendingFrame => exact absurd held changed
  | registerBoundFrame =>
    unfold registerBoundFrame at changed
    split at changed <;> exact absurd held changed
  | handleThreadStarted note => exact (unchanged (handleThreadStarted_same note)).elim
  | adoptPendingFrame note place =>
    cases found : b.frames.get? slot.frameID with
    | none => simp [held, found] at good
    | some =>
      rw [adoptPendingFrame, held]
      dsimp only
      rw [found]
      exact ⟨rfl, .inl ⟨rfl, _, get?_set_self _ _ _, named.1 note place⟩⟩
  | confirm =>
    unfold Backend.confirm at changed
    split at changed <;> exact absurd held changed
  | handleNotification t => exact (unchanged (handleNotification_same t)).elim
  | handleRequest req => exact (unchanged (handleRequest_same req)).elim
  | inferFrame req => exact (unchanged (hold_same req b.soleFrame).1).elim
  | releaseFrame f =>
    rcases releaseFrame_slot f with kept | ⟨_, ⟨own, holds, rfl⟩, emptied⟩
    · exact absurd (kept.trans held) changed
    cases held.symm.trans holds
    exact ⟨emptied, .inr (.inl rfl)⟩
  | reapOnce now =>
    by_cases early : now < slot.deadline
    · refine absurd ?_ changed
      simp only [reapOnce, held, if_pos early]
    refine ⟨?_, .inr (.inr ⟨now, rfl, Int.not_lt.mp early⟩)⟩
    simp only [reapOnce, held, if_neg early]
    rcases releaseFrame_slot (b := Backend.failFrame { b with slot := none } slot.frameID
      "stream backend: CLI did not emit thread/started before adopt deadline")
        slot.frameID with kept | ⟨_, _, emptied⟩
    · rw [kept, (failFrame_kept _ _).2.1]
    · exact emptied

theorem releaseFrame_get? (f : FrameID) : (b.releaseFrame f).frames.get? f = none := by
  unfold releaseFrame
  cases found : b.frames.get? f with
  | none => exact found
  | some => exact get?_delete_self _ _

/-- In every run in which the slot is emptied only for a frame that is registered as pending, each
pending frame is the one in the slot and can still be adopted or reaped, at most one bind holds
the slot, and the slot becomes free only by the adoption, the release or the reaping of its
frame. -/
theorem pending_frame_in_slot {labels : List Label} (run : Run SlottedStep Backend.new labels b) :
    (∀ f x, b.frames.get? f = some x → x.threadID = "" →
      ∃ deadline, b.slot = some ⟨f, deadline⟩ ∧ (b.reapOnce deadline).frames.get? f = none ∧
        ∀ note, (b.adoptPendingFrame note).threads.get? note.threadID = some f) ∧
      b.registering.length ≤ 1 ∧ (∀ e ∈ b.registering, ∃ deadline, b.slot = some ⟨e.1, deadline⟩) ∧
      ∀ a b' slot, SlottedStep b a b' → b.slot = some slot → b'.slot ≠ some slot →
        b'.slot = none ∧ (a = .adoptPendingFrame ∧ (∃ x, b'.frames.get? slot.frameID = some x ∧ x.threadID ≠ "") ∨
          a = .releaseFrame slot.frameID ∨ ∃ now, a = .reapOnce now ∧ slot.deadline ≤ now) := by
  have slotted := slotted_of_run run
  refine ⟨?_, slotted.single, ?_, ?_⟩
  · intro f x found empty
    obtain ⟨⟨g, deadline⟩, held, rfl⟩ := slotted.pending f ⟨x, found, empty⟩
    refine ⟨deadline, held, ?_, ?_⟩
    · simp only [reapOnce, held, if_neg (Int.lt_irrefl deadline)]
      exact releaseFrame_get? g
    · intro note
      simp only [adoptPendingFrame, held, found]
      exact get?_set_self _ _ _
  · intro e mem
    obtain ⟨⟨⟨g, deadline⟩, held, same⟩, _⟩ := slotted.registering e mem
    cases same
    exact ⟨deadline, held⟩
  · intro a b' slot step held changed
    exact slot_change step.1 step.2 slotted.named held changed

/-- A frame that adopts its thread, and the next one, which is reaped. -/
theorem waiting_frame_in_slot : ∃ b labels, Run SlottedStep Backend.new labels b ∧ b.slot = none ∧
      b.threads.get? "t" = some "f" ∧ b.frames.get? "g" = none ∧ b.registering.length ≤ 1 := by
  have run := attempt_run (fun a b => a.slotted b)
    [.acquirePendingSlot "f" "" 0, .registerPendingFrame "f" "", .handleThreadStarted ⟨"t", "", ""⟩,
      .adoptPendingFrame, .confirm, .acquirePendingSlot "g" "" 1, .registerPendingFrame "g" "", .reapOnce 61] rfl
  exact ⟨_, _, run, rfl, rfl, rfl, (pending_frame_in_slot run).2.1⟩

/-- A thread that no bind asked for is reported between the taking of the slot and the
registration: the frame is then pending without the slot, which the next bind takes. -/
theorem unasked_thread_strands_frame :
    ∃ labels b x, Run Step Backend.new labels b ∧ b.frames.get? "f" = some x ∧ x.threadID = "" ∧
      b.slot = some ⟨"g", 61⟩ := by
  have run := (attempt_run (fun _ _ => true)
    [.acquirePendingSlot "f" "" 0, .handleThreadStarted ⟨"t", "", ""⟩, .adoptPendingFrame,
      .registerPendingFrame "f" "", .acquirePendingSlot "g" "" 1] rfl).mono fun _ _ _ step => step.1
  exact ⟨_, _, _, run, rfl, rfl, rfl⟩

end Backend

end AgentGrid.Stream
