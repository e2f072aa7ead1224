import AgentGrid.Lib.Pairing
import AgentGrid.Stream.Backend

/-!
# Routing between threads and frames

The table of threads and the threads in the table of frames are to be inverse to each other.  A
step that would break this is called disorderly: it registers a frame that is bound already, or
it relies on a lookup that a bind has overtaken.
-/

namespace AgentGrid.Stream

open AgentGrid.Lib AgentGrid.Host Option Function GoMap

/-- The thread the frame is bound to, if it is not pending. -/
@[simp] def FrameBinding.thread (binding : FrameBinding) : Option ThreadID :=
  if binding.threadID = "" then none else some binding.threadID

theorem FrameBinding.thread_eq_some {binding : FrameBinding} {t : ThreadID} :
    binding.thread = some t ↔ t ≠ "" ∧ binding.threadID = t := by
  unfold FrameBinding.thread
  split
  · rename_i pending
    rw [pending]
    simp only [reduceCtorEq, false_iff, not_and]
    exact fun named same => named same.symm
  rename_i bound
  rw [some.injEq]
  exact ⟨fun same => ⟨same ▸ bound, same⟩, fun both => both.2⟩

theorem FrameBinding.thread_of_named {binding : FrameBinding} (named : binding.threadID ≠ "") :
    binding.thread = some binding.threadID := if_neg named

def threadsOf (frames : GoMap FrameID FrameBinding) (f : FrameID) : Option ThreadID :=
  (frames.get? f).bind FrameBinding.thread

theorem threadsOf_set (frames : GoMap FrameID FrameBinding) (f : FrameID) (x : FrameBinding) :
    threadsOf (frames.set f x) = Function.update (threadsOf frames) f x.thread := by
  funext g
  rw [threadsOf, get?_set, update_apply]
  split <;> rfl

theorem threadsOf_delete (frames : GoMap FrameID FrameBinding) (f : FrameID) :
    threadsOf (frames.delete f) = Function.update (threadsOf frames) f none := by
  funext g
  rw [threadsOf, get?_delete, update_apply]
  split <;> rfl

namespace Backend

/-- A thread is owned by a frame exactly when the frame is registered with the thread. -/
def Routed (b : Backend) : Prop :=
  ∀ t f, b.threads.get? t = some f ↔ t ≠ "" ∧ ∃ x, b.frames.get? f = some x ∧ x.threadID = t

theorem threadsOf_eq_some {frames : GoMap FrameID FrameBinding} {f : FrameID} {t : ThreadID} :
    threadsOf frames f = some t ↔ t ≠ "" ∧ ∃ x, frames.get? f = some x ∧ x.threadID = t := by
  rw [threadsOf, bind_eq_some_iff]
  constructor
  · rintro ⟨x, found, bound⟩
    obtain ⟨named, same⟩ := FrameBinding.thread_eq_some.mp bound
    exact ⟨named, x, found, same⟩
  · rintro ⟨named, x, found, same⟩
    exact ⟨x, found, FrameBinding.thread_eq_some.mpr ⟨named, same⟩⟩

theorem routed_iff {b : Backend} : b.Routed ↔ Inverse b.threads.get? (threadsOf b.frames) := by
  simp only [Routed, Inverse, threadsOf_eq_some]

/-- The read loop handles a thread that has a name. -/
def Named (b : Backend) : Prop :=
  (∀ note, b.reader = .adopting note → note.threadID ≠ "") ∧
    ∀ note f, b.reader = .confirming note f → note.threadID ≠ ""

end Backend

/-- The step does not bind a frame twice, and finds what it looked up before. -/
@[simp] def Label.orderly (b : Backend) : Label → Bool
  | .registerPendingFrame f _ => (threadsOf b.frames f).isNone
  | .registerBoundFrame f _ t _ _ =>
    ((b.threads.get? t).any fun g => g ≠ f) || (threadsOf b.frames f).all fun u => u = t
  | .adoptPendingFrame =>
    match b.reader, b.slot with
    | .adopting note, some slot =>
      (b.frames.get? slot.frameID).isNone ||
        ((b.threads.get? note.threadID).isNone && (threadsOf b.frames slot.frameID).isNone ||
          threadsOf b.frames slot.frameID == some note.threadID)
    | _, _ => true
  | .confirm =>
    match b.reader with
    | .confirming note f => (b.frames.get? f).isNone || threadsOf b.frames f == some note.threadID
    | _ => true
  | _ => true

namespace Backend

variable {b b' : Backend} {a : Label}

/-! ## What each operation does to the tables -/

/-- The two backends have the same frames, threads, slot and binds. -/
structure SameTables (b b' : Backend) : Prop where
  frames : b'.frames = b.frames
  threads : b'.threads = b.threads
  slot : b'.slot = b.slot
  registering : b'.registering = b.registering

theorem handleThreadStarted_same (note : ThreadStarted) : SameTables b (b.handleThreadStarted note) := by
  fun_cases b.handleThreadStarted note <;> exact ⟨rfl, rfl, rfl, rfl⟩

theorem handleNotification_same (t : ThreadID) : SameTables b (b.handleNotification t) := by
  unfold handleNotification
  split <;> exact ⟨rfl, rfl, rfl, rfl⟩

theorem hold_same (req : ServerRequest) (f : FrameID) :
    SameTables b (b.hold req f) ∧ (b.hold req f).reader = .idle := by
  fun_cases b.hold req f <;> exact ⟨⟨rfl, rfl, rfl, rfl⟩, rfl⟩

theorem handleRequest_same (req : ServerRequest) : SameTables b (b.handleRequest req) := by
  fun_cases b.handleRequest req
  all_goals first | exact ⟨rfl, rfl, rfl, rfl⟩ | exact (hold_same _ _).1

theorem Routed.same (routed : b.Routed) (tables : SameTables b b') : b'.Routed := by
  rwa [Routed, tables.frames, tables.threads]

theorem failFrame_threadsOf (f : FrameID) (message : String) :
    threadsOf (b.failFrame f message).frames = threadsOf b.frames := by
  unfold failFrame
  cases found : b.frames.get? f with
  | none => rfl
  | some x =>
    dsimp only
    split
    · rfl
    rw [threadsOf_set]
    conv_rhs => rw [← update_eq_self f (threadsOf b.frames)]
    rw [show threadsOf b.frames f = x.thread by simp [threadsOf, found]]
    rfl

theorem failFrame_kept (f : FrameID) (message : String) :
    (b.failFrame f message).threads = b.threads ∧ (b.failFrame f message).slot = b.slot ∧
      (b.failFrame f message).registering = b.registering ∧ (b.failFrame f message).reader = b.reader := by
  fun_cases b.failFrame f message <;> exact ⟨rfl, rfl, rfl, rfl⟩

theorem Routed.releaseFrame (routed : b.Routed) (f : FrameID) : (b.releaseFrame f).Routed := by
  have inverse := routed_iff.mp routed
  unfold Backend.releaseFrame
  cases found : b.frames.get? f with
  | none => exact routed
  | some x =>
    rw [routed_iff]
    dsimp only
    rw [threadsOf_delete]
    by_cases pending : x.threadID = ""
    · rw [if_pos pending]
      exact (inverse.forget_iff f).mpr (by simp [threadsOf, found, pending])
    · rw [if_neg pending, get?_delete_eq]
      exact inverse.unlink (by simp [threadsOf, found, pending])

theorem Routed.reapOnce (routed : b.Routed) (now : Time) : (b.reapOnce now).Routed := by
  fun_cases b.reapOnce now
  all_goals try exact routed
  refine Routed.releaseFrame ?_ _
  rw [routed_iff, failFrame_threadsOf, (failFrame_kept _ _).1]
  exact routed_iff.mp routed

/-- The tables after a step, from tables that are inverse: they still are exactly if the step is
orderly. -/
theorem Routed.step_iff (routed : b.Routed) (named : b.Named) (step : Step b a b') :
    b'.Routed ↔ a.orderly b = true := by
  have inverse := routed_iff.mp routed
  cases step.taken with
  | acquirePendingSlot => exact iff_of_true routed rfl
  | registerPendingFrame f =>
    rw [routed_iff]
    rw [threadsOf_set]
    exact (inverse.forget_iff f).trans isNone_iff_eq_none.symm
  | registerBoundFrame f w t path sid nonempty =>
    unfold registerBoundFrame
    dsimp only [Label.orderly]
    by_cases refused : ((b.threads.get? t).any fun g => g ≠ f) = true
    · rw [if_pos refused, refused]
      exact iff_of_true routed rfl
    rw [if_neg refused, routed_iff]
    rw [threadsOf_set, get?_set_eq, FrameBinding.thread_of_named nonempty]
    refine (inverse.link_iff t f).trans ?_
    cases owned : b.threads.get? t with
    | none => cases held : threadsOf b.frames f <;> simp [eq_comm]
    | some g =>
      obtain rfl : g = f := by simpa [owned] using refused
      have held := (inverse t g).mp owned
      simp [held]
  | handleThreadStarted note => exact iff_of_true (routed.same (handleThreadStarted_same note)) rfl
  | adoptPendingFrame note place =>
    simp only [adoptPendingFrame, Label.orderly, place]
    cases held : b.slot with
    | none => exact iff_of_true routed rfl
    | some slot =>
      dsimp only
      cases found : b.frames.get? slot.frameID with
      | none => exact iff_of_true routed rfl
      | some x =>
        rw [routed_iff]
        have bound : (⟨x.generation, x.worktreePath, note.threadID, x.sessionID,
            x.rolloutPath, x.requestedID, x.observedID, x.failureReported⟩ :
            FrameBinding).thread = some note.threadID :=
          FrameBinding.thread_of_named (named.1 note place)
        rw [threadsOf_set, get?_set_eq, bound]
        refine (inverse.link_iff _ _).trans ?_
        simp
  | confirm note f place =>
    simp only [Backend.confirm, Label.orderly, place]
    cases found : b.frames.get? f with
    | none => exact iff_of_true routed rfl
    | some =>
      rw [routed_iff]
      rw [threadsOf_set, FrameBinding.thread_of_named (named.2 note f place)]
      refine (inverse.point_iff _ _).trans ?_
      simp
  | handleNotification t => exact iff_of_true (routed.same (handleNotification_same t)) rfl
  | handleRequest req => exact iff_of_true (routed.same (handleRequest_same req)) rfl
  | inferFrame req => exact iff_of_true (routed.same (hold_same req b.soleFrame).1) rfl
  | releaseFrame f => exact iff_of_true (routed.releaseFrame f) rfl
  | reapOnce now => exact iff_of_true (routed.reapOnce now) rfl

theorem releaseFrame_reader (f : FrameID) : (b.releaseFrame f).reader = b.reader := by
  unfold releaseFrame
  split <;> rfl

theorem reapOnce_reader (now : Time) : (b.reapOnce now).reader = b.reader := by
  fun_cases b.reapOnce now
  all_goals try rfl
  rw [releaseFrame_reader, (failFrame_kept _ _).2.2.2]

theorem Named.of_reader (named : b.Named) (same : b'.reader = b.reader) : b'.Named := by rwa [Named, same]

theorem Named.of_idle (idle : b'.reader = .idle) : b'.Named := by
  rw [Named, idle]
  exact ⟨fun _ other => absurd other (by simp), fun _ _ other => absurd other (by simp)⟩

theorem Named.step (named : b.Named) (step : Step b a b') : b'.Named := by
  cases step.taken with
  | acquirePendingSlot | registerPendingFrame => exact named
  | registerBoundFrame =>
    refine named.of_reader ?_
    unfold registerBoundFrame
    split <;> rfl
  | handleThreadStarted =>
    fun_cases b.handleThreadStarted _
    · exact named
    · exact ⟨by rintro _ ⟨⟩; assumption, by rintro _ _ ⟨⟩⟩
    · exact ⟨by rintro _ ⟨⟩, by rintro _ _ ⟨⟩; assumption⟩
  | adoptPendingFrame note place =>
    fun_cases b.adoptPendingFrame note
    · exact .of_idle rfl
    · exact .of_idle rfl
    · exact ⟨by rintro _ ⟨⟩, by rintro _ _ ⟨⟩; exact named.1 note place⟩
  | confirm =>
    refine .of_idle ?_
    unfold Backend.confirm
    split <;> rfl
  | handleNotification =>
    refine named.of_reader ?_
    unfold handleNotification
    split <;> rfl
  | handleRequest =>
    fun_cases b.handleRequest _
    · exact named
    · exact ⟨by rintro _ ⟨⟩, by rintro _ _ ⟨⟩⟩
    · exact .of_idle (hold_same _ _).2
  | inferFrame => exact .of_idle (hold_same _ _).2
  | releaseFrame f => exact named.of_reader (releaseFrame_reader f)
  | reapOnce now => exact named.of_reader (reapOnce_reader now)

/-! ## A bound frame keeps its thread -/

variable {f g : FrameID} {t : ThreadID}

theorem threadsOf_update_kept {frames : GoMap FrameID FrameBinding} {x : FrameBinding}
    (bound : threadsOf frames f = some t) (kept : g = f → x.thread = some t) :
    threadsOf (frames.set g x) f = some t := by
  rw [threadsOf_set]
  by_cases same : f = g
  · subst same
    rw [update_self]
    exact kept rfl
  · rwa [update_of_ne same]

theorem releaseFrame_thread (bound : threadsOf b.frames f = some t) :
    threadsOf (b.releaseFrame g).frames f = some t ∨ (b.releaseFrame g).frames.get? f = none := by
  unfold releaseFrame
  split
  · exact .inl bound
  by_cases same : f = g
  · subst same
    exact .inr (get?_delete_self _ _)
  · rw [threadsOf_delete, update_of_ne same]
    exact .inl bound

theorem thread_kept (step : Step b a b') (orderly : a.orderly b = true) (bound : threadsOf b.frames f = some t) :
    threadsOf b'.frames f = some t ∨ b'.frames.get? f = none := by
  cases step.taken with
  | acquirePendingSlot => exact .inl bound
  | registerPendingFrame =>
    refine .inl (threadsOf_update_kept bound ?_)
    rintro rfl
    simp [bound] at orderly
  | registerBoundFrame g w u path sid nonempty =>
    unfold registerBoundFrame
    split
    · exact .inl bound
    rename_i accepted
    refine .inl (threadsOf_update_kept bound ?_)
    rintro rfl
    dsimp only [Label.orderly] at orderly
    rw [Bool.eq_false_iff.mpr accepted, bound] at orderly
    obtain rfl : t = u := by simpa using orderly
    exact FrameBinding.thread_of_named nonempty
  | handleThreadStarted note =>
    rw [(handleThreadStarted_same note).frames]
    exact .inl bound
  | adoptPendingFrame note place =>
    fun_cases b.adoptPendingFrame note
    case case3 held _ found =>
      refine .inl (threadsOf_update_kept bound ?_)
      rintro rfl
      obtain rfl : t = note.threadID := by simpa [place, held, found, bound] using orderly
      obtain ⟨named, _⟩ := threadsOf_eq_some.mp bound
      exact FrameBinding.thread_of_named named
    all_goals exact .inl bound
  | confirm note g place =>
    fun_cases b.confirm note g
    · exact .inl bound
    · rename_i found
      refine .inl (threadsOf_update_kept bound ?_)
      rintro rfl
      obtain rfl : t = note.threadID := by simpa [place, found, bound] using orderly
      obtain ⟨named, _⟩ := threadsOf_eq_some.mp bound
      exact FrameBinding.thread_of_named named
  | handleNotification u =>
    rw [(handleNotification_same u).frames]
    exact .inl bound
  | handleRequest req =>
    rw [(handleRequest_same req).frames]
    exact .inl bound
  | inferFrame req =>
    rw [(hold_same req b.soleFrame).1.frames]
    exact .inl bound
  | releaseFrame => exact releaseFrame_thread bound
  | reapOnce =>
    fun_cases b.reapOnce _
    all_goals try exact .inl bound
    refine releaseFrame_thread ?_
    rwa [failFrame_threadsOf]

/-! ## Routing isolation -/

theorem Routed.new : Backend.new.Routed := by
  intro t f
  simp [Backend.new]

theorem Named.new : Backend.new.Named := .of_idle rfl

def OrderlyStep (b : Backend) (a : Label) (b' : Backend) : Prop :=
  Step b a b' ∧ a.orderly b = true

variable {labels : List Label}

theorem routed_of_run (run : Run OrderlyStep Backend.new labels b) : b.Routed ∧ b.Named :=
  run.invariant (fun b => b.Routed ∧ b.Named) ⟨.new, .new⟩ fun _ _ _ kept step =>
    ⟨(kept.1.step_iff kept.2 step.1).mpr step.2, kept.2.step step.1⟩

/-- In every run of orderly steps the tables of threads and of frames are inverse to each other,
no thread has two frames, a bound frame keeps its thread until it is released, and a notification
goes to the owner of its thread or to nobody.  The next step keeps it so exactly if it is
orderly. -/
theorem routing_isolated {labels : List Label} (run : Run OrderlyStep Backend.new labels b) : b.Routed ∧
      (∀ t f g x y, t ≠ "" → b.frames.get? f = some x → x.threadID = t →
        b.frames.get? g = some y → y.threadID = t → f = g) ∧
      (∀ t, ∀ e ∈ (b.handleNotification t).emitted, e ∈ b.emitted ∨
        ∃ f x, e = .notification t f ∧ b.frames.get? f = some x ∧ x.threadID = t) ∧
      ∀ a b', Step b a b' → (b'.Routed ↔ a.orderly b = true) ∧
        (a.orderly b = true → ∀ f x x', b.frames.get? f = some x → x.threadID ≠ "" →
          b'.frames.get? f = some x' → x'.threadID = x.threadID) := by
  obtain ⟨routed, named⟩ := routed_of_run run
  refine ⟨routed, ?_, ?_, ?_⟩
  · rintro t f g x y nonempty foundF rfl foundG same
    have first := (routed x.threadID f).mpr ⟨nonempty, x, foundF, rfl⟩
    have second := (routed x.threadID g).mpr ⟨nonempty, y, foundG, same⟩
    exact some.inj (first.symm.trans second)
  · intro t e mem
    unfold handleNotification at mem
    split at mem
    · exact .inl mem
    rename_i known
    rcases List.mem_append.mp mem with before | new
    · exact .inl before
    right
    obtain rfl := List.mem_singleton.mp new
    unfold frameForThread at known ⊢
    by_cases nameless : t = ""
    · simp [nameless] at known
    rw [if_neg nameless] at known ⊢
    cases owned : b.threads.get? t with
    | none => simp [owned] at known
    | some f =>
      obtain ⟨_, x, found, same⟩ := (routed t f).mp owned
      exact ⟨f, x, rfl, found, same⟩
  · intro a b' step
    refine ⟨routed.step_iff named step, ?_⟩
    intro orderly f x x' found nonempty found'
    have bound := threadsOf_eq_some.mpr ⟨nonempty, x, found, rfl⟩
    rcases thread_kept step orderly bound with kept | gone
    · obtain ⟨_, y, again, same⟩ := threadsOf_eq_some.mp kept
      cases found'.symm.trans again
      exact same
    · cases found'.symm.trans gone

/-- A backend that goes through critical sections which meet a condition. -/
theorem attempt_run (good : Label → Backend → Bool) (labels : List Label)
    (replayed : replay (guarded apply fun b a => good a b = true) Backend.new labels = some b) :
    Run (fun b a b' => Step b a b' ∧ good a b = true) Backend.new labels b := guarded_run replayed

/-- A fresh frame that adopts the thread its program starts. -/
theorem adopted_thread_routed :
    ∃ b labels, Run OrderlyStep Backend.new labels b ∧ b.threads.get? "t" = some "f" ∧ b.Routed := by
  have run := attempt_run (fun a b => a.orderly b)
    [.acquirePendingSlot "f" "" 0, .registerPendingFrame "f" "", .handleThreadStarted ⟨"t", "", ""⟩,
      .adoptPendingFrame, .confirm] rfl
  exact ⟨_, _, run, rfl, (routing_isolated run).1⟩

/-- A recovered frame is bound to the thread between the lookup for a notification of that thread
and its adoption by a fresh frame: then both frames have the thread. -/
theorem adoption_overtaken_by_recovery :
    ∃ labels b x y, Run Step Backend.new labels b ∧ b.threads.get? "t" = some "f" ∧
      b.frames.get? "f" = some x ∧ b.frames.get? "g" = some y ∧ x.threadID = "t" ∧ y.threadID = "t" ∧ ¬ b.Routed := by
  have run := (attempt_run (fun _ _ => true)
    [.acquirePendingSlot "f" "" 0, .registerPendingFrame "f" "", .handleThreadStarted ⟨"t", "", ""⟩,
      .registerBoundFrame "g" "" "t" "" "", .adoptPendingFrame] rfl).mono fun _ _ _ step => step.1
  refine ⟨_, _, _, _, run, rfl, rfl, rfl, rfl, rfl, fun routed => ?_⟩
  have owned := (routed "t" "g").mpr ⟨by decide, _, rfl, rfl⟩
  exact absurd owned (by decide)

end Backend

end AgentGrid.Stream
