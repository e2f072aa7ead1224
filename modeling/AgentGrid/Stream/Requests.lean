import AgentGrid.Stream.Routing

/-!
# The frame of a server request

A request is held and reported under the frame that a lookup of its thread finds.  Where the
lookup finds none, the request goes to the only registered frame, if there is just one.
-/

namespace AgentGrid.Stream

open AgentGrid.Lib AgentGrid.Host List

/-- The frame under which a held request is reported. -/
def Emission.requestFrame : Emission → Option FrameID
  | .approvalRequested frameID _ => some frameID
  | .questionRequested frameID _ => some frameID
  | _ => none

namespace Backend

variable {b b' : Backend} {a : Label} {req : ServerRequest} {f : FrameID}

theorem hold_attributed (req : ServerRequest) (f : FrameID) :
    (b.hold req f).attributed = b.attributed ++ [(req, f)] := by fun_cases b.hold req f <;> rfl

theorem hold_emitted (req : ServerRequest) (f : FrameID) :
    ∀ e ∈ (b.hold req f).emitted, e ∈ b.emitted ∨ e.requestFrame = some f := by
  have told : ∀ x : Emission, x.requestFrame = some f →
      ∀ e ∈ b.emitted ++ [x], e ∈ b.emitted ∨ e.requestFrame = some f := by
    intro x own e mem
    refine (mem_append.mp mem).imp_right fun new => ?_
    rw [mem_singleton.mp new, own]
  fun_cases b.hold req f
  all_goals first | exact fun e mem => .inl mem | exact told _ rfl

/-- The label is a step of the read loop with the request. -/
def Handles (b : Backend) (a : Label) (req : ServerRequest) : Prop :=
  a = .handleRequest req ∨ a = .inferFrame ∧ b.reader = .inferring req

/-- The step that decides a request holds it under the frame of the lookup, or else under the only
frame that is registered. -/
theorem decided_by (handles : b.Handles a req) (step : Step b a b')
    (decided : b'.attributed = b.attributed ++ [(req, f)]) :
    b' = b.hold req f ∧ (a = .handleRequest req ∧ f = b.frameForThread req.threadID ∨
        a = .inferFrame ∧ f = b.soleFrame) := by
  have undecided : b.attributed ≠ b.attributed ++ [(req, f)] := by simp
  have same_frame : ∀ g, (b.hold req g).attributed = b.attributed ++ [(req, f)] → g = f := by
    intro g attributed
    rw [hold_attributed, append_right_inj] at attributed
    cases attributed
    rfl
  rcases handles with rfl | ⟨rfl, place⟩
  · cases step.taken with
    | handleRequest =>
      unfold handleRequest at decided ⊢
      split at decided
      · exact absurd decided undecided
      split at decided
      · exact absurd decided undecided
      rename_i supported known
      rw [if_neg supported, if_neg known]
      obtain rfl := same_frame _ decided
      exact ⟨rfl, .inl ⟨rfl, rfl⟩⟩
  cases step.taken with
  | inferFrame other there =>
    cases place.symm.trans there
    obtain rfl := same_frame _ decided
    exact ⟨rfl, .inr ⟨rfl, rfl⟩⟩

/-- A request of a thread is attributed to the owner of the thread, or to no frame where none
owned it at the lookup, exactly if the fallback does not meet a single registered frame that is
not the owner; what is reported of it is reported under that frame. -/
theorem request_attributed_iff (handles : b.Handles a req) (step : Step b a b')
    (decided : b'.attributed = b.attributed ++ [(req, f)]) (named : req.threadID ≠ "") :
    (∀ e ∈ b'.emitted, e ∈ b.emitted ∨ e.requestFrame = some f) ∧
      (f = (b.threads.get? req.threadID).getD "" ∨ a = .inferFrame ∧ f = "" ↔
        (a = .inferFrame → b.frames.entries.length = 1 →
          ∀ e ∈ b.frames.entries, e.1 = "" ∨ b.threads.get? req.threadID = some e.1)) := by
  obtain ⟨rfl, how⟩ := decided_by handles step decided
  refine ⟨hold_emitted req f, ?_⟩
  rcases how with ⟨rfl, rfl⟩ | ⟨rfl, rfl⟩
  · refine iff_of_true (.inl ?_) fun inferred => by cases inferred
    rw [frameForThread, if_neg named]
  unfold soleFrame
  split
  · rename_i e sole
    simp only [sole, length_singleton, mem_singleton, forall_eq, true_and, forall_const]
    cases owned : b.threads.get? req.threadID with
    | none => simp
    | some g =>
      rw [Option.getD_some, Option.some_inj, eq_comm]
      exact or_comm
  · rename_i several
    refine iff_of_true (.inr ⟨rfl, rfl⟩) fun _ one => ?_
    obtain ⟨e, sole⟩ := length_eq_one_iff.mp one
    exact absurd sole (several e)

/-- An approval for the thread of the frame that is registered. -/
theorem approval_goes_to_owner : ∃ b b' labels, Run Step Backend.new labels b ∧
      Step b (.handleRequest ⟨7, .approval, "t", "i"⟩) b' ∧
      ∀ e ∈ b'.emitted, e ∈ b.emitted ∨ e.requestFrame = some "f" := by
  have run := (attempt_run (fun _ _ => true) [.registerBoundFrame "f" "" "t" "" ""] rfl).mono
    fun _ _ _ step => step.1
  refine ⟨_, _, _, run, rfl, ?_⟩
  refine (request_attributed_iff (a := .handleRequest ⟨7, .approval, "t", "i"⟩) (.inl rfl) ?_ ?_ ?_).1
  · rfl
  · rfl
  · decide

/-- An approval for a thread that nobody owns is reported as the request of the only frame. -/
theorem unknown_thread_shown_to_sole_frame : ∃ labels b, Run Step Backend.new labels b ∧ b.threads.get? "u" = none ∧
      b.attributed = [(⟨7, .approval, "u", "i"⟩, "f")] ∧
      b.emitted = [.approvalRequested "f" "i"] ∧ b.heldApprovals.get? "i" = some 7 := by
  have run := (attempt_run (fun _ _ => true)
    [.registerBoundFrame "f" "" "t" "" "", .handleRequest ⟨7, .approval, "u", "i"⟩, .inferFrame]
    rfl).mono fun _ _ _ step => step.1
  exact ⟨_, _, run, rfl, rfl, rfl, rfl⟩

end Backend

end AgentGrid.Stream
