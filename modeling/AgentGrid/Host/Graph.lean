import AgentGrid.Host.State
import AgentGrid.Lib.Mru
import Mathlib.Logic.Function.Basic

/-!
# The session graph

What the sessions of a state are as a graph: which frames each of them holds,
which frame is its head, and in which order earlier heads are fallen back to.
The operations below say what creating, pushing, selecting, evicting, ending and
dropping mean for the graph alone.  `State.graph` reads the graph off a state.
-/

namespace AgentGrid.Host

open AgentGrid.Lib List Function State

variable {D : Type}

structure Node where
  id : SessionID
  frames : List FrameID
  head : FrameID
  mru : List FrameID
  endedAt : Option Time
  command : String
  hasDriver : Bool
  deriving DecidableEq

abbrev Graph := SessionID → Option Node

@[simp] def Session.node (sess : Session D) : Node where
  id := sess.id
  frames := sess.frames.map SessionFrame.id
  head := sess.headFrameID
  mru := sess.mruFrameIDs
  endedAt := sess.endedAt
  command := sess.command
  hasDriver := sess.driver.isSome

def State.graph (s : State D) : Graph := fun sid => (s.sessions.get? sid).map Session.node

variable {s : State D} {sid : SessionID}

theorem State.graph_eq_some {n : Node} :
    s.graph sid = some n ↔ ∃ sess, s.sessions.get? sid = some sess ∧ sess.node = n :=
  Option.map_eq_some_iff

theorem State.graph_eq_none : s.graph sid = none ↔ s.sessions.get? sid = none :=
  Option.map_eq_none_iff

variable {sess : Session D}

theorem State.graph_of_get? (found : s.sessions.get? sid = some sess) : s.graph sid = some sess.node := by
  simp [State.graph, found]

theorem graph_set (s s' : State D) (sid : SessionID) (sess : Session D)
    (stored : s'.sessions = s.sessions.set sid sess) : s'.graph = Function.update s.graph sid (some sess.node) := by
  funext k
  simp only [State.graph, stored, GoMap.get?_set, update_apply]
  split <;> rfl

theorem graph_delete (s s' : State D) (sid : SessionID) (stored : s'.sessions = s.sessions.delete sid) :
    s'.graph = Function.update s.graph sid none := by
  funext k
  simp only [State.graph, stored, GoMap.get?_delete, update_apply]
  split <;> rfl

theorem graph_set_same {s' : State D} {old : Session D} (found : s.sessions.get? sid = some old)
    (stored : s'.sessions = s.sessions.set sid sess) (same : sess.node = old.node) :
    s'.graph = s.graph := by rw [graph_set s s' sid sess stored, same, ← graph_of_get? found, update_eq_self]

namespace Node

def single (sid : SessionID) (fid : FrameID) (command : String) (hasDriver : Bool) : Node :=
  ⟨sid, [fid], fid, [], none, command, hasDriver⟩

def published (sid : SessionID) (command : String) : Node :=
  ⟨sid, [], "", [], none, command, false⟩

variable (n : Node) (fid : FrameID)

/-- Remember the head as the most recent frame to fall back to. -/
def remember : List FrameID := if n.head = "" then n.mru else Mru.push 16 n.head n.mru

@[simp] def push : Node :=
  { n with frames := n.frames ++ [fid], head := fid, mru := n.remember }

def select : Node := { n with head := fid, mru := n.remember }

/-- Remove one frame that is not the root; a removed head falls back along the stack. -/
def evict : Node :=
  let frames := n.frames.erase fid
  let pruned := Mru.prune (fun f => frames.contains f) [] n.mru
  if n.head = fid then
    let popped := Mru.pop (fun f => frames.contains f) pruned
    let fallback := popped.1.getD ""
    { n with
      frames := frames, head := if fallback = "" then frames.headD "" else fallback
      mru := popped.2 }
  else { n with frames := frames, mru := pruned }

theorem evict_id : (n.evict fid).id = n.id := by
  unfold evict
  split <;> rfl

theorem evict_frames : (n.evict fid).frames = n.frames.erase fid := by
  unfold evict
  split <;> rfl

theorem evict_endedAt : (n.evict fid).endedAt = n.endedAt := by
  unfold evict
  split <;> rfl

def finish (now : Time) : Node :=
  { n with frames := [], head := "", mru := [], endedAt := some now }

/-- The shape every session of a reachable state has. -/
structure WF (n : Node) : Prop where
  frames_nodup : n.frames.Nodup
  frames_named : ∀ f ∈ n.frames, f ≠ ""
  head_mem : n.frames ≠ [] → n.head ∈ n.frames
  head_empty : n.frames = [] → n.head = ""
  mru_nodup : n.mru.Nodup
  mru_length : n.mru.length ≤ 16
  mru_subset : ∀ f ∈ n.mru, f ∈ n.frames

namespace WF

variable {n : Node} {fid : FrameID}

theorem mru_empty (wf : n.WF) (none_left : n.frames = []) : n.mru = [] := by
  apply eq_nil_iff_forall_not_mem.mpr
  intro f mem
  have held := wf.mru_subset f mem
  rw [none_left] at held
  cases held

theorem single (sid : SessionID) (fid : FrameID) (command : String) (hasDriver : Bool)
    (named : fid ≠ "") : (Node.single sid fid command hasDriver).WF where
  frames_nodup := nodup_singleton fid
  frames_named := by
    intro f mem
    rwa [mem_singleton.mp mem]
  head_mem := fun _ => mem_singleton.mpr rfl
  head_empty := by intro empty; cases empty
  mru_nodup := nodup_nil
  mru_length := Nat.zero_le 16
  mru_subset := forall_mem_nil _

theorem of_frameless (frames : n.frames = []) (head : n.head = "") (mru : n.mru = []) : n.WF where
  frames_nodup := frames ▸ nodup_nil
  frames_named := by simp [frames]
  head_mem := fun some_left => absurd frames some_left
  head_empty := fun _ => head
  mru_nodup := mru ▸ nodup_nil
  mru_length := by simp [mru]
  mru_subset := by simp [mru]

theorem published (sid : SessionID) (command : String) : (Node.published sid command).WF := of_frameless rfl rfl rfl

theorem finish (n : Node) (now : Time) : (n.finish now).WF := of_frameless rfl rfl rfl

theorem remember_nodup (wf : n.WF) : n.remember.Nodup := by
  unfold remember
  split
  · exact wf.mru_nodup
  · exact Mru.push_nodup wf.mru_nodup

theorem remember_length (wf : n.WF) : n.remember.length ≤ 16 := by
  unfold remember
  split
  · exact wf.mru_length
  · exact Mru.push_length_le _ _ _

theorem remember_subset (wf : n.WF) : ∀ f ∈ n.remember, f ∈ n.frames := by
  intro f mem
  unfold remember at mem
  split at mem
  · exact wf.mru_subset f mem
  rename_i named
  rcases Mru.mem_of_mem_push mem with rfl | older
  · exact wf.head_mem fun empty => named (wf.head_empty empty)
  · exact wf.mru_subset f older

theorem push (wf : n.WF) (named : fid ≠ "") (fresh : fid ∉ n.frames) : (n.push fid).WF where
  frames_nodup := by
    refine nodup_append.mpr ⟨wf.frames_nodup, nodup_singleton fid, ?_⟩
    intro a held b last
    rw [mem_singleton.mp last]
    rintro rfl
    exact fresh held
  frames_named := by
    intro f mem
    rcases mem_append.mp mem with held | last
    · exact wf.frames_named f held
    · rwa [mem_singleton.mp last]
  head_mem := fun _ => mem_append_right _ (mem_singleton.mpr rfl)
  head_empty := by intro empty; simp at empty
  mru_nodup := wf.remember_nodup
  mru_length := wf.remember_length
  mru_subset := fun f mem => mem_append_left _ (wf.remember_subset f mem)

theorem select (wf : n.WF) (held : fid ∈ n.frames) : (n.select fid).WF where
  frames_nodup := wf.frames_nodup
  frames_named := wf.frames_named
  head_mem := fun _ => held
  head_empty := by
    intro empty
    have none_left : n.frames = [] := empty
    rw [none_left] at held
    cases held
  mru_nodup := wf.remember_nodup
  mru_length := wf.remember_length
  mru_subset := wf.remember_subset

theorem erase_ne_nil (held : fid ∈ n.frames) (not_root : n.frames.head? ≠ some fid) : n.frames.erase fid ≠ [] := by
  cases shape : n.frames with
  | nil => simp [shape] at held
  | cons root =>
    have differs : root ≠ fid := by
      intro same
      exact not_root (by simp [shape, same])
    rw [erase_cons_tail (by simpa using differs)]
    exact cons_ne_nil _ _

theorem evict (wf : n.WF) (held : fid ∈ n.frames) (not_root : n.frames.head? ≠ some fid) : (n.evict fid).WF := by
  have left := erase_ne_nil held not_root
  have kept : ∀ f ∈ n.frames.erase fid, f ∈ n.frames := fun f => mem_of_mem_erase
  have pruned_sub := (Mru.prune_sublist (fun f => (n.frames.erase fid).contains f) [] n.mru)
  have pruned_known : ∀ f ∈ Mru.prune (fun f => (n.frames.erase fid).contains f) [] n.mru,
      f ∈ n.frames.erase fid := by
    intro f mem
    simpa using Mru.prune_known mem
  unfold Node.evict
  by_cases head : n.head = fid
  · have popped := Mru.pop_below_sublist (fun f => (n.frames.erase fid).contains f)
      (Mru.prune (fun f => (n.frames.erase fid).contains f) [] n.mru)
    simp only [head, if_true]
    refine ⟨wf.frames_nodup.erase fid, fun f mem => wf.frames_named f (kept f mem), ?_,
      fun empty => absurd empty left, (wf.mru_nodup.sublist pruned_sub).sublist popped,
      Nat.le_trans (Nat.le_trans popped.length_le pruned_sub.length_le) wf.mru_length,
      fun f mem => pruned_known f (popped.subset mem)⟩
    intro _
    split
    · cases shape : n.frames.erase fid with
      | nil => exact absurd shape left
      | cons => simp
    rename_i fallback
    cases top : (Mru.pop (fun f => (n.frames.erase fid).contains f)
        (Mru.prune (fun f => (n.frames.erase fid).contains f) [] n.mru)).1 with
    | none =>
      rw [top] at fallback
      exact absurd rfl fallback
    | some f => simpa using (Mru.pop_known top).1
  simp only [head, if_false]
  refine ⟨wf.frames_nodup.erase fid, fun f mem => wf.frames_named f (kept f mem), ?_,
    fun empty => absurd empty left, wf.mru_nodup.sublist pruned_sub,
    Nat.le_trans pruned_sub.length_le wf.mru_length, pruned_known⟩
  intro _
  exact (mem_erase_of_ne head).mpr (wf.head_mem (ne_nil_of_mem held))

end WF

end Node

/-- Every session sits under its own key, has the shape above, and shares no frame. -/
structure Graph.WF (g : Graph) : Prop where
  key : ∀ {sid n}, g sid = some n → n.id = sid
  named : ∀ {sid n}, g sid = some n → sid ≠ ""
  node : ∀ {sid n}, g sid = some n → n.WF
  disjoint : ∀ {sid sid' n n' f}, g sid = some n → g sid' = some n' → f ∈ n.frames → f ∈ n'.frames → sid = sid'

def Graph.Holds (g : Graph) (f : FrameID) : Prop := ∃ sid n, g sid = some n ∧ f ∈ n.frames

theorem State.hasFrame_iff {f : FrameID} : s.HasFrame f ↔ s.graph.Holds f := by
  constructor
  · rintro ⟨sid, sess, found, mem⟩
    exact ⟨sid, sess.node, graph_of_get? found, mem⟩
  · rintro ⟨sid, n, found, mem⟩
    obtain ⟨sess, stored, rfl⟩ := graph_eq_some.mp found
    exact ⟨sid, sess, stored, mem⟩

namespace Graph.WF

variable {g : Graph} {sid : SessionID} {n : Node}

theorem empty : Graph.WF (fun _ => none) where
  key := by intro sid n found; cases found
  named := by intro sid n found; cases found
  node := by intro sid n found; cases found
  disjoint := by intro sid sid' n n' f found; cases found

theorem update (wf : g.WF) (named : sid ≠ "") (key : n.id = sid) (node : n.WF)
    (own : ∀ f ∈ n.frames, ∀ sid' n', sid' ≠ sid → g sid' = some n' → f ∉ n'.frames) :
    Graph.WF (Function.update g sid (some n)) := by
  have held : ∀ {k m}, Function.update g sid (some n) k = some m → k = sid ∧ m = n ∨ k ≠ sid ∧ g k = some m := by
    intro k m found
    rw [update_apply] at found
    split at found
    · rename_i same
      exact .inl ⟨same, (Option.some.inj found).symm⟩
    · rename_i other
      exact .inr ⟨other, found⟩
  refine ⟨fun found => ?_, fun found => ?_, fun found => ?_, fun found found' mem mem' => ?_⟩
  · rcases held found with ⟨rfl, rfl⟩ | ⟨-, before⟩
    · exact key
    · exact wf.key before
  · rcases held found with ⟨rfl, -⟩ | ⟨-, before⟩
    · exact named
    · exact wf.named before
  · rcases held found with ⟨-, rfl⟩ | ⟨-, before⟩
    · exact node
    · exact wf.node before
  · rcases held found with ⟨rfl, rfl⟩ | ⟨other, before⟩ <;>
      rcases held found' with ⟨rfl, rfl⟩ | ⟨other', before'⟩
    · rfl
    · exact absurd mem' (own _ mem _ _ other' before')
    · exact absurd mem (own _ mem' _ _ other before)
    · exact wf.disjoint before before' mem mem'

theorem remove (wf : g.WF) (sid : SessionID) : Graph.WF (Function.update g sid none) := by
  have held : ∀ {k m}, Function.update g sid none k = some m → g k = some m := by
    intro k m found
    rw [update_apply] at found
    split at found
    · cases found
    · exact found
  exact ⟨fun found => wf.key (held found), fun found => wf.named (held found), fun found => wf.node (held found),
    fun found found' => wf.disjoint (held found) (held found')⟩

theorem shrink (wf : g.WF) {old : Node} (found : g sid = some old) (key : n.id = old.id)
    (node : n.WF) (sub : ∀ f ∈ n.frames, f ∈ old.frames) : Graph.WF (Function.update g sid (some n)) := by
  refine wf.update (wf.named found) (key.trans (wf.key found)) node ?_
  intro f held sid' n' other found' held'
  exact other (wf.disjoint found' found held' (sub f held))

theorem push (wf : g.WF) (found : g sid = some n) {fid : FrameID} (named : fid ≠ "")
    (fresh : ¬ g.Holds fid) : Graph.WF (Function.update g sid (some (n.push fid))) := by
  have unheld : fid ∉ n.frames := fun held => fresh ⟨sid, n, found, held⟩
  have key : n.id = sid := wf.key found
  refine wf.update (wf.named found) key ((wf.node found).push named unheld) ?_
  intro f held sid' n' other found' held'
  rcases mem_append.mp held with old | last
  · exact other (wf.disjoint found' found held' old)
  · rw [mem_singleton.mp last] at held'
    exact fresh ⟨sid', n', found', held'⟩

theorem add (wf : g.WF) (named : sid ≠ "") (key : n.id = sid) (node : n.WF)
    (fresh : ∀ f ∈ n.frames, ¬ g.Holds f) : Graph.WF (Function.update g sid (some n)) :=
  wf.update named key node fun f held sid' n' _ found' held' => fresh f held ⟨sid', n', found', held'⟩

end Graph.WF

end AgentGrid.Host
