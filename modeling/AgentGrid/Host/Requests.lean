import AgentGrid.Host.HumanInput
import AgentGrid.Lib.OneShot

/-!
# The life of a human-input request

Every operation on the request stores, described by what it does to the record
with a given id and by the replies and broadcasts it emits for that id.  The
descriptions are proved for a lawful kind of request once; approvals and questions
are lawful.
-/

namespace AgentGrid.Host

open AgentGrid.Lib List Option Buckets

attribute [local simp] filter_some

variable {D R : Type}

def Effect.settles : Effect D → Bool
  | .replyHeldApproval .. | .replyHeldQuestion .. | .broadcastEvent .. => true
  | _ => false

namespace RequestKind

variable (k : RequestKind D R) (id : String) (effs : List (Effect D)) (xs : List (Effect D))
  (ys : List (Effect D))

def SameRequest (r' r : R) : Prop :=
  k.sessionID r' = k.sessionID r ∧ k.id r' = k.id r ∧ k.frameID r' = k.frameID r

abbrev Coherent (s : State D) : Prop := Buckets.Coherent k.sessionID k.id (k.store s)

/-- The effect says nothing about requests of this kind. -/
def Mute (e : Effect D) : Prop :=
  k.replyOf e = none ∧ k.requestedOf e = none ∧ k.resolvedOf e = none

/-- The effect built from a record is the held reply to that request. -/
def IsReply (reply : R → Effect D) : Prop :=
  ∀ r, k.replyOf (reply r) = some (k.frameID r, k.id r) ∧ k.requestedOf (reply r) = none ∧
    k.resolvedOf (reply r) = none

/-- What the two kinds of requests have in common. -/
structure Lawful (k : RequestKind D R) : Prop where
  store_withStore : ∀ s m, k.store (k.withStore s m) = m
  withStore_withStore : ∀ s m m', k.withStore (k.withStore s m) m' = k.withStore s m'
  withStore_store : ∀ s, k.withStore s (k.store s) = s
  expire_same : ∀ r, k.SameRequest (k.expire r) r
  reap_same : ∀ r, k.SameRequest (k.reap r) r
  server_same : ∀ r, k.SameRequest (k.serverResolve r) r
  expire_settles : ∀ r, k.isPending (k.expire r) = false ∧ k.reason (k.expire r) ≠ .server
  server_settles : ∀ r, k.isPending (k.serverResolve r) = false ∧ k.reason (k.serverResolve r) = .server
  expiry_reply : k.IsReply k.expiryReply
  reap_reply : k.IsReply k.reapReply
  requested : ∀ r, k.replyOf (k.requestedBroadcast r) = none ∧
    k.requestedOf (k.requestedBroadcast r) = some r ∧ k.resolvedOf (k.requestedBroadcast r) = none
  resolved : ∀ r, k.replyOf (k.resolvedBroadcast r) = none ∧
    k.requestedOf (k.resolvedBroadcast r) = none ∧ k.resolvedOf (k.resolvedBroadcast r) = some r
  mute : ∀ {e : Effect D}, e.settles = false → k.Mute e

/-- The request was settled on the driver's side, which needs no reply. -/
def silent (r : R) : Bool := k.reason r == .server

/-- How often the effects announce that the request was filed. -/
def openings : Nat :=
  effs.countP fun e => (k.requestedOf e).any fun r => k.id r == id

/-- How often the effects announce that the request is resolved. -/
def announcements : Nat :=
  effs.countP fun e => (k.resolvedOf e).any fun r => k.id r == id

/-- How often the effects answer the request the driver holds. -/
def replies : Nat :=
  effs.countP fun e => (k.replyOf e).any fun held => held.2 == id

/-- What one step does to the requests of a kind: the store stays coherent, and each request makes
one turn that the effects tell about. -/
structure Progress (k : RequestKind D R) (m m' : Buckets SessionID String R)
    (effs : List (Effect D)) : Prop where
  coherent : Buckets.Coherent k.sessionID k.id m'
  turn : ∀ id, Turn k.isPending k.silent (m.record id) (m'.record id) (k.openings id effs)
    (k.announcements id effs) (k.replies id effs)

theorem openings_append : k.openings id (xs ++ ys) = k.openings id xs + k.openings id ys :=
  countP_append

theorem announcements_append : k.announcements id (xs ++ ys) = k.announcements id xs + k.announcements id ys :=
  countP_append

theorem replies_append : k.replies id (xs ++ ys) = k.replies id xs + k.replies id ys :=
  countP_append

theorem counts_of_mute {k : RequestKind D R} {effs : List (Effect D)} (mute : ∀ e ∈ effs, k.Mute e) (id : String) :
    k.openings id effs = 0 ∧ k.announcements id effs = 0 ∧ k.replies id effs = 0 := by
  refine ⟨countP_eq_zero.mpr ?_, countP_eq_zero.mpr ?_, countP_eq_zero.mpr ?_⟩
  · intro e mem
    simp [(mute e mem).2.1]
  · intro e mem
    simp [(mute e mem).2.2]
  · intro e mem
    simp [(mute e mem).1]

namespace Progress

variable {k : RequestKind D R} {m m' : Buckets SessionID String R} {effs : List (Effect D)}

theorem still (coherent : Buckets.Coherent k.sessionID k.id m) (mute : ∀ e ∈ effs, k.Mute e) :
    k.Progress m m effs := by
  refine ⟨coherent, ?_⟩
  intro id
  obtain ⟨opened, announced, answered⟩ := counts_of_mute mute id
  rw [opened, announced, answered]
  exact .keep _

theorem pad (progress : k.Progress m m' effs) {before after : List (Effect D)}
    (muteBefore : ∀ e ∈ before, k.Mute e) (muteAfter : ∀ e ∈ after, k.Mute e) :
    k.Progress m m' (before ++ effs ++ after) := by
  refine ⟨progress.coherent, ?_⟩
  intro id
  obtain ⟨opened, announced, answered⟩ := counts_of_mute muteBefore id
  obtain ⟨opened', announced', answered'⟩ := counts_of_mute muteAfter id
  have turn := progress.turn id
  simpa [openings_append, announcements_append, replies_append, opened, announced, answered,
    opened', announced', answered'] using turn

theorem narrows (progress : k.Progress m m' effs) (unfiled : ∀ e ∈ effs, k.requestedOf e = none) {id : String} {r : R}
    (after : m'.record id = some r) (still : k.isPending r = true) : m.record id = some r := by
  have turn := progress.turn id
  have none_filed : k.openings id effs = 0 := by
    refine countP_eq_zero.mpr ?_
    intro e mem
    simp [unfiled e mem]
  rw [after, none_filed] at turn
  exact turn.pending_before still

end Progress

/-! ## Draining -/

theorem drain_counts {k : RequestKind D R} (lawful : k.Lawful) {reply : R → Effect D}
    (isReply : k.IsReply reply) (settled : List R) (id : String) : k.openings id (k.drain reply settled) = 0 ∧
      k.announcements id (k.drain reply settled) = (settled.map k.id).count id ∧
      k.replies id (k.drain reply settled) = (settled.map k.id).count id := by
  induction settled with
  | nil => exact ⟨rfl, rfl, rfl⟩
  | cons r rest ih =>
    obtain ⟨opened, announced, answered⟩ := ih
    have split : k.drain reply (r :: rest) = [reply r, k.resolvedBroadcast r] ++ k.drain reply rest := rfl
    obtain ⟨held, heldOpen, heldDone⟩ := isReply r
    obtain ⟨doneHeld, doneOpen, done⟩ := lawful.resolved r
    rw [split, openings_append, announcements_append, replies_append, opened, announced, answered,
      map_cons, count_cons]
    simp only [openings, announcements, replies, countP_cons, countP_nil, held,
      heldOpen, heldDone, doneHeld, doneOpen, done, any_none, any_some]
    refine ⟨by simp, ?_, ?_⟩
    all_goals
      simp only [Bool.false_eq_true, if_false, Nat.add_zero, Nat.zero_add]
      omega

/-! ## Which part of the state an operation touches -/

def Touches (s s' : State D) : Prop := s' = k.withStore s (k.store s')

namespace Lawful

variable {k : RequestKind D R}

section

variable (lawful : k.Lawful)

include lawful

theorem touches_refl (s : State D) : k.Touches s s :=
  (lawful.withStore_store s).symm

theorem touches_withStore (s : State D) (m : Buckets SessionID String R) :
    k.Touches s (k.withStore s m) := by rw [Touches, lawful.store_withStore]

theorem touches_trans {s t u : State D} (first : k.Touches s t) (second : k.Touches t u) : k.Touches s u := by
  unfold Touches at first second ⊢
  rwa [first, lawful.withStore_withStore] at second

theorem touches_foldl {α : Type} {f : State D → α → State D}
    (each : ∀ s a, k.Touches s (f s a)) (l : List α) (s : State D) : k.Touches s (l.foldl f s) := by
  induction l generalizing s with
  | nil => exact lawful.touches_refl s
  | cons a rest ih => exact lawful.touches_trans (each s a) (ih (f s a))

theorem store_put (s : State D) (r : R) : k.store (k.put s r) = (k.store s).put (k.sessionID r) (k.id r) r :=
  lawful.store_withStore _ _

theorem store_delete (s : State D) (sid : SessionID) (id : String) :
    k.store (k.delete s sid id) = (k.store s).drop sid id :=
  lawful.store_withStore _ _

theorem store_foldl_put (f : R → R) (hits : List (SessionID × R)) (s : State D) :
    k.store (hits.foldl (fun s h => k.put s (f h.2)) s) =
      hits.foldl (fun m h => m.put (k.sessionID (f h.2)) (k.id (f h.2)) (f h.2)) (k.store s) := by
  induction hits generalizing s with
  | nil => rfl
  | cons h rest ih => rw [foldl_cons, ih, lawful.store_put, foldl_cons]

theorem store_foldl_delete {α : Type} (keys : α → SessionID × String) (l : List α) (s : State D) :
    k.store (l.foldl (fun s a => k.delete s (keys a).1 (keys a).2) s) =
      (l.map keys).foldl (fun m key => m.drop key.1 key.2) (k.store s) := by
  induction l generalizing s with
  | nil => rfl
  | cons a rest ih => rw [foldl_cons, ih, lawful.store_delete, map_cons, foldl_cons]

end

section

variable (lawful : k.Lawful)

include lawful

theorem expirePending_touches (d : Draw) (s : State D) (now : Time) : k.Touches s (k.expirePending d s now).1 := by
  unfold expirePending
  split
  · exact lawful.touches_refl s
  · exact lawful.touches_foldl (fun s h => lawful.touches_withStore s _) _ s

theorem cancelForFrame_touches (d : Draw) (s : State D) (fid : FrameID) :
    k.Touches s (k.cancelForFrame d s fid).1 := by
  unfold cancelForFrame
  split
  · exact lawful.touches_refl s
  · exact lawful.touches_foldl (fun s h => lawful.touches_withStore s _) _ s

theorem cancelForSession_touches (d : Draw) (s : State D)
    (sid : SessionID) : k.Touches s (k.cancelForSession d s sid).1 := by
  unfold cancelForSession
  split
  · exact lawful.touches_refl s
  · exact lawful.touches_foldl (fun s e => lawful.touches_withStore s _) _ s

theorem commit_touches (d : Draw) (s : State D) (connID : ConnID)
    (reqID id : String) (change : R → R) (reply : R → Effect D) :
    k.Touches s (k.commit d s connID reqID id change reply).1 := by
  fun_cases k.commit d s connID reqID id change reply
  all_goals first | exact lawful.touches_refl s | exact lawful.touches_withStore s _

theorem resolveFromSubsystem_touches (d : Draw) (s : State D) (id : String) :
    k.Touches s ((k.resolveFromSubsystem d s id).getD (s, [])).1 := by
  fun_cases k.resolveFromSubsystem d s id
  case case2 => exact lawful.touches_withStore s _
  all_goals exact lawful.touches_refl s

end

end Lawful

/-! ## Expiry -/

section Expiry

variable {k : RequestKind D R} {s : State D}

/-- Requests that are settled together: each of them takes its turn once, and no other. -/
theorem drain_turn {α : Type} (lawful : k.Lawful) {reply : R → Effect D} (isReply : k.IsReply reply)
    {l : List α} {f : α → R} {key : α → String} (same : ∀ a ∈ l, k.id (f a) = key a)
    (nodup : (l.map key).Nodup) {id : String} {was after : Option R}
    (hit : id ∈ l.map key → Turn k.isPending k.silent was after 0 1 1)
    (missed : id ∉ l.map key → Turn k.isPending k.silent was after 0 0 0) :
    Turn k.isPending k.silent was after (k.openings id (k.drain reply (l.map f)))
      (k.announcements id (k.drain reply (l.map f))) (k.replies id (k.drain reply (l.map f))) := by
  obtain ⟨opened, announced, answered⟩ := drain_counts lawful isReply (l.map f) id
  have ids := List.map_map.trans (map_congr_left same)
  rw [opened, announced, answered, ids, nodup.count]
  by_cases mem : id ∈ l.map key
  · rw [if_pos mem]
    exact hit mem
  · rw [if_neg mem]
    exact missed mem

theorem expirePending_record (lawful : k.Lawful) (coherent : k.Coherent s) (d : Draw) (now : Time) :
    Buckets.Coherent k.sessionID k.id (k.store (k.expirePending d s now).1) ∧
      ∀ id, (k.store (k.expirePending d s now).1).record id = ((k.store s).record id).map fun r =>
          if !now.isZero && k.due now r then k.expire r else r := by
  unfold expirePending
  by_cases zero : now.isZero
  · simp [zero, coherent]
  have keeps : ∀ r, k.sessionID (k.expire r) = k.sessionID r ∧ k.id (k.expire r) = k.id r :=
    fun r => ⟨(lawful.expire_same r).1, (lawful.expire_same r).2.1⟩
  have rewritten := coherent.rewrite d.toRangeOrder (k.due now) keeps
  simp only [zero, Bool.false_eq_true, if_false, Bool.not_false, Bool.true_and, lawful.store_foldl_put]
  exact rewritten

theorem expirePending_progress (lawful : k.Lawful) (coherent : k.Coherent s) (d : Draw) (now : Time) :
    k.Progress (k.store s) (k.store (k.expirePending d s now).1) (k.expirePending d s now).2 := by
  obtain ⟨kept, records⟩ := expirePending_record lawful coherent d now
  refine ⟨kept, ?_⟩
  intro id
  rw [records id]
  by_cases zero : now.isZero
  · have nothing : (k.expirePending d s now).2 = [] := by simp [expirePending, zero]
    rw [nothing]
    simpa [zero, openings, announcements, replies] using Turn.keep _
  have emitted : (k.expirePending d s now).2 = k.drain k.expiryReply
      (((k.store s).select d.toRangeOrder (k.due now)).map fun h => k.expire h.2) := by
    simp [expirePending, zero]
  rw [emitted]
  have selected := coherent.mem_select_ident (r := d.toRangeOrder) (p := k.due now) (i := id)
  refine drain_turn lawful lawful.expiry_reply (fun h _ => (lawful.expire_same h.2).2.1)
    (coherent.select_nodup _ _) (fun hit => ?_) fun missed => ?_
  · obtain ⟨r, here, due⟩ := selected.mp hit
    have wasPending : k.isPending r = true := by
      unfold RequestKind.due at due
      simp only [Bool.and_eq_true] at due
      exact due.1.1
    obtain ⟨settled, loud⟩ := lawful.expire_settles r
    simpa [here, zero, due] using Turn.settled wasPending settled (by simpa [silent] using loud)
  · cases here : (k.store s).record id with
    | none => exact .keep _
    | some r =>
      have early : k.due now r = false := by simpa [selected, here] using missed
      simpa [early] using Turn.keep _

end Expiry

/-! ## Teardown -/

section Teardown

variable {k : RequestKind D R} {s : State D}

variable {fid : FrameID}

theorem cancelForFrame_record (lawful : k.Lawful) (coherent : k.Coherent s) (d : Draw) (named : fid ≠ "") :
    Buckets.Coherent k.sessionID k.id (k.store (k.cancelForFrame d s fid).1) ∧
      ∀ id, (k.store (k.cancelForFrame d s fid).1).record id =
        ((k.store s).record id).filter fun r => !k.ownedBy fid r := by
  simp only [cancelForFrame, named, if_false]
  rw [lawful.store_foldl_delete (fun h : SessionID × R => (h.1, k.id h.2))]
  refine ⟨coherent.foldl_drop _, fun id => coherent.record_foldl_drop _ fun r here => ?_⟩
  have filed := coherent.cell_of_record here
  rw [List.mem_map, Bool.not_eq_false']
  constructor
  · rintro ⟨⟨sid, x⟩, selected, same⟩
    obtain ⟨⟨i, there⟩, owned⟩ := mem_select.mp selected
    cases same
    rw [(coherent.own_keys there).2, there] at filed
    cases filed
    exact owned
  · intro owned
    exact ⟨(k.sessionID r, r), mem_select.mpr ⟨⟨id, filed⟩, owned⟩, by rw [coherent.ident_of_record here]⟩

variable {sid : SessionID} {id : String} {r : R}

theorem mem_cancelForFrame (d : Draw) (named : fid ≠ "") (here : (k.store s).cell sid id = some r)
    (owned : k.ownedBy fid r = true) : k.reapReply (k.reap r) ∈ (k.cancelForFrame d s fid).2 := by
  simp only [cancelForFrame, drain, named, if_false]
  refine mem_flatMap.mpr ⟨k.reap r, ?_, mem_cons_self⟩
  exact List.mem_map.mpr ⟨(sid, r), mem_select.mpr ⟨⟨id, here⟩, owned⟩, rfl⟩

theorem cancelForFrame_nil (d : Draw)
    (idle : ∀ sid id r, (k.store s).cell sid id = some r → k.ownedBy fid r = false) :
    (k.cancelForFrame d s fid).2 = [] := by
  have none_hit : (k.store s).select d.toRangeOrder (k.ownedBy fid) = [] := by
    refine eq_nil_iff_forall_not_mem.mpr ?_
    rintro ⟨sid, r⟩ selected
    obtain ⟨⟨id, here⟩, owned⟩ := mem_select.mp selected
    rw [idle sid id r here] at owned
    cases owned
  unfold cancelForFrame
  split
  · rfl
  · simp [none_hit, drain]

theorem cancelForFrame_progress (lawful : k.Lawful) (coherent : k.Coherent s) (d : Draw) (fid : FrameID) :
    k.Progress (k.store s) (k.store (k.cancelForFrame d s fid).1) (k.cancelForFrame d s fid).2 := by
  by_cases named : fid = ""
  · have nothing : k.cancelForFrame d s fid = (s, []) := by simp [cancelForFrame, named]
    rw [nothing]
    exact .still coherent (forall_mem_nil _)
  obtain ⟨kept, records⟩ := cancelForFrame_record lawful coherent d named
  refine ⟨kept, ?_⟩
  intro id
  have emitted : (k.cancelForFrame d s fid).2 = k.drain k.reapReply
      (((k.store s).select d.toRangeOrder (k.ownedBy fid)).map fun h => k.reap h.2) := by
    simp [cancelForFrame, named]
  rw [records id, emitted]
  have selected := coherent.mem_select_ident (r := d.toRangeOrder) (p := k.ownedBy fid) (i := id)
  refine drain_turn lawful lawful.reap_reply (fun h _ => (lawful.reap_same h.2).2.1)
    (coherent.select_nodup _ _) (fun hit => ?_) fun missed => ?_
  · obtain ⟨r, here, owned⟩ := selected.mp hit
    have wasPending : k.isPending r = true := by
      unfold RequestKind.ownedBy at owned
      simp only [Bool.and_eq_true] at owned
      exact owned.1
    simpa [here, owned] using Turn.reaped wasPending
  · cases here : (k.store s).record id with
    | none => exact .keep _
    | some r =>
      have foreign : k.ownedBy fid r = false := by simpa [selected, here] using missed
      simpa [foreign] using Turn.keep _

def bucketOf (k : RequestKind D R) (d : Draw) (s : State D) (sid : SessionID) : List (String × R) :=
  (((k.store s).get? sid).getD ∅).range d.toRangeOrder

theorem mem_bucketOf {d : Draw} : (id, r) ∈ k.bucketOf d s sid ↔ (k.store s).cell sid id = some r := by
  rw [bucketOf, Buckets.cell, GoMap.mem_range]
  cases (k.store s).get? sid with
  | none => simp
  | some => rfl

theorem cancelForSession_record (lawful : k.Lawful) (coherent : k.Coherent s) (d : Draw) (named : sid ≠ "") :
    Buckets.Coherent k.sessionID k.id (k.store (k.cancelForSession d s sid).1) ∧
      ∀ id, (k.store (k.cancelForSession d s sid).1).record id =
        ((k.store s).record id).filter fun r => k.sessionID r != sid := by
  have stored : k.store (k.cancelForSession d s sid).1 = ((k.bucketOf d s sid).map fun e => (sid, e.1)).foldl
        (fun m key => m.drop key.1 key.2) (k.store s) := by
    simp only [cancelForSession, named, if_false]
    exact lawful.store_foldl_delete (fun e : String × R => (sid, e.1)) _ s
  rw [stored]
  refine ⟨coherent.foldl_drop _, fun id => coherent.record_foldl_drop _ fun r here => ?_⟩
  have filed := coherent.cell_of_record here
  rw [List.mem_map, bne_eq_false_iff_eq]
  constructor
  · rintro ⟨⟨i, x⟩, _, same⟩
    exact (Prod.mk.inj same).1.symm
  · rintro rfl
    exact ⟨(id, r), mem_bucketOf.mpr filed, rfl⟩

theorem cancelForSession_progress (lawful : k.Lawful) (coherent : k.Coherent s) (d : Draw) (sid : SessionID) :
    k.Progress (k.store s) (k.store (k.cancelForSession d s sid).1) (k.cancelForSession d s sid).2 := by
  by_cases named : sid = ""
  · have nothing : k.cancelForSession d s sid = (s, []) := by simp [cancelForSession, named]
    rw [nothing]
    exact .still coherent (forall_mem_nil _)
  obtain ⟨kept, records⟩ := cancelForSession_record lawful coherent d named
  refine ⟨kept, ?_⟩
  intro id
  have emitted : (k.cancelForSession d s sid).2 = k.drain k.reapReply
      (((k.bucketOf d s sid).filter fun e => k.isPending e.2).map fun e => k.reap e.2) := by
    simp [cancelForSession, named, bucketOf]
  have ids : ∀ e ∈ (k.bucketOf d s sid).filter fun e => k.isPending e.2, k.id (k.reap e.2) = e.1 := by
    rintro ⟨i, r⟩ mem
    have filed := mem_bucketOf.mp (mem_of_mem_filter mem)
    exact (lawful.reap_same r).2.1.trans (coherent.own_keys filed).2
  have nodup : (((k.bucketOf d s sid).filter fun e => k.isPending e.2).map Prod.fst).Nodup :=
    List.Nodup.sublist (filter_sublist.map _) (GoMap.range_keys_nodup _ _)
  rw [records id, emitted]
  have listed : id ∈ ((k.bucketOf d s sid).filter fun e => k.isPending e.2).map Prod.fst ↔
      ∃ r, (k.store s).record id = some r ∧ k.sessionID r = sid ∧ k.isPending r = true := by
    rw [List.mem_map]
    constructor
    · rintro ⟨⟨i, r⟩, mem, rfl⟩
      obtain ⟨inBucket, isPending⟩ := mem_filter.mp mem
      have filed := mem_bucketOf.mp inBucket
      exact ⟨r, coherent.record_of_cell filed, (coherent.own_keys filed).1, isPending⟩
    · rintro ⟨r, here, rfl, isPending⟩
      exact ⟨(id, r), mem_filter.mpr ⟨mem_bucketOf.mpr (coherent.cell_of_record here), isPending⟩, rfl⟩
  refine drain_turn lawful lawful.reap_reply ids nodup (fun hit => ?_) fun missed => ?_
  · obtain ⟨r, here, same, wasPending⟩ := listed.mp hit
    simpa [here, same] using Turn.reaped wasPending
  · cases here : (k.store s).record id with
    | none => exact .keep _
    | some r =>
      by_cases same : k.sessionID r = sid
      · have idle : k.isPending r = false := by simpa [listed, here, same] using missed
        simpa [same] using Turn.forgotten idle
      · simpa [same] using Turn.keep _

end Teardown

/-! ## Answers -/

/-- How a client command or the driver may settle a request: it stays the same request and is no
longer pending. -/
structure Settles (k : RequestKind D R) (change : R → R) : Prop where
  same : ∀ r, k.SameRequest (change r) r
  settled : ∀ r, k.isPending (change r) = false

section Answers

variable {k : RequestKind D R} {s : State D}

variable {id : String}

theorem find_eq (coherent : k.Coherent s) (d : Draw) (named : id ≠ "") :
    k.find d s id = ((k.store s).record id).map fun r => (r, k.sessionID r) := by
  rw [find, if_neg named]
  exact coherent.find_eq d.toRangeOrder id

variable {r : R}

theorem record_of_find (coherent : k.Coherent s) {d : Draw}
    {sid : SessionID} (found : k.find d s id = some (r, sid)) : (k.store s).record id = some r ∧ k.id r = id := by
  have named : id ≠ "" := by
    rintro rfl
    simp [find] at found
  rw [find_eq coherent d named] at found
  obtain ⟨x, here, pair⟩ := map_eq_some_iff.mp found
  obtain ⟨rfl, _⟩ := Prod.mk.inj pair
  exact ⟨here, coherent.ident_of_record here⟩

variable {r' : R}

theorem put_record (lawful : k.Lawful) (coherent : k.Coherent s)
    (here : (k.store s).record (k.id r) = some r) (same : k.SameRequest r' r) :
    Buckets.Coherent k.sessionID k.id (k.store (k.put s r')) ∧ ∀ id, (k.store (k.put s r')).record id =
        if id = k.id r then some r' else (k.store s).record id := by
  have free := coherent.free_of_record here ⟨same.1, same.2.1⟩
  rw [lawful.store_put]
  refine ⟨coherent.put r' free, ?_⟩
  intro id
  rw [coherent.record_put r' free, same.2.1]

theorem settle_progress (lawful : k.Lawful) (coherent : k.Coherent s)
    (here : (k.store s).record (k.id r) = some r) (wasPending : k.isPending r = true)
    (same : k.SameRequest r' r) (settled : k.isPending r' = false) {effs : List (Effect D)}
    (counts : ∀ id, k.openings id effs = 0 ∧ k.announcements id effs = (if k.id r = id then 1 else 0) ∧
      k.replies id effs = if k.id r = id ∧ k.silent r' = false then 1 else 0) :
    k.Progress (k.store s) (k.store (k.put s r')) effs := by
  obtain ⟨kept, records⟩ := put_record lawful coherent here same
  refine ⟨kept, ?_⟩
  intro id
  obtain ⟨opened, announced, answered⟩ := counts id
  rw [records id, opened, announced, answered]
  by_cases this : k.id r = id
  · subst this
    rw [here]
    cases quiet : k.silent r' with
    | false => simpa using Turn.settled wasPending settled quiet
    | true => simpa using Turn.settledSilently wasPending settled quiet
  · have other : id ≠ k.id r := fun eq => this eq.symm
    simpa [this, other] using Turn.keep _

variable {reply : R → Effect D}

section

variable (lawful : k.Lawful)

include lawful

section

attribute [local simp] openings announcements replies countP_cons

variable (coherent : k.Coherent s)

include coherent

theorem commit_progress (d : Draw) (connID : ConnID) (reqID id : String) {change : R → R} (settles : k.Settles change)
    (loud : ∀ r, k.silent (change r) = false) (isReply : k.IsReply reply) :
    k.Progress (k.store s) (k.store (k.commit d s connID reqID id change reply).1)
      (k.commit d s connID reqID id change reply).2 := by
  have response : k.Mute (okResp connID reqID .empty : Effect D) := lawful.mute rfl
  unfold commit
  cases found : k.find d s id with
  | none =>
    refine .still coherent ?_
    intro e mem
    rw [mem_singleton.mp mem]
    exact lawful.mute rfl
  | some pair =>
    obtain ⟨r, sid⟩ := pair
    obtain ⟨here, rfl⟩ := record_of_find coherent found
    dsimp only
    split
    · rename_i wasPending
      refine settle_progress lawful coherent here wasPending (settles.same r) (settles.settled r) ?_
      intro id
      obtain ⟨noReply, noOpen, noDone⟩ := response
      obtain ⟨held, heldOpen, heldDone⟩ := isReply (change r)
      obtain ⟨doneHeld, doneOpen, done⟩ := lawful.resolved (change r)
      have same := (settles.same r).2.1
      have quiet := loud r
      simp [noReply, noOpen, noDone, held, heldOpen, heldDone, doneHeld, doneOpen, done, same, quiet]
    refine .still coherent ?_
    intro e mem
    rw [mem_singleton.mp mem]
    exact lawful.mute rfl

theorem resolveFromSubsystem_progress (d : Draw) (id : String) :
    k.Progress (k.store s) (k.store ((k.resolveFromSubsystem d s id).getD (s, [])).1)
      ((k.resolveFromSubsystem d s id).getD (s, [])).2 := by
  unfold resolveFromSubsystem
  cases found : k.find d s id with
  | none => exact .still coherent (forall_mem_nil _)
  | some pair =>
    obtain ⟨r, sid⟩ := pair
    obtain ⟨here, rfl⟩ := record_of_find coherent found
    dsimp only
    split
    · rename_i wasPending
      refine settle_progress lawful coherent here wasPending (lawful.server_same r) (lawful.server_settles r).1 ?_
      intro id
      obtain ⟨doneHeld, doneOpen, done⟩ := lawful.resolved (k.serverResolve r)
      have same := (lawful.server_same r).2.1
      have quiet : k.silent (k.serverResolve r) = true := by simp [silent, (lawful.server_settles r).2]
      simp [doneHeld, doneOpen, done, same, quiet]
    · exact .still coherent (forall_mem_nil _)

theorem insert_record (unused : (k.store s).record (k.id r) = none) :
    Buckets.Coherent k.sessionID k.id (k.store (k.put s r)) ∧ ∀ id, (k.store (k.put s r)).record id =
        if id = k.id r then some r else (k.store s).record id := by
  have free : ∀ sid x, (k.store s).cell sid (k.id r) = some x → sid = k.sessionID r := by
    intro sid x there
    rw [coherent.record_eq_none.mp unused sid] at there
    cases there
  rw [lawful.store_put]
  exact ⟨coherent.put r free, coherent.record_put r free⟩

theorem insert_progress (unused : (k.store s).record (k.id r) = none) (isPending : k.isPending r = true) :
    k.Progress (k.store s) (k.store (k.put s r)) [k.requestedBroadcast r] := by
  obtain ⟨kept, records⟩ := insert_record lawful coherent unused
  refine ⟨kept, ?_⟩
  intro id
  obtain ⟨noReply, asked, noDone⟩ := lawful.requested r
  rw [records id]
  by_cases this : id = k.id r
  · subst this
    rw [unused]
    simpa [noReply, asked, noDone] using Turn.opened isPending
  · have other : k.id r ≠ id := fun same => this same.symm
    simpa [noReply, asked, noDone, this, other] using Turn.keep _

theorem insertSettled_progress (unused : (k.store s).record (k.id r) = none) (same : k.SameRequest r' r)
    (settled : k.isPending r' = false) (loud : k.silent r' = false) (isReply : k.IsReply reply) :
    k.Progress (k.store s) (k.store (k.put (k.put s r) r'))
      [k.requestedBroadcast r, reply r', k.resolvedBroadcast r'] := by
  obtain ⟨filed, records⟩ := insert_record lawful coherent unused
  have here : (k.store (k.put s r)).record (k.id r) = some r := by rw [records, if_pos rfl]
  obtain ⟨kept, records'⟩ := put_record lawful filed here same
  refine ⟨kept, ?_⟩
  intro id
  obtain ⟨noReply, asked, noDone⟩ := lawful.requested r
  obtain ⟨held, heldOpen, heldDone⟩ := isReply r'
  obtain ⟨doneHeld, doneOpen, done⟩ := lawful.resolved r'
  rw [records' id, records id]
  by_cases this : id = k.id r
  · subst this
    rw [unused]
    simpa [noReply, asked, noDone, held, heldOpen, heldDone, doneHeld, doneOpen, done, same.2.1]
      using Turn.openedSettled settled loud
  have other : k.id r ≠ id := fun eq => this eq.symm
  simpa [noReply, asked, noDone, held, heldOpen, heldDone, doneHeld, doneOpen, done, same.2.1, this, other]
    using Turn.keep _

end

end

end Answers

/-! ## What the operations emit -/

section Emission

variable {P : Effect D → Prop} {k : RequestKind D R} {s : State D} {d : Draw}

variable {reply : R → Effect D}

theorem drain_forall (replies : ∀ r, P (reply r)) (resolved : ∀ r, P (k.resolvedBroadcast r)) (settled : List R) :
    ∀ e ∈ k.drain reply settled, P e := by
  intro e mem
  obtain ⟨r, _, pair⟩ := mem_flatMap.mp mem
  rcases mem_pair.mp pair with rfl | rfl
  · exact replies r
  · exact resolved r

theorem expirePending_forall (replies : ∀ r, P (k.expiryReply r))
    (resolved : ∀ r, P (k.resolvedBroadcast r)) (now : Time) : ∀ e ∈ (k.expirePending d s now).2, P e := by
  unfold expirePending
  split
  · exact forall_mem_nil _
  · exact drain_forall replies resolved _

theorem cancelForFrame_forall (replies : ∀ r, P (k.reapReply r))
    (resolved : ∀ r, P (k.resolvedBroadcast r)) (fid : FrameID) : ∀ e ∈ (k.cancelForFrame d s fid).2, P e := by
  unfold cancelForFrame
  split
  · exact forall_mem_nil _
  · exact drain_forall replies resolved _

theorem cancelForSession_forall (replies : ∀ r, P (k.reapReply r))
    (resolved : ∀ r, P (k.resolvedBroadcast r)) (sid : SessionID) : ∀ e ∈ (k.cancelForSession d s sid).2, P e := by
  unfold cancelForSession
  split
  · exact forall_mem_nil _
  · exact drain_forall replies resolved _

theorem commit_forall {connID : ConnID} {reqID : String}
    (refused : ∀ code message details, P (.sendError connID reqID code message details))
    (accepted : P (.sendResponse connID reqID .empty)) (replies : ∀ r, P (reply r))
    (resolved : ∀ r, P (k.resolvedBroadcast r)) (id : String) (change : R → R) :
    ∀ e ∈ (k.commit d s connID reqID id change reply).2, P e := by
  fun_cases k.commit d s connID reqID id change reply
  case case2 =>
    exact forall_mem_cons.mpr ⟨accepted, forall_mem_cons.mpr ⟨replies _, forall_mem_singleton.mpr (resolved _)⟩⟩
  all_goals exact forall_mem_singleton.mpr (refused _ _ _)

theorem resolveFromSubsystem_forall (resolved : ∀ r, P (k.resolvedBroadcast r)) (id : String) :
    ∀ e ∈ ((k.resolveFromSubsystem d s id).getD (s, [])).2, P e := by
  fun_cases k.resolveFromSubsystem d s id
  case case2 => exact forall_mem_singleton.mpr (resolved _)
  all_goals exact forall_mem_nil _

theorem Lawful.reply_settles (lawful : k.Lawful) (isReply : k.IsReply reply) (r : R) : (reply r).settles = true := by
  cases silent : (reply r).settles with
  | true => rfl
  | false =>
    have unanswered := (lawful.mute silent).1
    rw [(isReply r).1] at unanswered
    cases unanswered

theorem Lawful.resolved_settles (lawful : k.Lawful) (r : R) : (k.resolvedBroadcast r).settles = true := by
  cases silent : (k.resolvedBroadcast r).settles with
  | true => rfl
  | false =>
    have unannounced := (lawful.mute silent).2.2
    rw [(lawful.resolved r).2.2] at unannounced
    cases unannounced

end Emission

end RequestKind

/-! ## Approvals and questions -/

theorem approvals_lawful : (approvals : RequestKind D ApprovalRequest).Lawful where
  store_withStore _ _ := rfl
  withStore_withStore _ _ _ := rfl
  withStore_store _ := rfl
  expire_same _ := ⟨rfl, rfl, rfl⟩
  reap_same _ := ⟨rfl, rfl, rfl⟩
  server_same _ := ⟨rfl, rfl, rfl⟩
  expire_settles _ := ⟨rfl, ResolutionReason.noConfusion⟩
  server_settles _ := ⟨rfl, rfl⟩
  expiry_reply _ := ⟨rfl, rfl, rfl⟩
  reap_reply _ := ⟨rfl, rfl, rfl⟩
  requested _ := ⟨rfl, rfl, rfl⟩
  resolved _ := ⟨rfl, rfl, rfl⟩
  mute := by
    intro e silent
    cases e with
    | replyHeldApproval _ _ _ _ | broadcastEvent _ _ _ => cases silent
    | _ => exact ⟨rfl, rfl, rfl⟩

theorem questions_lawful : (questions : RequestKind D QuestionRequest).Lawful where
  store_withStore _ _ := rfl
  withStore_withStore _ _ _ := rfl
  withStore_store _ := rfl
  expire_same _ := ⟨rfl, rfl, rfl⟩
  reap_same _ := ⟨rfl, rfl, rfl⟩
  server_same _ := ⟨rfl, rfl, rfl⟩
  expire_settles _ := ⟨rfl, ResolutionReason.noConfusion⟩
  server_settles _ := ⟨rfl, rfl⟩
  expiry_reply _ := ⟨rfl, rfl, rfl⟩
  reap_reply _ := ⟨rfl, rfl, rfl⟩
  requested _ := ⟨rfl, rfl, rfl⟩
  resolved _ := ⟨rfl, rfl, rfl⟩
  mute := by
    intro e silent
    cases e with
    | replyHeldQuestion _ _ _ _ | broadcastEvent _ _ _ => cases silent
    | _ => exact ⟨rfl, rfl, rfl⟩

variable (d : Draw) (s : State D) (e : EvSubsystem D)

/-- Filing an approval from a subsystem event: nothing, a pending request, or one that is approved
automatically. -/
theorem maybeCreateApproval_cases : (maybeCreateApprovalFromSubsystem d s e).getD (s, []) = (s, []) ∨
      ∃ a sid sess i, findFrame d s e.frameID = some (sid, sess, i) ∧ a.id ≠ "" ∧ findApproval d s a.id = none ∧
        ((maybeCreateApprovalFromSubsystem d s e).getD (s, []) = (putApproval s (newApproval s e a sid),
              [approvalRequestedBroadcast (newApproval s e a sid)]) ∨
          (maybeCreateApprovalFromSubsystem d s e).getD (s, []) =
            (putApproval (putApproval s (newApproval s e a sid)) (autoApproved (newApproval s e a sid)),
              [approvalRequestedBroadcast (newApproval s e a sid), .replyHeldApproval e.frameID a.id .accept "",
                approvalResolvedBroadcast (autoApproved (newApproval s e a sid))])) := by
  unfold maybeCreateApprovalFromSubsystem
  split
  · rename_i a kind payload
    by_cases unnamed : a.id = ""
    · simp [unnamed]
    simp only [unnamed, if_false]
    cases known : findApproval d s a.id with
    | some => simp
    | none =>
      cases search : findFrame d s e.frameID with
      | none => exact .inl rfl
      | some hit =>
        obtain ⟨sid, sess, i⟩ := hit
        refine .inr ⟨a, sid, sess, i, rfl, unnamed, known, ?_⟩
        by_cases automatic : a.autoApprove
        · right
          simp only [automatic, if_true]
          rfl
        left
        simp only [automatic, Bool.false_eq_true, if_false]
        rfl
  · exact .inl rfl

theorem maybeCreateQuestion_cases : (maybeCreateQuestionFromSubsystem d s e).getD (s, []) = (s, []) ∨
      ∃ qp sid sess i, findFrame d s e.frameID = some (sid, sess, i) ∧ qp.id ≠ "" ∧ findQuestion d s qp.id = none ∧
        (maybeCreateQuestionFromSubsystem d s e).getD (s, []) = (putQuestion s (newQuestion s e qp sid),
            [questionRequestedBroadcast (newQuestion s e qp sid)]) := by
  unfold maybeCreateQuestionFromSubsystem
  split
  · rename_i qp kind payload
    by_cases unnamed : qp.id = ""
    · simp [unnamed]
    simp only [unnamed, if_false]
    cases known : findQuestion d s qp.id with
    | some => simp
    | none =>
      cases search : findFrame d s e.frameID with
      | none => exact .inl rfl
      | some hit =>
        obtain ⟨sid, sess, i⟩ := hit
        exact .inr ⟨qp, sid, sess, i, rfl, unnamed, known, rfl⟩
  · exact .inl rfl

theorem maybeResolve_cases : (maybeResolveHumanInputFromSubsystem d s e).getD (s, []) = (s, []) ∨
      (∃ id, (maybeResolveHumanInputFromSubsystem d s e).getD (s, []) =
        (approvals.resolveFromSubsystem d s id).getD (s, [])) ∨
      ∃ id, (maybeResolveHumanInputFromSubsystem d s e).getD (s, []) =
        (questions.resolveFromSubsystem d s id).getD (s, []) := by
  unfold maybeResolveHumanInputFromSubsystem
  split
  · cases e.payload.approval with
    | none => exact .inl rfl
    | some a => exact .inr (.inl ⟨a.id, rfl⟩)
  · cases e.payload.question with
    | none => exact .inl rfl
    | some q => exact .inr (.inr ⟨q.id, rfl⟩)
  · exact .inl rfl

end AgentGrid.Host
