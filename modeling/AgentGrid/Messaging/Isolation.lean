import AgentGrid.Host.Action
import AgentGrid.Messaging.Broker

/-!
# Messages stay between their two frames

What an operation does to the messages of a session, and what follows for whole runs: who sends,
who replies, who reads, and that the stored summary is the summary of the stored messages.
-/

namespace AgentGrid.Messaging

open AgentGrid.Lib AgentGrid.Host List Option GoMap Go

variable {D : Type} {splitArgs : String → Option (List String)} {order : RangeOrder} {s : State D}
  {sess : Session D} {sid : SessionID} {a : Operation}

/-- The session has the frame, and it is an agent's. -/
def AgentOf (splitArgs : String → Option (List String)) (sess : Session D) (frameID : FrameID) :
    Prop :=
  ∃ frame ∈ sess.frames, frame.id = frameID ∧ isAgentFrame splitArgs frame = true

def messagesOf (messaging : Option SessionFrameMessaging) : List FrameMessage :=
  messaging.elim [] SessionFrameMessaging.messages

theorem messagesOf_some (messaging : SessionFrameMessaging) : messagesOf (some messaging) = messaging.messages := rfl

variable (chosen : Nat → FrameMessage → Bool) (msg : FrameMessage)

def markRead (messages : List FrameMessage) : List FrameMessage :=
  messages.mapIdx fun i msg => if chosen i msg then { msg with read := true } else msg

/-- What an operation makes of the messages of a session, and what it appends to the journal. -/
inductive Change (splitArgs : String → Option (List String)) (sess : Session D) (a : Operation) :
    Option SessionFrameMessaging → List JournalRecord → Prop where
  | kept : Change splitArgs sess a sess.frameMessaging []
  | sent {msg : FrameMessage} {stamp : Nat}
      (asked : ∃ topic body priority now, a = .send msg.sourceFrameID msg.targetFrameID topic body priority now stamp)
      (named : msg.id = "msg-" ++ toString stamp)
      (source : AgentOf splitArgs sess msg.sourceFrameID)
      (target : AgentOf splitArgs sess msg.targetFrameID)
      (distinct : msg.sourceFrameID ≠ msg.targetFrameID)
      (new : msg.read = false ∧ msg.reply = none ∧ msg.replyStatus = "pending" ∧ msg.deliveryStatus = "pending") :
      Change splitArgs sess a (some ⟨computeFrameMessagingSummary (messagesOf sess.frameMessaging ++ [msg]),
          messagesOf sess.frameMessaging ++ [msg]⟩)
        [.messageSent (frameMessageToSnapshot msg)]
  | marked {messaging : SessionFrameMessaging} {chosen : Nat → FrameMessage → Bool}
      {summary : FrameMessagingSummary} {ids : List String}
      (found : sess.frameMessaging = some messaging)
      (summed : messaging.summary = computeFrameMessagingSummary messaging.messages →
        summary = computeFrameMessagingSummary (markRead chosen messaging.messages))
      (listed : ∀ id, id ∈ ids ↔ ∃ i msg, messaging.messages[i]? = some msg ∧
        chosen i msg = true ∧ msg.read = false ∧ msg.id = id) :
      Change splitArgs sess a (some ⟨summary, markRead chosen messaging.messages⟩)
        (if ids.isEmpty then [] else [.messageRead ids])
  | replied {msg : FrameMessage} {reply : FrameReply}
      (asked : ∃ body finalAnswer confidence now stamp, a =
        .reply reply.sourceFrameID msg.id body finalAnswer reply.resolution confidence now stamp)
      (found : (messagesOf sess.frameMessaging).find? (fun m => m.id == msg.id) = some msg)
      (own : reply.sourceFrameID = msg.targetFrameID) (unanswered : msg.reply = none) :
      Change splitArgs sess a (some ⟨computeFrameMessagingSummary
            (updateMessage msg.id (Broker.answered reply) (messagesOf sess.frameMessaging)),
          updateMessage msg.id (Broker.answered reply) (messagesOf sess.frameMessaging)⟩)
        [.messageReply msg.id (frameReplyToSnapshot reply)]

variable {k : SessionID} {records : List JournalRecord}

theorem Broker.journal_set {b : Broker D} : Broker.journal ⟨s, b.journals.set sid (b.journal sid ++ records)⟩ k =
      b.journal k ++ if k = sid then records else [] := by
  rw [Broker.journal, get?_set]
  split
  · rename_i same
    subst same
    rfl
  · exact (append_nil _).symm

/-- Every session comes from one before the operation, by a change of its messages. -/
def Evolves (splitArgs : String → Option (List String)) (a : Operation) (b b' : Broker D) : Prop :=
  ∀ sid sess', b'.host.sessions.get? sid = some sess' → ∃ sess records, b.host.sessions.get? sid = some sess ∧
      Change splitArgs sess a sess'.frameMessaging records ∧ b'.journal sid = b.journal sid ++ records

namespace Evolves

variable {b b' : Broker D}

theorem refl : Evolves splitArgs a b b :=
  fun _ sess' found => ⟨sess', [], found, .kept, (append_nil _).symm⟩

theorem kept (journals : b'.journals = b.journals) (same : ∀ sid sess', b'.host.sessions.get? sid = some sess' →
      ∃ sess, b.host.sessions.get? sid = some sess ∧ sess'.frameMessaging = sess.frameMessaging) :
    Evolves splitArgs a b b' := by
  intro sid sess' found
  obtain ⟨sess, before, messaging⟩ := same sid sess' found
  refine ⟨sess, [], before, ?_, ?_⟩
  · rw [messaging]
    exact .kept
  · rw [append_nil, Broker.journal, Broker.journal, journals]

theorem put {messaging : Option SessionFrameMessaging} {records : List JournalRecord}
    (found : b.host.sessions.get? sid = some sess) (change : Change splitArgs sess a messaging records)
    (sessions : b'.host.sessions = b.host.sessions.set sid { sess with frameMessaging := messaging })
    (journals : ∀ k, b'.journal k = b.journal k ++ if k = sid then records else []) : Evolves splitArgs a b b' := by
  intro k sess' after
  rw [sessions, get?_set] at after
  split at after
  · rename_i same
    subst same
    cases after
    exact ⟨sess, records, found, change, by rw [journals, if_pos rfl]⟩
  · rename_i other
    exact ⟨sess', [], after, .kept, by rw [journals, if_neg other]⟩

theorem commit {messages : List FrameMessage} {entry : JournalRecord} (found : b.host.sessions.get? sid = some sess)
    (change : Change splitArgs sess a (some ⟨computeFrameMessagingSummary messages, messages⟩) [entry]) :
    Evolves splitArgs a b (b.commitFrameMessagingSession sid sess messages entry) :=
  .put found change rfl fun _ => Broker.journal_set

end Evolves

variable {frameID : FrameID} {frame : SessionFrame D}

theorem findFrameSession_some (found : findFrameSession order s frameID = some (sid, sess, frame)) :
    s.sessions.get? sid = some sess ∧ frameByID sess frameID = some frame := by
  obtain ⟨⟨k, sess'⟩, mem, named⟩ := exists_of_findSome?_eq_some found
  obtain ⟨_, here, same⟩ := map_eq_some_iff.mp named
  cases same
  exact ⟨GoMap.mem_range.mp mem, here⟩

theorem frameByID_some (found : frameByID sess frameID = some frame) : frame ∈ sess.frames ∧ frame.id = frameID := by
  have named : (frame.id == frameID) = true :=
    find?_some (p := fun other : SessionFrame D => other.id == frameID) found
  exact ⟨mem_of_find?_eq_some found, beq_iff_eq.mp named⟩

theorem frameSessionForSource_ok (found : frameSessionForSource splitArgs order s frameID = .ok (sid, sess)) :
    s.sessions.get? sid = some sess ∧ AgentOf splitArgs sess frameID := by
  revert found
  fun_cases frameSessionForSource splitArgs order s frameID <;> rintro ⟨⟩
  case case2 agent located =>
    obtain ⟨stored, here⟩ := findFrameSession_some located
    obtain ⟨mem, named⟩ := frameByID_some here
    exact ⟨stored, _, mem, named, agent⟩

/-! ## Summaries -/

/-- The messages differ in their read mark at most. -/
def SameButRead (msg msg' : FrameMessage) : Prop := msg' = { msg with read := msg'.read }

theorem markRead_same (messages : List FrameMessage) :
    List.Forall₂ SameButRead messages (markRead chosen messages) := by
  induction messages generalizing chosen with
  | nil => exact .nil
  | cons msg rest ih =>
    rw [markRead, mapIdx_cons]
    refine .cons ?_ (ih fun i => chosen (i + 1))
    split <;> rfl

theorem summarize_read (summary : FrameMessagingSummary) (msg : FrameMessage) (read : Bool)
    (n : Nat) : summarize { summary with unreadCount := n } { msg with read := read } =
      { summarize summary msg with unreadCount := if read then n else n + 1 } := by simp only [summarize]

variable {messages : List FrameMessage}

theorem foldl_summarize_same {marked : List FrameMessage}
    (same : List.Forall₂ SameButRead messages marked) (summary : FrameMessagingSummary) (n : Nat) :
    marked.foldl summarize { summary with unreadCount := n } =
      { messages.foldl summarize summary with unreadCount := n + marked.countP fun msg => !msg.read } := by
  induction same generalizing summary n with
  | nil => simp
  | @cons msg msg' rest rest' first _ ih =>
    rw [foldl_cons, foldl_cons, countP_cons]
    obtain ⟨read, rfl⟩ : ∃ read, msg' = { msg with read := read } := ⟨_, first⟩
    rw [summarize_read, ih]
    cases read
    · simp
      omega
    · simp

theorem compute_markRead (messages : List FrameMessage) : computeFrameMessagingSummary (markRead chosen messages) =
      { computeFrameMessagingSummary messages with
        unreadCount := (markRead chosen messages).countP fun msg => !msg.read } := by
  have summed := foldl_summarize_same (markRead_same chosen messages) ⟨0, "", "", 0, ""⟩ 0
  rwa [Nat.zero_add] at summed

/-! ## The operations -/

variable {b b' : Broker D} {d : Draw}

variable {source peer : FrameID} {id : String}

theorem mem_freshIDs : id ∈ (messages.filter (Broker.freshTo source peer)).map FrameMessage.id ↔
      ∃ (i : Nat) (msg : FrameMessage), messages[i]? = some msg ∧
        Broker.freshTo source peer msg = true ∧ msg.read = false ∧ msg.id = id := by
  constructor
  · intro mem
    obtain ⟨msg, kept, rfl⟩ := List.mem_map.mp mem
    obtain ⟨held, fresh⟩ := mem_filter.mp kept
    obtain ⟨i, here⟩ := mem_iff_getElem?.mp held
    have unread := (Bool.and_eq_true_iff.mp fresh).2
    exact ⟨i, msg, here, fresh, by simpa using unread, rfl⟩
  · rintro ⟨i, msg, here, fresh, _, rfl⟩
    exact List.mem_map.mpr ⟨msg, mem_filter.mpr ⟨mem_iff_getElem?.mpr ⟨i, here⟩, fresh⟩, rfl⟩

theorem evolves_read : Evolves splitArgs a b (b.frameMessagingRead splitArgs order source peer).2 := by
  unfold Broker.frameMessagingRead
  split
  · exact .refl
  rename_i sid sess located
  obtain ⟨stored, _⟩ := frameSessionForSource_ok located
  split
  · exact .refl
  cases messaging : sess.frameMessaging with
  | none => exact .refl
  | some held =>
    simp only [elim_some]
    split
    · exact .refl
    rename_i nonempty
    have change : Change splitArgs sess a (some ⟨_, markRead (fun _ => Broker.freshTo source peer) held.messages⟩)
        (if ((held.messages.filter (Broker.freshTo source peer)).map FrameMessage.id).isEmpty
          then [] else [.messageRead _]) :=
      .marked messaging (fun _ => rfl) fun id => mem_freshIDs
    rw [if_neg nonempty] at change
    exact .commit stored change

variable {body : String} {now : Time} {stamp : Nat}

theorem evolves_send {target : FrameID} {topic priority : String} :
    Evolves splitArgs (.send source target topic body priority now stamp) b
      (b.frameMessagingSend splitArgs order source target topic body priority now stamp).2 := by
  unfold Broker.frameMessagingSend
  split
  · exact .refl
  rename_i sid sess located
  obtain ⟨stored, agent⟩ := frameSessionForSource_ok located
  split
  · exact .refl
  cases there : frameByID sess target with
  | none => split <;> exact .refl
  | some frame =>
    simp only [elim_some]
    split
    · exact .refl
    rename_i distinct
    split
    · exact .refl
    rename_i managed
    obtain ⟨mem, named⟩ := frameByID_some there
    have change : Change splitArgs sess (.send source target topic body priority now stamp)
        (some ⟨_, messagesOf sess.frameMessaging ++ [Broker.newMessage source target topic body priority now stamp]⟩)
        [.messageSent (frameMessageToSnapshot (Broker.newMessage source target topic body priority now stamp))] :=
      .sent ⟨topic, body, priority, now, rfl⟩ rfl agent
        ⟨frame, mem, named, by simpa using managed⟩ (fun same => distinct same.symm)
        ⟨rfl, rfl, rfl, rfl⟩
    exact .commit stored change

theorem evolves_reply {messageID finalAnswer resolution confidence : String} :
    Evolves splitArgs (.reply source messageID body finalAnswer resolution confidence now stamp) b
      (b.frameMessagingReply splitArgs order source messageID body finalAnswer resolution
        confidence now stamp).2 := by
  unfold Broker.frameMessagingReply
  split
  · exact .refl
  rename_i sid sess located
  obtain ⟨stored, _⟩ := frameSessionForSource_ok located
  dsimp only
  cases found : (messagesOf sess.frameMessaging).find? fun msg => msg.id == messageID with
  | none =>
    unfold messagesOf at found
    rw [found]
    exact .refl
  | some msg =>
    have named : (msg.id == messageID) = true :=
      find?_some (p := fun other : FrameMessage => other.id == messageID) found
    obtain rfl := beq_iff_eq.mp named
    have held := found
    unfold messagesOf at held
    rw [held]
    simp only [elim_some]
    split
    · exact .refl
    rename_i own
    split
    · exact .refl
    rename_i unanswered
    split
    · exact .refl
    have change : Change splitArgs sess (.reply source msg.id body finalAnswer resolution confidence now stamp)
        (some ⟨_, updateMessage msg.id (Broker.answered
          (Broker.newReply source body finalAnswer resolution confidence now stamp)) _⟩)
        [.messageReply msg.id (frameReplyToSnapshot
          (Broker.newReply source body finalAnswer resolution confidence now stamp))] :=
      .replied ⟨body, finalAnswer, confidence, now, stamp, rfl⟩ found
        (Decidable.not_not.mp own).symm (by simpa using unanswered)
    exact .commit stored change

variable {messaging next : SessionFrameMessaging} {chosen : Nat → FrameMessage → Bool}

theorem mem_newlyRead (marks : next.messages = markRead chosen messaging.messages) : id ∈ newlyRead messaging next ↔
      ∃ (i : Nat) (msg : FrameMessage), messaging.messages[i]? = some msg ∧ chosen i msg = true ∧
        msg.read = false ∧ msg.id = id := by
  have marked_at : ∀ i (msg : FrameMessage), messaging.messages[i]? = some msg →
      next.messages[i]? = some (if chosen i msg then { msg with read := true } else msg) := by
    intro i msg held
    rw [marks, markRead, getElem?_mapIdx, held, map_some]
  constructor
  · intro mem
    obtain ⟨⟨after, msg⟩, kept, rfl⟩ := List.mem_map.mp mem
    obtain ⟨paired, changed⟩ := mem_filter.mp kept
    obtain ⟨i, here⟩ := mem_iff_getElem?.mp paired
    obtain ⟨marked, held⟩ := getElem?_zip_eq_some.mp here
    have marked' := (marked_at i msg held).symm.trans marked
    simp only [some.injEq] at marked'
    simp only [Bool.and_eq_true, Bool.not_eq_true'] at changed
    refine ⟨i, msg, held, ?_, changed.2, ?_⟩
    · by_contra unchosen
      rw [if_neg unchosen] at marked'
      rw [← marked', changed.2] at changed
      cases changed.1
    · rw [← marked']
      split <;> rfl
  · rintro ⟨i, msg, held, picked, unread, rfl⟩
    have marked := marked_at i msg held
    rw [if_pos picked] at marked
    have paired := mem_iff_getElem?.mpr
      ⟨i, getElem?_zip_eq_some (z := ({ msg with read := true }, msg)) |>.mpr ⟨marked, held⟩⟩
    have kept := mem_filter (p := fun m : FrameMessage × FrameMessage =>
      m.1.read && !m.2.read) |>.mpr ⟨paired, by simp [unread]⟩
    exact List.mem_map.mpr ⟨_, kept, rfl⟩

theorem markSessionMessagesReadThroughID_some {last : String}
    (marked : markSessionMessagesReadThroughID messaging last = some next) :
    ∃ chosen, next.messages = markRead chosen messaging.messages ∧
      (messaging.summary = computeFrameMessagingSummary messaging.messages →
        next.summary = computeFrameMessagingSummary next.messages) := by
  unfold markSessionMessagesReadThroughID at marked
  split at marked
  · cases marked
  split at marked
  · cases marked
  rename_i boundary _
  have marks : (messaging.messages.mapIdx fun i msg =>
      if i ≤ boundary then { msg with read := true } else msg) =
        markRead (fun i _ => decide (i ≤ boundary)) messaging.messages := by
    simp [markRead]
  dsimp only at marked
  split at marked
  · cases marked
  rw [marks] at marked
  rw [← some.inj marked]
  exact ⟨_, rfl, fun summed => by rw [compute_markRead, ← summed]⟩

theorem change_of_marks (found : sess.frameMessaging = some messaging)
    (marks : next.messages = markRead chosen messaging.messages)
    (summed : messaging.summary = computeFrameMessagingSummary messaging.messages →
      next.summary = computeFrameMessagingSummary next.messages) :
    Change splitArgs sess a (some next) (if (newlyRead messaging next).isEmpty then []
        else [.messageRead (newlyRead messaging next)]) := by
  have listed : ∀ id, id ∈ newlyRead messaging next ↔ _ := fun _ => mem_newlyRead marks
  generalize newlyRead messaging next = ids at listed
  obtain ⟨summary, messages⟩ := next
  subst marks
  exact .marked found summed listed

theorem foldl_persistRead_host {effs : List (Effect D)} : (effs.foldl Broker.persistRead b).host = b.host := by
  induction effs generalizing b with
  | nil => rfl
  | cons eff rest ih =>
    rw [foldl_cons, ih]
    unfold Broker.persistRead
    split
    · split <;> rfl
    · rfl

variable {connID : ConnID} {reqID : String}

theorem evolves_webRead {params : SessionMessagesParams} : Evolves splitArgs a b
      ((reduceReadSessionMessages b.host connID reqID params).2.foldl Broker.persistRead
        { b with host := (reduceReadSessionMessages b.host connID reqID params).1 }) := by
  unfold reduceReadSessionMessages
  split
  · exact .refl
  split
  · exact .refl
  rename_i sess stored
  split
  · exact .refl
  rename_i messaging held
  split
  · exact .refl
  rename_i next marked
  obtain ⟨chosen, marks, summed⟩ := markSessionMessagesReadThroughID_some marked
  have change : Change splitArgs sess a _ _ := change_of_marks held marks summed
  refine .put stored change (congrArg State.sessions foldl_persistRead_host) fun k => ?_
  rw [foldl_append]
  split
  · rw [ite_self, append_nil]
    simp only [okResp, foldl_cons, foldl_nil, Broker.persistRead, Broker.journal]
  rename_i some_new
  have appended : ∀ b₁ : Broker D, [Effect.frameMessagingPersistRead params.sessionID
        (newlyRead messaging next)].foldl Broker.persistRead b₁ =
      ⟨b₁.host, b₁.journals.set params.sessionID (b₁.journal params.sessionID ++
        [.messageRead (newlyRead messaging next)])⟩ := by
    intro b₁
    simp only [foldl_cons, foldl_nil, Broker.persistRead, if_neg some_new]
  rw [appended]
  exact Broker.journal_set

variable {rest : Session D}

theorem stored_kept {sess' : Session D} (stored : s.sessions.get? sid = some sess)
    (kept : rest.frameMessaging = sess.frameMessaging) (after : (s.sessions.set sid rest).get? k = some sess') :
    ∃ old, s.sessions.get? k = some old ∧ sess'.frameMessaging = old.frameMessaging := by
  rcases get?_of_set after with ⟨rfl, rfl⟩ | before
  · exact ⟨sess, stored, kept⟩
  · exact ⟨sess', before, rfl⟩

theorem evolves_stop : Evolves splitArgs a b { b with host := (reduceStopSession b.host connID reqID sid).1 } := by
  refine .kept rfl fun k sess' after => ?_
  unfold reduceStopSession at after
  split at after
  · exact ⟨sess', after, rfl⟩
  rename_i sess found
  have kept : (endSession sess b.host.now).frameMessaging = sess.frameMessaging := rfl
  exact stored_kept found kept after

variable {i : Nat}

theorem dropChild_messaging {removed : SessionFrame D} (dropped : dropChild sess i frameID = .ok (rest, removed)) :
    rest.frameMessaging = sess.frameMessaging := by
  obtain ⟨⟨left, gone⟩, removal, chosen⟩ := bind_eq_ok.mp dropped
  obtain ⟨frame, _, shape⟩ := bind_eq_ok.mp removal
  cases shape
  dsimp only at chosen
  split at chosen
  · split at chosen
    · obtain ⟨root, _, last⟩ := bind_eq_ok.mp chosen
      cases last
      rfl
    · cases chosen
      rfl
  · cases chosen
    rfl

theorem evolves_evict {kill : Bool} {disposition : RootDisposition} {evicted : Option (Reduced D)}
    (done : evictFrame d b.host frameID kill disposition = .ok evicted) :
    Evolves splitArgs a b { b with host := evicted.elim b.host Prod.fst } := by
  refine .kept rfl fun k sess' after => ?_
  revert done
  fun_cases evictFrame d b.host frameID kill disposition <;> intro done
  case case1 =>
    cases done
    exact ⟨sess', after, rfl⟩
  case case2 sid sess located =>
    cases done
    obtain ⟨stored, _⟩ := findFrame_spec located
    simp only [elim_some] at after
    rw [(evictRootFrame_requestsOnly d b.host sid sess kill disposition).rest] at after
    cases disposition with
    | retainEndedSession =>
      have kept : (endSession sess b.host.now).frameMessaging = sess.frameMessaging := rfl
      exact stored_kept stored kept after
    | dropUnstartedSession =>
      have left := after
      exact ⟨sess', (get?_of_delete left).2, rfl⟩
  case case3 sid sess i located _ =>
    obtain ⟨stored, _⟩ := findFrame_spec located
    obtain ⟨result, child, last⟩ := bind_eq_ok.mp done
    cases last
    obtain ⟨⟨rest, removed⟩, dropped, last⟩ := bind_eq_ok.mp child
    cases last
    simp only [elim_some] at after
    rw [(storeChild_requestsOnly d b.host sid rest frameID removed.id kill).rest] at after
    exact stored_kept stored (dropChild_messaging dropped) after

theorem Broker.Step.evolves (step : Broker.Step splitArgs b a b') : Evolves splitArgs a b b' := by
  obtain ⟨d, applied⟩ := step
  cases a with
  | read =>
    cases applied
    exact evolves_read
  | send =>
    cases applied
    exact evolves_send
  | reply =>
    cases applied
    exact evolves_reply
  | webRead =>
    cases applied
    exact evolves_webRead
  | stopSession =>
    cases applied
    exact evolves_stop
  | evictFrame frameID kill disposition =>
    obtain ⟨evicted, returned, rfl⟩ := map_eq_some_iff.mp applied
    cases outcome : Host.evictFrame d b.host frameID kill disposition with
    | error =>
      rw [outcome] at returned
      cases returned
    | ok =>
      rw [outcome] at returned
      cases returned
      exact evolves_evict outcome

/-! ## What becomes of a message -/

/-- The later message is the earlier one, with its reply if there was one; a reply that is new is
the one its target has just sent. -/
structure Follows (a : Operation) (msg msg' : FrameMessage) : Prop where
  id : msg'.id = msg.id
  source : msg'.sourceFrameID = msg.sourceFrameID
  target : msg'.targetFrameID = msg.targetFrameID
  replied : ∀ reply, msg.reply = some reply → msg'.reply = some reply
  new : ∀ reply, msg.reply = none → msg'.reply = some reply →
    reply.sourceFrameID = msg.targetFrameID ∧ ∃ body finalAnswer confidence now stamp, a =
      .reply reply.sourceFrameID msg.id body finalAnswer reply.resolution confidence now stamp

theorem Follows.of_read (read : Bool) : Follows a msg { msg with read := read } :=
  ⟨rfl, rfl, rfl, fun _ before => before, fun reply none_yet some_now => by
    rw [none_yet] at some_now
    cases some_now⟩

theorem Follows.refl : Follows a msg msg := .of_read msg msg.read

variable {msg : FrameMessage}

theorem Follows.answered {reply : FrameReply} (unanswered : msg.reply = none)
    (own : reply.sourceFrameID = msg.targetFrameID) (asked : ∃ body finalAnswer confidence now stamp, a =
      .reply reply.sourceFrameID msg.id body finalAnswer reply.resolution confidence now stamp) :
    Follows a msg (Broker.answered reply msg) where
  id := by simp only [Broker.answered]
  source := by simp only [Broker.answered]
  target := by simp only [Broker.answered]
  replied := by
    intro old before
    cases unanswered.symm.trans before
  new := by
    intro new _ recorded
    simp only [Broker.answered, some.injEq] at recorded
    subst recorded
    exact ⟨own, asked⟩

theorem getElem?_updateMessage {change : FrameMessage → FrameMessage} (held : messages[i]? = some msg) :
    (updateMessage id change messages)[i]? = some msg ∨ messages.find? (fun m => m.id == id) = some msg ∧
        (updateMessage id change messages)[i]? = some (change msg) := by
  induction messages generalizing i with
  | nil => cases held
  | cons first rest ih =>
    unfold updateMessage
    cases i with
    | zero =>
      cases held
      split
      · rename_i here
        exact .inr ⟨by simp [here], rfl⟩
      · exact .inl rfl
    | succ i =>
      split
      · exact .inl held
      rename_i elsewhere
      rcases ih held with same | ⟨found, changed⟩
      · exact .inl same
      · exact .inr ⟨by simpa [elsewhere] using found, changed⟩

theorem Change.follows {messaging : Option SessionFrameMessaging} (change : Change splitArgs sess a messaging records)
    (held : (messagesOf sess.frameMessaging)[i]? = some msg) :
    ∃ msg', (messagesOf messaging)[i]? = some msg' ∧ Follows a msg msg' := by
  cases change with
  | kept => exact ⟨msg, held, .refl msg⟩
  | sent =>
    have inside : i < (messagesOf sess.frameMessaging).length := (List.getElem?_eq_some_iff.mp held).1
    exact ⟨msg, (getElem?_append_left inside).trans held, .refl msg⟩
  | @marked messaging chosen _ _ found _ _ =>
    rw [found] at held
    have marked : (markRead chosen messaging.messages)[i]? =
        some (if chosen i msg then { msg with read := true } else msg) := by
      have here : messaging.messages[i]? = some msg := held
      rw [markRead, getElem?_mapIdx, here, map_some]
    rw [messagesOf_some]
    refine ⟨_, marked, ?_⟩
    split
    · exact .of_read msg true
    · exact .refl msg
  | @replied target reply asked found own unanswered =>
    have updated : (updateMessage target.id (Broker.answered reply)
          (messagesOf sess.frameMessaging))[i]? = some msg ∨ _ ∧
        (updateMessage target.id (Broker.answered reply)
          (messagesOf sess.frameMessaging))[i]? = some (Broker.answered reply msg) :=
      getElem?_updateMessage held
    rw [messagesOf_some]
    rcases updated with same | ⟨here, changed⟩
    · exact ⟨msg, same, .refl msg⟩
    cases found.symm.trans here
    exact ⟨_, changed, .answered unanswered own asked⟩

theorem length_updateMessage {change : FrameMessage → FrameMessage} :
    (updateMessage id change messages).length = messages.length := by
  induction messages with
  | nil => rfl
  | cons first rest ih =>
    unfold updateMessage
    split
    · rfl
    · rw [length_cons, length_cons, ih]

variable {msg' : FrameMessage}

theorem Change.origin {messaging : Option SessionFrameMessaging}
    (change : Change splitArgs sess a messaging records) (held : msg' ∈ messagesOf messaging) :
    (∃ msg ∈ messagesOf sess.frameMessaging, Follows a msg msg') ∨
      msg'.sourceFrameID ≠ msg'.targetFrameID ∧ msg'.reply = none ∧
        AgentOf splitArgs sess msg'.sourceFrameID ∧ AgentOf splitArgs sess msg'.targetFrameID ∧
        ∃ topic body priority now stamp, a =
          .send msg'.sourceFrameID msg'.targetFrameID topic body priority now stamp := by
  have by_index : (messagesOf messaging).length = (messagesOf sess.frameMessaging).length →
      ∃ msg ∈ messagesOf sess.frameMessaging, Follows a msg msg' := by
    intro same
    obtain ⟨i, here⟩ := mem_iff_getElem?.mp held
    have inside := (List.getElem?_eq_some_iff.mp here).1
    rw [same] at inside
    have before := getElem?_eq_getElem inside
    obtain ⟨later, there, follows⟩ := change.follows before
    cases here.symm.trans there
    exact ⟨_, getElem_mem inside, follows⟩
  cases change with
  | kept => exact .inl (by_index rfl)
  | @sent msg stamp asked _ source target distinct new =>
    rcases mem_append.mp held with old | last
    · exact .inl ⟨msg', old, .refl msg'⟩
    obtain rfl := mem_singleton.mp last
    obtain ⟨topic, body, priority, now, asked⟩ := asked
    exact .inr ⟨distinct, new.2.1, source, target, topic, body, priority, now, stamp, asked⟩
  | marked found =>
    refine .inl (by_index ?_)
    rw [found]
    exact length_mapIdx
  | replied => exact .inl (by_index length_updateMessage)

theorem Change.summed (change : Change splitArgs sess a (some messaging) records)
    (before : ∀ held, sess.frameMessaging = some held → held.summary = computeFrameMessagingSummary held.messages) :
    messaging.summary = computeFrameMessagingSummary messaging.messages := by
  generalize same : some messaging = after at change
  cases change with
  | kept => exact before messaging same.symm
  | sent | replied =>
    cases same
    rfl
  | marked found summed =>
    cases same
    exact summed (before _ found)

/-! ## Runs -/

/-- The message has two parties, and its reply, if any, is by its target. -/
structure Parties (msg : FrameMessage) : Prop where
  distinct : msg.sourceFrameID ≠ msg.targetFrameID
  replier : ∀ reply, msg.reply = some reply → reply.sourceFrameID = msg.targetFrameID

theorem Follows.parties (follows : Follows a msg msg') (parties : Parties msg) : Parties msg' := by
  constructor
  · rw [follows.source, follows.target]
    exact parties.distinct
  · intro reply recorded
    rw [follows.target]
    cases before : msg.reply with
    | none => exact (follows.new reply before recorded).1
    | some old =>
      cases (follows.replied old before).symm.trans recorded
      exact parties.replier reply before

/-- The two parties were agent frames of the session in the state of the run in which the message
was sent. -/
def SentBetween (splitArgs : String → Option (List String)) (b₀ : Broker D)
    (labels : List Operation) (b : Broker D) (sid : SessionID) (msg : FrameMessage) : Prop :=
  ∃ before topic body priority now stamp more b₁ sess,
    let sent := .send msg.sourceFrameID msg.targetFrameID topic body priority now stamp :: more
    labels = before ++ sent ∧ Run (Broker.Step splitArgs) b₀ before b₁ ∧ Run (Broker.Step splitArgs) b₁ sent b ∧
    b₁.host.sessions.get? sid = some sess ∧
    AgentOf splitArgs sess msg.sourceFrameID ∧ AgentOf splitArgs sess msg.targetFrameID

variable {b₀ : Broker D} {labels : List Operation}

theorem SentBetween.later (sent : SentBetween splitArgs b₀ labels b sid msg) (step : Broker.Step splitArgs b a b')
    (follows : Follows a msg msg') : SentBetween splitArgs b₀ (labels ++ [a]) b' sid msg' := by
  obtain ⟨before, topic, body, priority, now, stamp, more, b₁, sess, shape, run, goes, rest⟩ := sent
  refine ⟨before, topic, body, priority, now, stamp, more ++ [a], b₁, sess, ?_, run, ?_, ?_⟩
  · rw [shape, follows.source, follows.target, append_assoc, cons_append]
  · rw [follows.source, follows.target]
    exact goes.snoc step
  · rwa [follows.source, follows.target]

/-- What holds of the messages of a session after the operations of a run. -/
structure Isolated (splitArgs : String → Option (List String)) (b₀ : Broker D)
    (labels : List Operation) (b : Broker D) (sid : SessionID) (messaging : Option SessionFrameMessaging) :
    Prop where
  summed : ∀ held, messaging = some held → held.summary = computeFrameMessagingSummary held.messages
  parties : ∀ msg ∈ messagesOf messaging, Parties msg
  sent : ∀ msg ∈ messagesOf messaging, SentBetween splitArgs b₀ labels b sid msg

theorem Isolated.change {messaging : Option SessionFrameMessaging}
    (isolated : Isolated splitArgs b₀ labels b sid sess.frameMessaging) (step : Broker.Step splitArgs b a b')
    (run : Run (Broker.Step splitArgs) b₀ labels b) (found : b.host.sessions.get? sid = some sess)
    (change : Change splitArgs sess a messaging records) :
    Isolated splitArgs b₀ (labels ++ [a]) b' sid messaging := by
  constructor
  · rintro held rfl
    exact change.summed isolated.summed
  · intro msg' held
    rcases change.origin held with ⟨msg, old, follows⟩ | ⟨distinct, unanswered, _⟩
    · exact follows.parties (isolated.parties msg old)
    refine ⟨distinct, fun reply recorded => ?_⟩
    cases unanswered.symm.trans recorded
  · intro msg' held
    rcases change.origin held with ⟨msg, old, follows⟩ |
      ⟨_, _, source, target, topic, body, priority, now, stamp, rfl⟩
    · exact (isolated.sent msg old).later step follows
    · exact ⟨labels, topic, body, priority, now, stamp, [], b, sess, rfl, run, Run.refl.snoc step, found,
        source, target⟩

theorem visible_of_read {ms : List FrameMessage}
    (returned : (b.frameMessagingRead splitArgs order source peer).1 = .ok (sid, ms)) :
    ∀ msg ∈ ms, msg.sourceFrameID = source ∨ msg.targetFrameID = source := by
  have party : ∀ messages : List FrameMessage, ∀ msg ∈ messages.filter (Broker.visible source peer),
        msg.sourceFrameID = source ∨ msg.targetFrameID = source := by
    intro messages msg mem
    have seen := (Bool.and_eq_true_iff.mp (mem_filter.mp mem).2).1
    simpa using seen
  unfold Broker.frameMessagingRead at returned
  split at returned
  · cases returned
  rename_i sess _
  split at returned
  · cases returned
  cases held : sess.frameMessaging with
  | none =>
    rw [held] at returned
    cases returned
    exact forall_mem_nil _
  | some =>
    rw [held] at returned
    simp only [elim_some] at returned
    split at returned <;> cases returned <;> exact party _

/-- In every run of messaging operations and teardowns, from sessions without messages: a message
has two distinct parties that were agent frames of the session when it was sent; its reply comes
from its target, is recorded once and stays; a frame reads its own messages only; and the stored
summary is that of the stored messages. -/
theorem messages_stay_between_frames {b₀ b : Broker D} {labels : List Operation}
    (blank : ∀ sid sess, b₀.host.sessions.get? sid = some sess → sess.frameMessaging = none)
    (run : Run (Broker.Step splitArgs) b₀ labels b) :
    (∀ sid sess, b.host.sessions.get? sid = some sess → Isolated splitArgs b₀ labels b sid sess.frameMessaging) ∧
      (∀ a b' sid sess sess' (i : Nat) msg, Broker.Step splitArgs b a b' →
        b.host.sessions.get? sid = some sess → b'.host.sessions.get? sid = some sess' →
        (messagesOf sess.frameMessaging)[i]? = some msg →
        ∃ msg', (messagesOf sess'.frameMessaging)[i]? = some msg' ∧ Follows a msg msg') ∧
      ∀ order source peer sid ms, (b.frameMessagingRead splitArgs order source peer).1 = .ok (sid, ms) →
        ∀ msg ∈ ms, msg.sourceFrameID = source ∨ msg.targetFrameID = source := by
  refine ⟨?_, ?_, fun _ _ _ _ _ returned => visible_of_read returned⟩
  · refine Run.history (fun labels b => ∀ sid sess, b.host.sessions.get? sid = some sess →
      Isolated splitArgs b₀ labels b sid sess.frameMessaging) ?_ ?_ run
    · intro sid sess found
      rw [blank sid sess found]
      exact ⟨nofun, forall_mem_nil _, forall_mem_nil _⟩
    · intro labels b a b' reached isolated step sid sess' after
      obtain ⟨sess, records, found, change, _⟩ := step.evolves sid sess' after
      exact (isolated sid sess found).change step reached found change
  · intro a b' sid sess sess' i msg step found after held
    obtain ⟨_, records, before, change, _⟩ := step.evolves sid sess' after
    cases found.symm.trans before
    exact change.follows held

/-! ## A session with two agents -/

theorem drive_steps (splitArgs : String → Option (List String)) (inputs : List Operation)
    (driven : drive (fun b a => (Broker.apply splitArgs (Draw.tagged 'z') b a).map (·, a)) b
      inputs = some (b', labels)) : Run (Broker.Step splitArgs) b labels b' := by
  have sound : ∀ (s : Broker D) input s' a,
      (Broker.apply splitArgs (Draw.tagged 'z') s input).map (·, input) = some (s', a) →
        Broker.Step splitArgs s a s' := by
    intro s input s' a tried
    obtain ⟨_, applied, same⟩ := map_eq_some_iff.mp tried
    cases same
    exact ⟨_, applied⟩
  exact drive_run sound driven

def agentFrame (id : FrameID) : SessionFrame Unit :=
  { id := id, project := "p", command := "claude", createdAt := 0, driver := none }

/-- A session with the agents `f` and `g`. -/
def pair : Broker Unit :=
  { host := { (State.new {} : State Unit) with
      sessions := (∅ : GoMap SessionID (Session Unit)).set "s"
        { id := "s", project := "p", command := "claude", headFrameID := "f"
          frames := [agentFrame "f", agentFrame "g"] } } }

theorem pair_blank : ∀ sid sess, pair.host.sessions.get? sid = some sess → sess.frameMessaging = none := by
  intro sid sess found
  have stored : ((∅ : GoMap SessionID (Session Unit)).set "s" _).get? sid = some sess := found
  rw [get?_set] at stored
  split at stored <;> cases stored
  rfl

/-- What the operations make of that session's broker. -/
def after (ops : List Operation) : Broker Unit :=
  ((drive (fun b a => (Broker.apply (fun _ => none) (Draw.tagged 'z') b a).map (·, a)) pair
    ops).map Prod.fst).getD pair

def Broker.held (b : Broker Unit) : List FrameMessage :=
  (b.host.sessions.get? "s").elim [] fun sess => messagesOf sess.frameMessaging

/-- The agent `f` asks and `g` answers. -/
def exchange : List Operation :=
  [.send "f" "g" "t" "hello" "" 0 1, .reply "g" "msg-1" "yes" "" "" "" 1 2]

theorem answered_message_isolated :
    ((after exchange).held.map fun msg => msg.reply.map FrameReply.sourceFrameID) = [some "g"] ∧
      ∀ sess, (after exchange).host.sessions.get? "s" = some sess →
        Isolated (fun _ => none) pair exchange (after exchange) "s" sess.frameMessaging := by
  have run : Run (Broker.Step fun _ => none) pair exchange (after exchange) :=
    drive_steps (fun _ => none) exchange rfl
  exact ⟨by decide +kernel, (messages_stay_between_frames pair_blank run).1 "s"⟩

/-- The agent `f` asks `g`, whose frame then vanishes. -/
def unheard : List Operation :=
  [.send "f" "g" "t" "hello" "" 0 1, .evictFrame "g" false .retainEndedSession]

/-- A message outlives the frame it was sent to. -/
theorem message_outlives_target : Run (Broker.Step fun _ => none) pair unheard (after unheard) ∧
      (after unheard).held.map FrameMessage.targetFrameID = ["g"] ∧
      ∀ sess, (after unheard).host.sessions.get? "s" = some sess → ¬ AgentOf (fun _ => none) sess "g" := by
  refine ⟨drive_steps (fun _ => none) unheard rfl, by decide +kernel, ?_⟩
  rintro sess found ⟨frame, mem, named, _⟩
  have left : ((after unheard).host.sessions.get? "s").map (fun sess => sess.frames.map (·.id)) =
      some ["f"] := by decide +kernel
  rw [found] at left
  have ids : sess.frames.map (·.id) = ["f"] := some.inj left
  have listed : frame.id ∈ sess.frames.map (·.id) := List.mem_map_of_mem mem
  rw [ids, named] at listed
  exact absurd listed (by decide)

end AgentGrid.Messaging
