import AgentGrid.Messaging.Isolation

/-!
# Replay of the journal

The journal of a session is replayed over a snapshot that overlaps it.  A record that the
snapshot already reflects changes nothing, and the others repeat what the operations did.
-/

namespace AgentGrid.Messaging

open AgentGrid.Lib AgentGrid.Host List Option

attribute [local simp] frameMessageToSnapshot frameReplyToSnapshot

variable {D : Type} {splitArgs : String → Option (List String)} {sess : Session D}
  {sid : SessionID} {a : Operation}

/-! ## The replay -/

/-- What `applyFrameMessagingSent` keeps of the message that is there already. -/
def preserving (msg preserved : FrameMessage) : FrameMessage :=
  { msg with
    read := preserved.read || msg.read, reply := if preserved.reply.isSome then preserved.reply else msg.reply
    replyStatus := if preserved.replyStatus ≠ "" then preserved.replyStatus else msg.replyStatus
    deliveryStatus :=
      if preserved.deliveryStatus ≠ "" then preserved.deliveryStatus else msg.deliveryStatus }

variable (messages : List FrameMessage) (msg : FrameMessage)

def applyFrameMessagingSent : List FrameMessage :=
  if messages.any fun m => m.id == msg.id then updateMessage msg.id (preserving msg) messages
  else messages ++ [msg]

def restored (reply : FrameReply) (msg : FrameMessage) : FrameMessage :=
  { msg with
    reply := some reply, replyStatus := if reply.resolution ≠ "" then reply.resolution else "replied"
    deliveryStatus := "replied" }

def applyFrameMessagingReply (messageID : String) (reply : FrameReply) : List FrameMessage :=
  if messageID = "" then messages else updateMessage messageID (restored reply) messages

def applyFrameMessagingRead (ids : List String) : List FrameMessage :=
  messages.map fun msg => if msg.id ∈ ids.filter (· ≠ "") then { msg with read := true } else msg

def applyFrameMessagingJournalRecord : JournalRecord → List FrameMessage
  | .messageSent msg => applyFrameMessagingSent messages msg
  | .messageReply messageID reply => applyFrameMessagingReply messages messageID reply
  | .messageRead ids => applyFrameMessagingRead messages ids

/-- The longest line the scanner of the journal accepts, with its newline. -/
def maxLine : Nat := 2 ^ 20

/-- `loadFrameMessagingFromJournal`; `none` is a journal with a line that is too long.  The length
of the line of a record is given by `size`. -/
def loadFrameMessagingFromJournal (size : JournalRecord → Nat)
    (base : Option SessionFrameMessaging) (records : List JournalRecord) : Option (Option SessionFrameMessaging) :=
  if records.isEmpty then some base
  else if records.any fun entry => decide (maxLine < size entry + 1) then none
  else
    let messages := records.foldl applyFrameMessagingJournalRecord (messagesOf base)
    some (some ⟨computeFrameMessagingSummary messages, messages⟩)

/-- `snapshotFrameMessaging` and back. -/
def snapshotFrameMessaging (messaging : Option SessionFrameMessaging) : Option SessionFrameMessaging :=
  messaging.map fun held => ⟨held.summary, held.messages.map frameMessageToSnapshot⟩

/-! ## Records that are reflected already -/

variable {id : String} {messages : List FrameMessage}

/-- Where the ids differ, the first message of an id is the only one. -/
theorem updateMessage_eq_map (nodup : (messages.map FrameMessage.id).Nodup) (change : FrameMessage → FrameMessage) :
    updateMessage id change messages = messages.map fun m => if m.id = id then change m else m := by
  induction messages with
  | nil => rfl
  | cons first rest ih =>
    obtain ⟨absent, later⟩ := nodup_cons.mp nodup
    unfold updateMessage
    split
    · rename_i here
      have others : rest.map (fun m => if m.id = id then change m else m) = rest := by
        refine (map_congr_left fun m mem => if_neg ?_).trans (List.map_id' rest)
        rintro rfl
        exact absent (here ▸ List.mem_map_of_mem mem)
      rw [map_cons, if_pos here, others]
    · rename_i elsewhere
      rw [map_cons, if_neg elsewhere, ih later]

theorem map_id_snapshot (messages : List FrameMessage) :
    (messages.map frameMessageToSnapshot).map FrameMessage.id = messages.map FrameMessage.id := by
  rw [List.map_map]
  rfl

variable {msg : FrameMessage}

def fixedPart (msg : FrameMessage) : FrameMessage :=
  { msg with read := false, reply := none, replyStatus := "", deliveryStatus := "" }

variable {m m' : FrameMessage}

theorem id_of_fixedPart (same : fixedPart m = fixedPart m') : m.id = m'.id := by
  have ids : (fixedPart m).id = (fixedPart m').id := by rw [same]
  exact ids

/-- A message has an id and a status of each kind. -/
structure Labelled (msg : FrameMessage) : Prop where
  id : msg.id ≠ ""
  replyStatus : msg.replyStatus ≠ ""
  deliveryStatus : msg.deliveryStatus ≠ ""

/-- The messages show what the record says; a message is sent without a read mark and without a
reply. -/
def Reflected (messages : List FrameMessage) : JournalRecord → Prop
  | .messageSent msg => msg.read = false ∧ msg.reply = none ∧ ∃ m ∈ messages, fixedPart m = fixedPart msg
  | .messageReply id reply => ∃ m ∈ messages, m.id = id ∧ restored reply m = m
  | .messageRead ids => ∀ id ∈ ids, ∃ m ∈ messages, m.id = id ∧ m.read = true

theorem preserving_eq (unread : msg.read = false) (unanswered : msg.reply = none)
    (fixed : fixedPart m = fixedPart msg) (labelled : Labelled m) : preserving msg m = m := by
  obtain ⟨_, replyStatus, deliveryStatus⟩ := labelled
  cases m
  cases msg
  obtain ⟨rfl, rfl, rfl, rfl, rfl, rfl, rfl, _⟩ := fixed
  subst unread unanswered
  simp only [preserving, Bool.or_false, if_pos replyStatus, if_pos deliveryStatus, FrameMessage.mk.injEq, true_and]
  split
  · rfl
  · rename_i none_yet
    exact (not_isSome_iff_eq_none.mp none_yet).symm

variable {entry : JournalRecord}

theorem Reflected.apply (nodup : (messages.map FrameMessage.id).Nodup)
    (labelled : ∀ msg ∈ messages, Labelled msg) (reflected : Reflected messages entry) :
    applyFrameMessagingJournalRecord messages entry = messages := by
  have idle : ∀ {change}, (∀ msg ∈ messages, change msg = msg) →
      messages.map change = messages := fun each => (map_congr_left each).trans (List.map_id' messages)
  have one := inj_on_of_nodup_map nodup
  cases entry with
  | messageSent msg =>
    obtain ⟨unread, unanswered, m, mem, fixed⟩ := reflected
    have named := id_of_fixedPart fixed
    have present : (messages.any fun m => m.id == msg.id) = true := List.any_eq_true.mpr ⟨m, mem, by simp [named]⟩
    show applyFrameMessagingSent messages msg = messages
    rw [applyFrameMessagingSent, if_pos present, updateMessage_eq_map nodup]
    refine idle fun m' mem' => ite_eq_right_iff.mpr fun named' => ?_
    rw [one mem' mem (named'.trans named.symm)]
    exact preserving_eq unread unanswered fixed (labelled m mem)
  | messageReply id reply =>
    obtain ⟨m, mem, named, kept⟩ := reflected
    show applyFrameMessagingReply messages id reply = messages
    rw [applyFrameMessagingReply, updateMessage_eq_map nodup]
    refine ite_eq_left_iff.mpr fun _ => idle fun m' mem' => ite_eq_right_iff.mpr fun named' => ?_
    rw [one mem' mem (named'.trans named.symm), kept]
  | messageRead ids =>
    refine idle fun msg mem => ite_eq_right_iff.mpr fun listed => ?_
    obtain ⟨m, there, same, read⟩ := reflected _ (mem_filter.mp listed).1
    rw [one there mem same] at read
    rw [← read]

/-- The later message says what the earlier one says, and perhaps more. -/
structure Keeps (msg msg' : FrameMessage) : Prop where
  fixed : fixedPart msg' = fixedPart msg
  read : msg.read = true → msg'.read = true
  reply : msg.reply.isSome = true → msg'.reply = msg.reply ∧ msg'.replyStatus = msg.replyStatus ∧
    msg'.deliveryStatus = msg.deliveryStatus

theorem Keeps.of_read (msg : FrameMessage) : Keeps msg { msg with read := true } :=
  ⟨rfl, fun _ => rfl, fun _ => ⟨rfl, rfl, rfl⟩⟩

theorem Keeps.refl (msg : FrameMessage) : Keeps msg msg :=
  ⟨rfl, fun read => read, fun _ => ⟨rfl, rfl, rfl⟩⟩

variable {reply : FrameReply}

theorem Keeps.of_reply (unanswered : msg.reply = none) : Keeps msg (restored reply msg) := by
  refine ⟨by simp only [restored, fixedPart], fun read => by simpa only [restored] using read, ?_⟩
  intro some_reply
  rw [unanswered] at some_reply
  cases some_reply

theorem restored_iff : restored reply m = m ↔ m.reply = some reply ∧
      m.replyStatus = (if reply.resolution ≠ "" then reply.resolution else "replied") ∧
      m.deliveryStatus = "replied" := by
  cases m
  simp only [restored, FrameMessage.mk.injEq, true_and]
  constructor
  · rintro ⟨replyStatus, deliveryStatus, replied⟩
    exact ⟨replied.symm, replyStatus.symm, deliveryStatus.symm⟩
  · rintro ⟨replied, replyStatus, deliveryStatus⟩
    exact ⟨replyStatus.symm, deliveryStatus.symm, replied.symm⟩

theorem Reflected.later {messages' : List FrameMessage} (grows : ∀ msg ∈ messages, ∃ msg' ∈ messages', Keeps msg msg')
    (reflected : Reflected messages entry) : Reflected messages' entry := by
  cases entry with
  | messageSent =>
    obtain ⟨unread, unanswered, m, mem, fixed⟩ := reflected
    obtain ⟨m', mem', keeps⟩ := grows m mem
    exact ⟨unread, unanswered, m', mem', keeps.fixed.trans fixed⟩
  | messageReply id reply =>
    obtain ⟨m, mem, named, kept⟩ := reflected
    obtain ⟨m', mem', keeps⟩ := grows m mem
    obtain ⟨replied, replyStatus, deliveryStatus⟩ := restored_iff.mp kept
    obtain ⟨replied', replyStatus', deliveryStatus'⟩ := keeps.reply (by simp [replied])
    exact ⟨m', mem', (id_of_fixedPart keeps.fixed).trans named, restored_iff.mpr
      ⟨replied'.trans replied, replyStatus'.trans replyStatus, deliveryStatus'.trans deliveryStatus⟩⟩
  | messageRead =>
    intro id listed
    obtain ⟨m, mem, named, read⟩ := reflected id listed
    obtain ⟨m', mem', keeps⟩ := grows m mem
    exact ⟨m', mem', (id_of_fixedPart keeps.fixed).trans named, keeps.read read⟩

/-! ## The operations and their records -/

/-- The clock has not given the number of the message before. -/
def Operation.Unique (messages : List FrameMessage) : Operation → Prop
  | .send _ _ _ _ _ _ stamp => ∀ msg ∈ messages, msg.id ≠ "msg-" ++ toString stamp
  | _ => True

/-- The resolution of a reply is empty or has more than white space. -/
def Operation.Plain : Operation → Prop
  | .reply _ _ _ _ resolution _ _ _ => resolution = "" ∨ blank resolution = false
  | _ => True

theorem firstNonEmpty_plain {resolution : String} (plain : resolution = "" ∨ blank resolution = false) :
    firstNonEmpty [resolution, "replied"] = if resolution ≠ "" then resolution else "replied" := by
  rcases plain with rfl | dense
  · decide +kernel
  have nonempty : resolution ≠ "" := by
    rintro rfl
    exact absurd dense (by decide +kernel)
  rw [firstNonEmpty, if_neg (by simp [dense]), if_pos nonempty]

theorem snapshot_answered (plain : reply.resolution = "" ∨ blank reply.resolution = false) :
    frameMessageToSnapshot (Broker.answered reply msg) =
      restored (frameReplyToSnapshot reply) (frameMessageToSnapshot msg) := by
  have status := firstNonEmpty_plain plain
  by_cases unresolved : reply.resolution = ""
  · rw [unresolved] at status
    simp [restored, unresolved, status]
  rw [if_pos unresolved] at status
  simp [restored, unresolved, status]

/-- The messages and the journal of a session agree. -/
structure Mirrored (messaging : Option SessionFrameMessaging) (journal : List JournalRecord) :
    Prop where
  nodup : ((messagesOf messaging).map FrameMessage.id).Nodup
  labelled : ∀ msg ∈ messagesOf messaging, Labelled msg
  summed : ∀ held, messaging = some held → held.summary = computeFrameMessagingSummary held.messages
  started : journal = [] ↔ messaging = none
  reflected : ∀ entry ∈ journal, Reflected ((messagesOf messaging).map frameMessageToSnapshot) entry

/-- What one change of messages and its records have to do with each other. -/
structure Repeated (messages messages' : List FrameMessage) (records : List JournalRecord) :
    Prop where
  replayed : records.foldl applyFrameMessagingJournalRecord
    (messages.map frameMessageToSnapshot) = messages'.map frameMessageToSnapshot
  grows : ∀ msg ∈ messages.map frameMessageToSnapshot, ∃ msg' ∈ messages'.map frameMessageToSnapshot, Keeps msg msg'
  recorded : ∀ entry ∈ records, Reflected (messages'.map frameMessageToSnapshot) entry
  nodup : (messages'.map FrameMessage.id).Nodup
  labelled : ∀ msg ∈ messages', Labelled msg

section Changes

variable {messages : List FrameMessage} (nodup : (messages.map FrameMessage.id).Nodup)
  (labelled : ∀ msg ∈ messages, Labelled msg)

include nodup labelled

theorem repeated_kept : Repeated messages messages [] :=
  ⟨rfl, fun msg mem => ⟨msg, mem, .refl msg⟩, forall_mem_nil _, nodup, labelled⟩

theorem repeated_sent {msg : FrameMessage} (fresh : ∀ old ∈ messages, old.id ≠ msg.id)
    (named : Labelled msg) (unread : msg.read = false) (unanswered : msg.reply = none) :
    Repeated messages (messages ++ [msg]) [.messageSent (frameMessageToSnapshot msg)] := by
  have snapped : (messages ++ [msg]).map frameMessageToSnapshot =
      messages.map frameMessageToSnapshot ++ [frameMessageToSnapshot msg] := by simp
  constructor
  · have absent : ¬ ((messages.map frameMessageToSnapshot).any fun m =>
        m.id == (frameMessageToSnapshot msg).id) = true := by
      rw [List.any_eq_true]
      rintro ⟨_, mem, same⟩
      obtain ⟨old, held, rfl⟩ := List.mem_map.mp mem
      exact fresh old held (beq_iff_eq.mp same)
    rw [snapped]
    show applyFrameMessagingSent _ _ = _
    rw [applyFrameMessagingSent, if_neg absent]
  · intro old mem
    rw [snapped]
    exact ⟨old, mem_append_left _ mem, .refl old⟩
  · intro entry mem
    obtain rfl := mem_singleton.mp mem
    rw [snapped]
    exact ⟨unread, by simp [unanswered], _, mem_append_right _ mem_cons_self, rfl⟩
  · rw [map_append, nodup_append]
    refine ⟨nodup, nodup_singleton _, ?_⟩
    intro id old new last same
    obtain ⟨m, held, rfl⟩ := List.mem_map.mp old
    rw [map_singleton, mem_singleton] at last
    exact fresh m held (same.trans last)
  · intro m mem
    rcases mem_append.mp mem with old | new
    · exact labelled m old
    · rwa [mem_singleton.mp new]

/-- Each message stays, and says at least what it said. -/
theorem repeated_each {messages' : List FrameMessage} {records : List JournalRecord}
    {change : Nat → FrameMessage → FrameMessage}
    (shape : ∀ i, messages'[i]? = messages[i]?.map (change i))
    (replayed : records.foldl applyFrameMessagingJournalRecord (messages.map frameMessageToSnapshot) =
      messages'.map frameMessageToSnapshot)
    (keeps : ∀ (i : Nat) msg, messages[i]? = some msg → Keeps (frameMessageToSnapshot msg)
      (frameMessageToSnapshot (change i msg)) ∧ (Labelled msg → Labelled (change i msg)))
    (recorded : ∀ entry ∈ records, Reflected (messages'.map frameMessageToSnapshot) entry) :
    Repeated messages messages' records := by
  have ids : messages'.map FrameMessage.id = messages.map FrameMessage.id := by
    refine ext_getElem? fun i => ?_
    rw [getElem?_map, getElem?_map, shape]
    cases here : messages[i]? with
    | none => rfl
    | some msg => exact congrArg some (id_of_fixedPart (keeps i msg here).1.fixed :)
  refine ⟨replayed, ?_, recorded, ids ▸ nodup, ?_⟩
  · intro _ mem
    obtain ⟨msg, held, rfl⟩ := List.mem_map.mp mem
    obtain ⟨i, here⟩ := mem_iff_getElem?.mp held
    have there : messages'[i]? = some (change i msg) := by rw [shape, here, map_some]
    exact ⟨_, List.mem_map_of_mem (mem_iff_getElem?.mpr ⟨i, there⟩), (keeps i msg here).1⟩
  · intro m mem
    obtain ⟨i, inside⟩ := mem_iff_getElem?.mp mem
    rw [shape] at inside
    obtain ⟨msg, here, rfl⟩ := map_eq_some_iff.mp inside
    exact (keeps i msg here).2 (labelled msg (mem_iff_getElem?.mpr ⟨i, here⟩))

theorem repeated_marked {chosen : Nat → FrameMessage → Bool} {ids : List String}
    (listed : ∀ id, id ∈ ids ↔ ∃ (i : Nat) (msg : FrameMessage), messages[i]? = some msg ∧
      chosen i msg = true ∧ msg.read = false ∧ msg.id = id) :
    Repeated messages (markRead chosen messages) (if ids.isEmpty then [] else [.messageRead ids]) := by
  have shape : ∀ i, (markRead chosen messages)[i]? = messages[i]?.map fun msg =>
      if chosen i msg then { msg with read := true } else msg := fun i => getElem?_mapIdx ..
  have picked : ∀ i (msg : FrameMessage), messages[i]? = some msg →
      (msg.id ∈ ids.filter (· ≠ "") ↔ chosen i msg = true ∧ msg.read = false) := by
    intro i msg here
    have mem := mem_iff_getElem?.mpr ⟨i, here⟩
    rw [mem_filter, listed]
    constructor
    · rintro ⟨⟨j, other, there, chosen_there, unread, same⟩, _⟩
      have inside : i < (messages.map FrameMessage.id).length := by
        rw [length_map]
        exact (List.getElem?_eq_some_iff.mp here).1
      have index : i = j := (getElem?_inj inside nodup).mp
        (by rw [getElem?_map, getElem?_map, here, there, map_some, map_some, same])
      subst index
      cases here.symm.trans there
      exact ⟨chosen_there, unread⟩
    · rintro ⟨chosen_here, unread⟩
      exact ⟨⟨i, msg, here, chosen_here, unread, rfl⟩, by simpa using (labelled msg mem).id⟩
  have replayed : applyFrameMessagingRead (messages.map frameMessageToSnapshot) ids =
      (markRead chosen messages).map frameMessageToSnapshot := by
    refine ext_getElem? fun i => ?_
    rw [applyFrameMessagingRead, getElem?_map, getElem?_map, getElem?_map, shape]
    cases here : messages[i]? with
    | none => rfl
    | some msg =>
      simp only [map_some, some.injEq]
      by_cases fresh : (frameMessageToSnapshot msg).id ∈ ids.filter (· ≠ "")
      · rw [if_pos fresh, if_pos ((picked i msg here).mp fresh).1]
        rfl
      rw [if_neg fresh]
      split
      · rename_i chosen_here
        have read : msg.read = true := by
          by_contra unread
          exact fresh ((picked i msg here).mpr ⟨chosen_here, by simpa using unread⟩)
        rw [← read]
      · rfl
  refine repeated_each nodup labelled shape ?_ (fun i msg here => ?_) fun entry mem => ?_
  · split
    · rename_i none_new
      rw [List.isEmpty_iff.mp none_new] at replayed
      rw [← replayed]
      simp [applyFrameMessagingRead]
    · exact replayed
  · split
    · exact ⟨.of_read _, fun named => ⟨named.id, named.replyStatus, named.deliveryStatus⟩⟩
    · exact ⟨.refl _, fun named => named⟩
  · split at mem
    · cases mem
    obtain rfl := mem_singleton.mp mem
    intro id new
    obtain ⟨i, msg, here, chosen_here, _, rfl⟩ := (listed id).mp new
    have marked : (markRead chosen messages)[i]? = some { msg with read := true } := by
      rw [shape, here, map_some, if_pos chosen_here]
    exact ⟨_, List.mem_map_of_mem (mem_iff_getElem?.mpr ⟨i, marked⟩), rfl, rfl⟩

theorem repeated_replied {msg : FrameMessage} {reply : FrameReply}
    (found : messages.find? (fun m => m.id == msg.id) = some msg) (unanswered : msg.reply = none)
    (plain : reply.resolution = "" ∨ blank reply.resolution = false) :
    Repeated messages (updateMessage msg.id (Broker.answered reply) messages)
      [.messageReply msg.id (frameReplyToSnapshot reply)] := by
  have mem := mem_of_find?_eq_some found
  rw [updateMessage_eq_map nodup]
  refine repeated_each nodup labelled (fun _ => getElem?_map) ?_ (fun i m here => ?_) fun entry listed => ?_
  · show applyFrameMessagingReply _ _ _ = _
    rw [applyFrameMessagingReply, if_neg (labelled msg mem).id, updateMessage_eq_map (map_id_snapshot messages ▸ nodup),
      List.map_map, List.map_map]
    refine map_congr_left fun m _ => ?_
    show (if m.id = msg.id then _ else _) = frameMessageToSnapshot (if m.id = msg.id then _ else _)
    split
    · exact (snapshot_answered plain).symm
    · rfl
  · split
    · rename_i same
      obtain rfl := inj_on_of_nodup_map nodup (mem_iff_getElem?.mpr ⟨i, here⟩) mem same
      rw [snapshot_answered plain]
      refine ⟨.of_reply (by simp [unanswered]), fun named => ⟨?_, ?_, ?_⟩⟩
      · exact named.id
      · simp only [Broker.answered, firstNonEmpty_plain plain]
        split
        · assumption
        · decide
      · simp only [Broker.answered]
        decide
    · exact ⟨.refl _, fun named => named⟩
  · obtain rfl := mem_singleton.mp listed
    refine ⟨_, List.mem_map_of_mem (List.mem_map_of_mem mem), ?_⟩
    rw [if_pos rfl, snapshot_answered plain]
    exact ⟨rfl, rfl⟩

end Changes

/-! ## Runs -/

variable {records journal : List JournalRecord}

theorem Change.repeated {messaging : Option SessionFrameMessaging}
    (change : Change splitArgs sess a messaging records) (mirrored : Mirrored sess.frameMessaging journal)
    (unique : a.Unique (messagesOf sess.frameMessaging)) (plain : a.Plain) :
    Repeated (messagesOf sess.frameMessaging) (messagesOf messaging) records := by
  cases change with
  | kept => exact repeated_kept mirrored.nodup mirrored.labelled
  | @sent msg stamp asked named _ _ _ new =>
    obtain ⟨topic, body, priority, now, rfl⟩ := asked
    obtain ⟨unread, unanswered, replyStatus, deliveryStatus⟩ := new
    refine repeated_sent mirrored.nodup mirrored.labelled ?_ ⟨?_, ?_, ?_⟩ unread unanswered
    · intro old held
      rw [named]
      exact unique old held
    · rw [named]
      intro empty
      have chars := congrArg String.toList empty
      simp at chars
    · rw [replyStatus]
      decide
    · rw [deliveryStatus]
      decide
  | marked found _ listed =>
    have nodup := mirrored.nodup
    have labelled := mirrored.labelled
    rw [found] at nodup labelled ⊢
    exact repeated_marked nodup labelled listed
  | replied asked found _ unanswered =>
    obtain ⟨body, finalAnswer, confidence, now, stamp, rfl⟩ := asked
    exact repeated_replied mirrored.nodup mirrored.labelled found unanswered plain

theorem Mirrored.change {messaging : Option SessionFrameMessaging} (mirrored : Mirrored sess.frameMessaging journal)
    (change : Change splitArgs sess a messaging records)
    (repeated : Repeated (messagesOf sess.frameMessaging) (messagesOf messaging) records) :
    Mirrored messaging (journal ++ records) := by
  refine ⟨repeated.nodup, repeated.labelled, ?_, ?_, ?_⟩
  · rintro held rfl
    exact change.summed mirrored.summed
  · cases change with
    | kept => rw [append_nil, mirrored.started]
    | sent | replied => simp
    | marked found =>
      have begun : journal ≠ [] := by
        rw [Ne, mirrored.started, found]
        exact nofun
      simp [begun]
  · intro entry mem
    rcases mem_append.mp mem with old | new
    · exact (mirrored.reflected entry old).later repeated.grows
    · exact repeated.recorded entry new

theorem messagesOf_snapshot (messaging : Option SessionFrameMessaging) :
    messagesOf (snapshotFrameMessaging messaging) = (messagesOf messaging).map frameMessageToSnapshot := by
  cases messaging <;> rfl

theorem summarize_snapshot (summary : FrameMessagingSummary) (msg : FrameMessage) :
    summarize summary (frameMessageToSnapshot msg) = summarize summary msg := by
  cases replied : msg.reply with
  | none => simp [summarize, replied]
  | some => simp [summarize, replied]

theorem compute_snapshot (messages : List FrameMessage) :
    computeFrameMessagingSummary (messages.map frameMessageToSnapshot) = computeFrameMessagingSummary messages := by
  rw [computeFrameMessagingSummary, foldl_map]
  congr 1
  funext summary msg
  exact summarize_snapshot summary msg

theorem Mirrored.replayed {messaging : Option SessionFrameMessaging} (mirrored : Mirrored messaging journal) :
    journal.foldl applyFrameMessagingJournalRecord ((messagesOf messaging).map frameMessageToSnapshot) =
        (messagesOf messaging).map frameMessageToSnapshot := by
  have nodup : (((messagesOf messaging).map frameMessageToSnapshot).map FrameMessage.id).Nodup := by
    rw [map_id_snapshot]
    exact mirrored.nodup
  have labelled : ∀ msg ∈ (messagesOf messaging).map frameMessageToSnapshot, Labelled msg := by
    intro _ mem
    obtain ⟨msg, held, rfl⟩ := List.mem_map.mp mem
    have named := mirrored.labelled msg held
    exact ⟨named.id, named.replyStatus, named.deliveryStatus⟩
  have each := mirrored.reflected
  clear mirrored
  induction journal with
  | nil => rfl
  | cons entry rest ih =>
    obtain ⟨here, others⟩ := forall_mem_cons.mp each
    rw [foldl_cons, here.apply nodup labelled]
    exact ih others

def Operation.messaging : Operation → Bool
  | .read .. | .send .. | .reply .. | .webRead .. => true
  | .stopSession .. | .evictFrame .. => false

/-- A messaging operation with an unused message id; a reply has a resolution that is empty or has
more than white space. -/
def PlainStep (splitArgs : String → Option (List String)) (b : Broker D) (a : Operation) (b' : Broker D) : Prop :=
  Broker.Step splitArgs b a b' ∧ a.messaging = true ∧ (∀ sid sess, b.host.sessions.get? sid = some sess →
      a.Unique (messagesOf sess.frameMessaging)) ∧ a.Plain

/-- The messages and the journals of all sessions agree. -/
def AllMirrored (b : Broker D) : Prop :=
  ∀ sid sess, b.host.sessions.get? sid = some sess → Mirrored sess.frameMessaging (b.journal sid)

variable {b b' b₀ b₁ b₂ : Broker D}

theorem AllMirrored.step (mirrored : AllMirrored b) (step : PlainStep splitArgs b a b') :
    AllMirrored b' ∧ ∀ sid sess', b'.host.sessions.get? sid = some sess' →
      ∃ sess records, b.host.sessions.get? sid = some sess ∧ b'.journal sid = b.journal sid ++ records ∧
        Repeated (messagesOf sess.frameMessaging) (messagesOf sess'.frameMessaging) records := by
  obtain ⟨taken, _, unique, plain⟩ := step
  have changed : ∀ sid sess', b'.host.sessions.get? sid = some sess' →
      ∃ sess records, b.host.sessions.get? sid = some sess ∧ b'.journal sid = b.journal sid ++ records ∧
        Repeated (messagesOf sess.frameMessaging) (messagesOf sess'.frameMessaging) records ∧
        Change splitArgs sess a sess'.frameMessaging records := by
    intro sid sess' after
    obtain ⟨sess, records, found, change, appended⟩ := taken.evolves sid sess' after
    exact ⟨sess, records, found, appended,
      change.repeated (mirrored sid sess found) (unique sid sess found) plain, change⟩
  constructor
  · intro sid sess' after
    obtain ⟨sess, records, found, appended, repeated, change⟩ := changed sid sess' after
    rw [appended]
    exact (mirrored sid sess found).change change repeated
  · intro sid sess' after
    obtain ⟨sess, records, found, appended, repeated, _⟩ := changed sid sess' after
    exact ⟨sess, records, found, appended, repeated⟩

/-- Replaying the whole journal of a session over a snapshot taken after any of its operations
gives the session's messages and their summary, with times in whole seconds. -/
theorem journal_replay_reproduces_messages (size : JournalRecord → Nat)
    {labels more : List Operation} {sess₁ sess₂ : Session D}
    (blank : ∀ sid sess, b₀.host.sessions.get? sid = some sess → sess.frameMessaging = none)
    (empty : ∀ sid, b₀.journal sid = [])
    (run : Run (PlainStep splitArgs) b₀ labels b₁) (rest : Run (PlainStep splitArgs) b₁ more b₂)
    (found₁ : b₁.host.sessions.get? sid = some sess₁) (found₂ : b₂.host.sessions.get? sid = some sess₂)
    (fits : ∀ entry ∈ b₂.journal sid, size entry + 1 ≤ maxLine) :
    loadFrameMessagingFromJournal size (snapshotFrameMessaging sess₁.frameMessaging)
      (b₂.journal sid) = some (snapshotFrameMessaging sess₂.frameMessaging) := by
  have start : AllMirrored b₀ := by
    intro k sess found
    rw [blank k sess found, empty]
    exact ⟨nodup_nil, forall_mem_nil _, nofun, ⟨fun _ => rfl, fun _ => rfl⟩, forall_mem_nil _⟩
  have mirrored₁ := run.invariant AllMirrored start fun _ _ _ mirrored step => (mirrored.step step).1
  have tail := rest.invariant (fun b => AllMirrored b ∧ ∀ sess, b.host.sessions.get? sid = some sess →
      ∃ records, b.journal sid = b₁.journal sid ++ records ∧ records.foldl applyFrameMessagingJournalRecord
          ((messagesOf sess₁.frameMessaging).map frameMessageToSnapshot) =
            (messagesOf sess.frameMessaging).map frameMessageToSnapshot)
    ⟨mirrored₁, by
      intro sess found
      cases found₁.symm.trans found
      exact ⟨[], (append_nil _).symm, rfl⟩⟩
    (by
      rintro b a b' ⟨mirrored, replays⟩ step
      obtain ⟨mirrored', evolved⟩ := mirrored.step step
      refine ⟨mirrored', fun sess' after => ?_⟩
      obtain ⟨sess, records, found, appended, repeated⟩ := evolved sid sess' after
      obtain ⟨before, shape, replayed⟩ := replays sess found
      refine ⟨before ++ records, by rw [appended, shape, append_assoc], ?_⟩
      rw [foldl_append, replayed, repeated.replayed])
  obtain ⟨mirrored₂, replays⟩ := tail
  obtain ⟨records, shape, replayed⟩ := replays sess₂ found₂
  have first := mirrored₁ sid sess₁ found₁
  have last := mirrored₂ sid sess₂ found₂
  unfold loadFrameMessagingFromJournal
  split
  · rename_i unwritten
    have none_written := List.isEmpty_iff.mp unwritten
    have none_before : b₁.journal sid = [] := by
      rw [shape] at none_written
      exact (append_eq_nil_iff.mp none_written).1
    rw [first.started.mp none_before, last.started.mp none_written]
  rename_i written
  have short : ¬ ((b₂.journal sid).any fun entry => decide (maxLine < size entry + 1)) = true := by
    rw [List.any_eq_true]
    rintro ⟨entry, mem, long⟩
    exact absurd (fits entry mem) (Nat.not_le.mpr (of_decide_eq_true long))
  rw [if_neg short]
  dsimp only
  rw [messagesOf_snapshot, shape, foldl_append, first.replayed, replayed, compute_snapshot]
  cases held : sess₂.frameMessaging with
  | none =>
    rw [last.started.mpr held] at written
    exact absurd rfl written
  | some messaging =>
    rw [messagesOf_some, ← last.summed messaging held]
    rfl

def question : Operation := .send "f" "g" "t" "hello" "" 0 1

def answer : Operation := .reply "g" "msg-1" "yes" "" "" "" 1 2

/-- A message and its answer are replayed over the snapshot between them. -/
theorem exchange_replayed : (∃ sess₁, (after [question]).host.sessions.get? "s" = some sess₁) ∧
      (∃ sess₂, (after [question, answer]).host.sessions.get? "s" = some sess₂) ∧
      ∀ sess₁ sess₂, (after [question]).host.sessions.get? "s" = some sess₁ →
        (after [question, answer]).host.sessions.get? "s" = some sess₂ →
        loadFrameMessagingFromJournal (fun _ => 200) (snapshotFrameMessaging sess₁.frameMessaging)
          ((after [question, answer]).journal "s") = some (snapshotFrameMessaging sess₂.frameMessaging) := by
  have sent : Run (PlainStep fun _ => none) pair [question] (after [question]) := by
    refine .snoc .refl ⟨⟨Draw.tagged 'z', rfl⟩, rfl, fun sid sess found => ?_, trivial⟩
    rw [pair_blank sid sess found]
    exact forall_mem_nil _
  have answered : Run (PlainStep fun _ => none) (after [question]) [answer] (after [question, answer]) :=
    .snoc .refl ⟨⟨Draw.tagged 'z', rfl⟩, rfl, fun _ _ _ => trivial, .inl rfl⟩
  have held : ∀ ops, ((after ops).host.sessions.get? "s").isSome = true →
      ∃ sess, (after ops).host.sessions.get? "s" = some sess := fun _ there =>
    isSome_iff_exists.mp there
  refine ⟨held _ (by decide +kernel), held _ (by decide +kernel), ?_⟩
  intro sess₁ sess₂ found₁ found₂
  exact journal_replay_reproduces_messages (fun _ => 200) pair_blank (fun _ => rfl) sent answered
    found₁ found₂ fun _ _ => by decide

/-- The agent `g` answers with a resolution of white space. -/
def vague : List Operation :=
  [.send "f" "g" "t" "hello" "" 0 1, .reply "g" "msg-1" "yes" "" "  " "" 1 2]

/-- A resolution of white space counts as an answer while the daemon runs and as the resolution
itself in the replay, and a journal with a line that is too long is not replayed at all. -/
theorem vague_resolution_replayed_otherwise : Run (Broker.Step fun _ => none) pair vague (after vague) ∧
      (after vague).held.map FrameMessage.replyStatus = ["replied"] ∧
      ((loadFrameMessagingFromJournal (fun _ => 200) none ((after vague).journal "s")).map
        fun out => (messagesOf out).map FrameMessage.replyStatus) = some ["  "] ∧
      loadFrameMessagingFromJournal (fun _ => 2 ^ 20) none ((after exchange).journal "s") = none :=
  ⟨drive_steps (fun _ => none) vague rfl, by decide +kernel, by decide +kernel, by decide +kernel⟩

end AgentGrid.Messaging
