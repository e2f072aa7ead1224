import Mathlib.Data.List.SplitBy
import AgentGrid.Host.Reduce
import AgentGrid.Lib.GoString

/-!
# Messages between the frames of a session

The agent frames of a session send each other messages, read them and reply to them; a client can
mark the messages of a session as read.  Each operation changes the session's record and appends
to its journal.  Appends succeed here; the audit log is left out.
-/

namespace AgentGrid.Messaging

open AgentGrid.Lib AgentGrid.Host

variable {D : Type}

/-! ## Summaries -/

def fields (s : String) : List String :=
  ((s.toList.splitOnP isSpace).filter fun field => !field.isEmpty).map String.ofList

def frameMessagingPreview (body : String) : String :=
  let joined := " ".intercalate (fields body)
  if joined.length ≤ 120 then joined else String.ofList (joined.toList.take 117) ++ "..."

/-- One round of the loop of `computeFrameMessagingSummary`. -/
def summarize (summary : FrameMessagingSummary) (msg : FrameMessage) : FrameMessagingSummary where
  unreadCount := if msg.read then summary.unreadCount else summary.unreadCount + 1
  pendingDeliveryCount := if msg.reply.isNone then summary.pendingDeliveryCount + 1 else summary.pendingDeliveryCount
  latestMessagePreview := if frameMessagingPreview msg.body = "" then summary.latestMessagePreview
    else frameMessagingPreview msg.body
  latestReplyPreview := msg.reply.elim summary.latestReplyPreview fun reply =>
      let preview := frameMessagingPreview (firstNonEmpty [reply.finalAnswer, reply.body])
      if preview = "" then summary.latestReplyPreview else preview
  lastDeliveryStatus := if msg.replyStatus ≠ "" then msg.replyStatus
    else if msg.deliveryStatus ≠ "" then msg.deliveryStatus
    else summary.lastDeliveryStatus

def computeFrameMessagingSummary (messages : List FrameMessage) : FrameMessagingSummary :=
  messages.foldl summarize ⟨0, "", "", 0, ""⟩

/-! ## The journal -/

/-- What a time keeps in the format `RFC3339`. -/
def wholeSeconds (t : Time) : Time := t - t % 1000000000

/-- `frameReplyToSnapshot` and back. -/
def frameReplyToSnapshot (reply : FrameReply) : FrameReply :=
  { reply with createdAt := wholeSeconds reply.createdAt }

/-- `frameMessageToSnapshot` and back. -/
def frameMessageToSnapshot (msg : FrameMessage) : FrameMessage :=
  { msg with createdAt := wholeSeconds msg.createdAt, reply := msg.reply.map frameReplyToSnapshot }

/-- `frameMessagingJournalRecord`. -/
inductive JournalRecord where
  | messageSent (message : FrameMessage) | messageReply (messageID : String) (reply : FrameReply)
  | messageRead (messageIDs : List String)
  deriving DecidableEq

def updateMessage (id : String) (change : FrameMessage → FrameMessage) : List FrameMessage → List FrameMessage
  | [] => []
  | msg :: rest => if msg.id = id then change msg :: rest else msg :: updateMessage id change rest

/-! ## Frames -/

structure ErrorBody where
  (code message : String)
  deriving DecidableEq

/-- `isAgentFrame`; the command line is split by `splitArgs`. -/
def isAgentFrame (splitArgs : String → Option (List String)) (frame : SessionFrame D) : Bool :=
  let name := ((splitArgs frame.command).bind List.head?).getD frame.command
  name == "claude" || name == "codex"

def frameByID (sess : Session D) (frameID : FrameID) : Option (SessionFrame D) :=
  sess.frames.find? fun frame => frame.id == frameID

def findFrameSession (order : RangeOrder) (s : State D) (frameID : FrameID) :
    Option (SessionID × Session D × SessionFrame D) :=
  (s.sessions.range order).findSome? fun entry =>
    (frameByID entry.2 frameID).map fun frame => (entry.1, entry.2, frame)

def frameSessionForSource (splitArgs : String → Option (List String)) (order : RangeOrder)
    (s : State D) (frameID : FrameID) : Except ErrorBody (SessionID × Session D) :=
  match findFrameSession order s frameID with
  | none => .error ⟨errCodeNotFound, "source frame not found"⟩
  | some (sid, sess, frame) =>
    if isAgentFrame splitArgs frame then .ok (sid, sess)
    else .error ⟨errCodeUnsupported, "frame messaging is limited to managed agent frames"⟩

/-! ## The operations -/

/-- The state of the daemon and the journals of the sessions. -/
structure Broker (D : Type) where
  host : State D
  journals : GoMap SessionID (List JournalRecord) := ∅

namespace Broker

variable (splitArgs : String → Option (List String)) (b : Broker D) (order : RangeOrder)
  (source : FrameID) (peer : FrameID)

def journal (sid : SessionID) : List JournalRecord := (b.journals.get? sid).getD []

/-- Append to the journal of the session and commit its new messages. -/
def commitFrameMessagingSession (sid : SessionID) (sess : Session D) (messages : List FrameMessage)
    (entry : JournalRecord) : Broker D where
  host :=
    { b.host with
      sessions := b.host.sessions.set sid
        { sess with
          frameMessaging := some ⟨computeFrameMessagingSummary messages, messages⟩ } }
  journals := b.journals.set sid (b.journal sid ++ [entry])

/-- The reader is a party of the message, and so is the peer it asks for. -/
def visible (msg : FrameMessage) : Bool :=
  (msg.sourceFrameID == source || msg.targetFrameID == source) &&
    (peer == "" || msg.sourceFrameID == peer || msg.targetFrameID == peer)

/-- The reader is the target of the message and has not read it. -/
def freshTo (msg : FrameMessage) : Bool :=
  visible source peer msg && msg.targetFrameID == source && !msg.read

def frameMessagingRead (b : Broker D) (source peer : FrameID) :
    Except ErrorBody (SessionID × List FrameMessage) × Broker D :=
  match frameSessionForSource splitArgs order b.host source with
  | .error err => (.error err, b)
  | .ok (sid, sess) =>
    if peer ≠ "" ∧ (frameByID sess peer).all (fun frame => !isAgentFrame splitArgs frame) then
      (.error ⟨errCodeNotFound, "peer frame not found"⟩, b)
    else
      sess.frameMessaging.elim (.ok (sid, []), b) fun messaging =>
        let readIDs := (messaging.messages.filter (freshTo source peer)).map FrameMessage.id
        if readIDs.isEmpty then (.ok (sid, messaging.messages.filter (visible source peer)), b)
        else
          let messages := messaging.messages.mapIdx fun _ msg =>
            if freshTo source peer msg then { msg with read := true } else msg
          (.ok (sid, messages.filter (visible source peer)),
            b.commitFrameMessagingSession sid sess messages (.messageRead readIDs))

/-- The message that `frameMessagingSend` records. -/
def newMessage (source target : FrameID) (topic body priority : String) (now : Time)
    (stamp : Nat) : FrameMessage where
  id := "msg-" ++ toString stamp
  sourceFrameID := source
  targetFrameID := target
  topic := topic
  body := body
  priority := priority
  createdAt := now
  read := false
  replyStatus := "pending"
  deliveryStatus := "pending"
  reply := none

def frameMessagingSend (b : Broker D) (source target : FrameID) (topic body priority : String)
    (now : Time) (stamp : Nat) : Except ErrorBody (SessionID × FrameMessage) × Broker D :=
  match frameSessionForSource splitArgs order b.host source with
  | .error err => (.error err, b)
  | .ok (sid, sess) =>
    if blank body then (.error ⟨errCodeInvalidArgument, "body required"⟩, b)
    else
      (frameByID sess target).elim (if (findFrameSession order b.host target).any fun found => found.1 != sid then
          (.error ⟨errCodeInvalidArgument, "target must be in the same session"⟩, b)
        else (.error ⟨errCodeNotFound, "target frame not found"⟩, b))
        fun frame =>
          if target = source then (.error ⟨errCodeInvalidArgument, "self-target is not allowed"⟩, b)
          else if !isAgentFrame splitArgs frame then
            (.error ⟨errCodeUnsupported, "target must be a managed agent frame"⟩, b)
          else
            let msg := newMessage source target topic body priority now stamp
            let before := sess.frameMessaging.elim [] SessionFrameMessaging.messages
            (.ok (sid, msg), b.commitFrameMessagingSession sid sess (before ++ [msg])
                (.messageSent (frameMessageToSnapshot msg)))

/-- The reply that `frameMessagingReply` records. -/
def newReply (body finalAnswer resolution confidence : String) (now : Time) (stamp : Nat) : FrameReply where
  id := "reply-" ++ toString stamp
  sourceFrameID := source
  body := body
  finalAnswer := finalAnswer
  createdAt := now
  resolution := resolution
  confidence := firstNonEmpty [confidence, "high"]
  finalAnswerPreview := frameMessagingPreview (firstNonEmpty [finalAnswer, body])

@[simp] def answered (reply : FrameReply) (msg : FrameMessage) : FrameMessage :=
  { msg with
    reply := some reply, replyStatus := firstNonEmpty [reply.resolution, "replied"], deliveryStatus := "replied" }

def frameMessagingReply (b : Broker D) (source : FrameID)
    (messageID body finalAnswer resolution confidence : String) (now : Time) (stamp : Nat) :
    Except ErrorBody (SessionID × FrameReply) × Broker D :=
  match frameSessionForSource splitArgs order b.host source with
  | .error err => (.error err, b)
  | .ok (sid, sess) =>
    let before := sess.frameMessaging.elim [] SessionFrameMessaging.messages
    (before.find? fun msg => msg.id == messageID).elim (.error ⟨errCodeNotFound, "message not found"⟩, b) fun msg =>
        if msg.targetFrameID ≠ source then (.error ⟨errCodeInvalidArgument, "only the target frame may reply"⟩, b)
        else if msg.reply.isSome then (.error ⟨errCodeInvalidArgument, "message already has a reply"⟩, b)
        else if blank body && blank finalAnswer && blank resolution then
          (.error ⟨errCodeInvalidArgument, "reply body, final answer, or resolution required"⟩, b)
        else
          let reply := newReply source body finalAnswer resolution confidence now stamp
          (.ok (sid, reply), b.commitFrameMessagingSession sid sess
              (updateMessage messageID (answered reply) before)
              (.messageReply messageID (frameReplyToSnapshot reply)))

/-- Execute the effects of a client's read that concern the journal. -/
def persistRead : Effect D → Broker D
  | .frameMessagingPersistRead sid ids =>
    if ids.isEmpty then b
    else { b with journals := b.journals.set sid (b.journal sid ++ [.messageRead ids]) }
  | _ => b

end Broker

inductive Operation where
  | read (source peer : FrameID)
  | send (source target : FrameID) (topic body priority : String) (now : Time) (stamp : Nat)
  | reply (source : FrameID) (messageID body finalAnswer resolution confidence : String)
      (now : Time) (stamp : Nat)
  | webRead (connID : ConnID) (reqID : String) (params : SessionMessagesParams)
  | stopSession (connID : ConnID) (reqID : String) (sid : SessionID)
  | evictFrame (frameID : FrameID) (killWindow : Bool) (disposition : RootDisposition)

namespace Broker

/-- One operation on messages, or the teardown of a session or a frame. -/
def apply (splitArgs : String → Option (List String)) (d : Draw) (b : Broker D) : Operation → Option (Broker D)
  | .read source peer => some (b.frameMessagingRead splitArgs d.toRangeOrder source peer).2
  | .send source target topic body priority now stamp =>
    some (b.frameMessagingSend splitArgs d.toRangeOrder source target topic body priority now stamp).2
  | .reply source messageID body finalAnswer resolution confidence now stamp =>
    some (b.frameMessagingReply splitArgs d.toRangeOrder source messageID body finalAnswer
      resolution confidence now stamp).2
  | .webRead connID reqID params =>
    let reduced := reduceReadSessionMessages b.host connID reqID params
    some (reduced.2.foldl persistRead { b with host := reduced.1 })
  | .stopSession connID reqID sid => some { b with host := (reduceStopSession b.host connID reqID sid).1 }
  | .evictFrame frameID killWindow disposition =>
    (Host.evictFrame d b.host frameID killWindow disposition).toOption.map fun evicted =>
      { b with host := evicted.elim b.host Prod.fst }

def Step (splitArgs : String → Option (List String)) (b : Broker D) (a : Operation) (b' : Broker D) : Prop :=
  ∃ d : Draw, b.apply splitArgs d a = some b'

end Broker

end AgentGrid.Messaging
