import AgentGrid.Host.Helpers

/-!
# Connections, surfaces and session messages

The reducers of the client commands that look at sessions without touching the
session graph: subscriptions, surface traffic and the message inbox.
-/

namespace AgentGrid.Host

open AgentGrid.Lib

variable {D : Type}

/-! ## Connections -/

variable (s : State D) (connID : ConnID) (reqID : String) (sid : SessionID)

def reduceConnOpened : Reduced D :=
  if connID > s.nextConnID then ({ s with nextConnID := connID }, []) else (s, [])

def reduceConnClosed (d : Draw) (s : State D) (connID : ConnID) : Reduced D :=
  let inner := (s.surfaceSubs.get? connID).getD ∅
  ({ s with subscribers := s.subscribers.delete connID, surfaceSubs := s.surfaceSubs.delete connID },
    (inner.range d.toRangeOrder).map fun sub => .surfaceSubscribeStop connID sub.1.sessionID sub.1.subscriberID)

def reduceSubscribe (filters : List String) : Reduced D :=
  ({ s with subscribers := s.subscribers.set connID ⟨connID, filters⟩ },
    [okResp connID reqID .empty, .broadcastSessionsChanged])

def reduceUnsubscribe : Reduced D :=
  ({ s with subscribers := s.subscribers.delete connID }, [okResp connID reqID .empty])

/-! ## Surfaces -/

def surfaceNotFound : Effect D :=
  errResp connID reqID errCodeNotFound ("session not found: " ++ sid)

/-- A surface command on a known session is handed to the runtime and leaves the state alone. -/
def onSession (effs : List (Effect D)) : Reduced D :=
  if (s.sessions.get? sid).isNone then (s, [surfaceNotFound connID reqID sid]) else (s, effs)

def reduceSurfaceReadText (lines : Int) : Reduced D :=
  onSession s connID reqID sid
    [.sendResponseSync connID reqID (.surfaceReadText sid (if lines ≤ 0 then 30 else lines))]

def reduceSurfaceSendText (text : String) : Reduced D :=
  onSession s connID reqID sid [.sendFrameKeys connID reqID sid text "" true]

def reduceSurfaceSendKey (key : String) : Reduced D :=
  onSession s connID reqID sid [.sendFrameKeys connID reqID sid "" key false]

def reduceSurfaceResize (cols rows : UInt16) : Reduced D :=
  onSession s connID reqID sid [.surfaceResize sid cols rows, okResp connID reqID .empty]

def reduceSurfaceWriteRaw (data : List UInt8) : Reduced D :=
  onSession s connID reqID sid [.surfaceWriteRaw sid data, okResp connID reqID .empty]

def reduceDriverList : Reduced D :=
  (s, [.sendResponseSync connID reqID .driverList])

def maxDim : Int := 2000

/-- `ValidateSizeHint`; `none` is a valid hint. -/
def validateSizeHint (cols rows : Int) : Option String :=
  if cols = 0 ∧ rows = 0 then none
  else if decide (cols = 0) != decide (rows = 0) then
    some "asymmetric size hint: both cols and rows must be specified"
  else if cols < 1 ∨ cols > maxDim then some ("cols must be 0 or 1.." ++ toString maxDim ++ "; got " ++ toString cols)
  else if rows < 1 ∨ rows > maxDim then some ("rows must be 0 or 1.." ++ toString maxDim ++ "; got " ++ toString rows)
  else none

def reduceSurfaceSubscribe (e : EvSurfaceSubscribe) : Reduced D :=
  if e.cols = 0 ∨ e.rows = 0 then
    (s, [errResp e.connID e.reqID errCodeInvalidArgument "surface subscribe requires non-zero cols and rows"])
  else
    match validateSizeHint e.cols.toNat e.rows.toNat with
    | some err => (s, [errResp e.connID e.reqID errCodeInvalidArgument err])
    | none =>
      match s.sessions.get? e.sessionID with
      | none => (s, [surfaceNotFound e.connID e.reqID e.sessionID])
      | some sess =>
        if (headFrame sess).isNone then
          (s, [errResp e.connID e.reqID errCodeFrameNotReady ("frame-not-ready: " ++ e.sessionID)])
        else
          let key : SurfaceSubscription := ⟨e.sessionID, e.subscriberID⟩
          let existing := (s.surfaceSubs.get? e.connID).getD ∅
          if (existing.get? key).isSome then (s, [okResp e.connID e.reqID .empty])
          else if existing.entries.length ≥ 8 then
            (s, [errResp e.connID e.reqID errCodeResourceExhausted "per-conn surface subscribe cap (8) exceeded"])
          else
            ({ s with surfaceSubs := s.surfaceSubs.set e.connID (existing.set key ⟨e.cols, e.rows⟩) },
              [.surfaceSubscribeStart e.connID e.sessionID e.subscriberID e.cols e.rows,
                okResp e.connID e.reqID .empty])

def reduceSurfaceUnsubscribe (e : EvSurfaceUnsubscribe) : Reduced D :=
  let key : SurfaceSubscription := ⟨e.sessionID, e.subscriberID⟩
  let existing := (s.surfaceSubs.get? e.connID).getD ∅
  if (existing.get? key).isNone then (s, [okResp e.connID e.reqID .empty])
  else
    let left := existing.delete key
    ({ s with
        surfaceSubs := if left.entries.isEmpty then s.surfaceSubs.delete e.connID
          else s.surfaceSubs.set e.connID left },
      [.surfaceSubscribeStop e.connID e.sessionID e.subscriberID,
        if e.reqID = "" then .sendResponseSync e.connID "" (.surfaceUnsubscribed e.sessionID e.subscriberID)
        else okResp e.connID e.reqID .empty])

/-! ## Session messages -/

def reduceListSessionMessages (p : SessionMessagesParams) : Reduced D :=
  if p.sessionID = "" then (s, [errResp connID reqID errCodeInvalidArgument "session_id required"])
  else if (s.sessions.get? p.sessionID).isNone then (s, [errResp connID reqID errCodeNotFound "session not found"])
  else (s, [.sendResponseSync connID reqID (.sessionMessages p.sessionID)])

/-- `markSessionMessagesReadThroughID`; `none` is its "not changed". -/
def markSessionMessagesReadThroughID (messaging : SessionFrameMessaging)
    (lastReadMessageID : String) : Option SessionFrameMessaging :=
  if lastReadMessageID = "" then none
  else
    match messaging.messages.findIdx? fun msg => msg.id == lastReadMessageID with
    | none => none
    | some boundary =>
      let messages := messaging.messages.mapIdx fun i msg => if i ≤ boundary then { msg with read := true } else msg
      let changed := (messaging.messages.take (boundary + 1)).any fun msg => !msg.read
      let unreadCount := messages.countP fun msg => !msg.read
      if !changed && messaging.summary.unreadCount == unreadCount then none
      else some ⟨{ messaging.summary with unreadCount := unreadCount }, messages⟩

/-- The messages that are read after the change and were not before it. -/
def newlyRead (before after : SessionFrameMessaging) : List String :=
  ((after.messages.zip before.messages).filter fun m => m.1.read && !m.2.read).map fun m => m.1.id

def reduceReadSessionMessages (p : SessionMessagesParams) : Reduced D :=
  if p.sessionID = "" then (s, [errResp connID reqID errCodeInvalidArgument "session_id required"])
  else
    match s.sessions.get? p.sessionID with
    | none => (s, [errResp connID reqID errCodeNotFound "session not found"])
    | some sess =>
      match sess.frameMessaging with
      | none => (s, [okResp connID reqID .empty])
      | some messaging =>
        match markSessionMessagesReadThroughID messaging p.lastReadMessageID with
        | none => (s, [okResp connID reqID .empty])
        | some next =>
          let readIDs := newlyRead messaging next
          ({ s with
              sessions := s.sessions.set p.sessionID
                { sess with frameMessaging := some next } },
            [okResp connID reqID .empty, .persistSnapshot, .broadcastSessionsChanged] ++ if readIDs.isEmpty then []
              else [.frameMessagingPersistRead p.sessionID readIDs])

end AgentGrid.Host
