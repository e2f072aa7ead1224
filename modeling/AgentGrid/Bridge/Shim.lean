import AgentGrid.Codex.Calls

/-!
# The Codex app-server shim

A shim session joins two JSON-RPC connections, downstream to the CLI and upstream to the
app-server.  Each has one read loop, which runs the handler of a request inline; the handler forwards
the request with a call on the other connection, whose read loop has to deliver the response.
-/

namespace AgentGrid.Bridge

open AgentGrid.Lib List Option

inductive Side where
  | downstream | upstream
  deriving DecidableEq

def Side.other : Side → Side
  | .downstream => .upstream
  | .upstream => .downstream

/-- `rpcMessage`, as `Conn.Run` tells them apart. -/
inductive Rpc where
  | request (id method params : String) | notification (method params : String)
  | response (id : String) (result : Except String String)
  /-- What cannot be decoded, or has neither id nor method. -/
  | malformed

def Rpc.isRequest : Rpc → Bool
  | .request _ _ _ => true
  | _ => false

inductive Loop where
  | reading
  /-- Inside `OnServerRequest`, waiting for the response to a request on the other connection. -/
  | requesting (number : Nat) (origin method : String)
  /-- Inside `OnServerRequest`, waiting for the daemon to answer a tool call. -/
  | calling (origin : String)
  deriving DecidableEq

def Loop.blocked : Loop → Bool
  | .reading => false
  | _ => true

/-- `Conn`, with its transport and its read loop. -/
structure Conn where
  /-- Messages of the peer that the loop has not read. -/
  inbox : List Rpc := []
  /-- Messages written to the peer. -/
  written : List Rpc := []
  nextID : Nat := 0
  pending : List Nat := []
  /-- Responses in the channels of the requests that wait. -/
  delivered : List (Nat × Except String String) := []
  loop : Loop := .reading

namespace Conn

/-- The number that `Request` gives to its next request. -/
def number (c : Conn) : Nat := c.nextID + 1

/-- `Request` up to where it waits. -/
def ask (method params : String) (c : Conn) : Conn :=
  { c with
    nextID := c.number, pending := c.pending ++ [c.number]
    written := c.written ++ [.request (toString c.number) method params] }

/-- `Request` that cannot write: its entry is deleted again. -/
def skip (c : Conn) : Conn := { c with nextID := c.number }

/-- `resolvePending` for a request that is pending. -/
def resolve (n : Nat) (result : Except String String) (c : Conn) : Conn :=
  { c with pending := c.pending.erase n, delivered := c.delivered ++ [(n, result)] }

def take (n : Nat) (c : Conn) : Conn :=
  { c with delivered := c.delivered.filter fun d => d.1 != n }

def forget (n : Nat) (c : Conn) : Conn := { c with pending := c.pending.erase n }

def put (msg : Rpc) (c : Conn) : Conn := { c with written := c.written ++ [msg] }

def goto (loop : Loop) (c : Conn) : Conn := { c with loop }

end Conn

structure Shim where
  conn : Side → Conn := fun _ => {}

/-- What `handleToolCall` does with a tool call. -/
inductive ToolCall where
  | notHandled | failed (err : String) | daemon

inductive ShimLabel where
  /-- The peer of a connection sends a message. -/
  | arrive (side : Side) (msg : Rpc)
  /-- The loop reads the next message and runs its handler, up to where it waits. -/
  | read (side : Side) (tool : ToolCall) (writes : Bool)
  /-- The response that the loop waits for is in its channel. -/
  | resume (side : Side) | timeout (side : Side)
  /-- The daemon answers the tool call. -/
  | toolDone (side : Side) (result : Except String String)

def methodThreadStart : String := "thread/start"
def methodThreadResume : String := "thread/resume"
def methodItemToolCall : String := "item/tool/call"

def shouldInjectFrameMessagingTools (method : String) : Bool :=
  method == methodThreadStart || method == methodThreadResume

namespace Shim

variable (inject : String → String)

variable (s : Shim) (side : Side) (id : String)

def update (f : Conn → Conn) : Shim :=
  ⟨Function.update s.conn side (f (s.conn side))⟩

def write (msg : Rpc) : Shim :=
  s.update side (.put msg)

/-- `Reply` and `ReplyRPCError`. -/
def reply (result : Except String String) : Shim :=
  s.write side (.response id result)

/-- `handleResponse`: the response goes to the channel of its request, if one is pending. -/
def handleResponse (result : Except String String) : Shim :=
  match Codex.parsePendingID id.toList with
  | some (.ofNat n) => if n ∈ (s.conn side).pending then s.update side (.resolve n result) else s
  | _ => s

/-- `Request` on the other connection, by the handler of a request of this one. -/
def forward (id method params : String) (writes : Bool) : Shim :=
  if writes then
    (s.update side.other (.ask method params)).update side
      (.goto (.requesting (s.conn side.other).number id method))
  else (s.update side.other .skip).reply side id (.error "write")

/-- `OnServerRequest` of `shimDownstreamHandler` and of `shimUpstreamHandler`. -/
def onServerRequest (id method params : String) (tool : ToolCall) (writes : Bool) : Shim :=
  match side with
  | .downstream =>
    let params := if shouldInjectFrameMessagingTools method then inject params else params
    s.forward .downstream id method params writes
  | .upstream =>
    if method = methodItemToolCall then
      match tool with
      | .failed err => s.reply .upstream id (.error err)
      | .daemon => s.update .upstream (.goto (.calling id))
      | .notHandled => s.forward .upstream id method params writes
    else s.forward .upstream id method params writes

/-- One round of `Conn.Run`. -/
def read (tool : ToolCall) (writes : Bool) : Option Shim :=
  match (s.conn side).loop, (s.conn side).inbox with
  | .reading, msg :: rest =>
    let s := s.update side fun c => { c with inbox := rest }
    match msg with
    | .malformed => some s
    | .response id result => some (s.handleResponse side id result)
    | .notification method params => some (s.write side.other (.notification method params))
    | .request id method params => some (s.onServerRequest inject side id method params tool writes)
  | _, _ => none

def act : ShimLabel → Option Shim
  | .arrive side msg => some (s.update side fun c => { c with inbox := c.inbox ++ [msg] })
  | .read side tool writes => s.read inject side tool writes
  | .resume side =>
    match (s.conn side).loop with
    | .requesting n id _ =>
      ((s.conn side.other).delivered.find? fun d => d.1 == n).map fun d =>
        ((s.update side.other (.take n)).reply side id d.2).update side (.goto .reading)
    | _ => none
  | .timeout side =>
    match (s.conn side).loop with
    | .requesting n id method =>
      let err := "codexclient: timeout waiting for " ++ method
      some (((s.update side.other (.forget n)).reply side id (.error err)).update side (.goto .reading))
    | _ => none
  | .toolDone side result =>
    match (s.conn side).loop with
    | .calling id => some ((s.reply side id result).update side (.goto .reading))
    | _ => none

def Step (label : ShimLabel) (s' : Shim) : Prop := s.act inject label = some s'

/-! ## Who is busy -/

/-- A request of the peer is being handled, or waits to be read. -/
def busy : Bool :=
  (s.conn side).loop.blocked || (s.conn side).inbox.any Rpc.isRequest

/-- A peer sends a request only while the shim has none of the other peer. -/
def polite : ShimLabel → Bool
  | .arrive side msg => !msg.isRequest || !s.busy side.other
  | _ => true

variable {inject : String → String} {s s' : Shim} {label : ShimLabel} {side t : Side}

theorem conn_update (s : Shim) (side t : Side) (f : Conn → Conn) :
    (s.update side f).conn t = if t = side then f (s.conn side) else s.conn t :=
  Function.update_apply _ _ _ _

theorem busy_update {f : Conn → Conn} (loop : ∀ c, (f c).loop = c.loop)
    (inbox : ∀ c, (f c).inbox = c.inbox) : (s.update side f).busy t = s.busy t := by
  unfold busy
  rw [conn_update]
  split
  · next same => rw [loop, inbox, same]
  · rfl

@[simp] theorem busy_write {msg : Rpc} : (s.write side msg).busy t = s.busy t :=
  busy_update (fun _ => rfl) fun _ => rfl

@[simp] theorem busy_reply {id : String} {result : Except String String} :
    (s.reply side id result).busy t = s.busy t :=
  busy_write

theorem busy_handleResponse {id : String} {result : Except String String} :
    (s.handleResponse side id result).busy t = s.busy t := by
  unfold handleResponse
  split
  · split
    · exact busy_update (fun _ => rfl) fun _ => rfl
    · rfl
  · rfl

theorem busy_forward {id method params : String} {writes : Bool}
    (now : (s.forward side id method params writes).busy t = true) : t = side ∨ s.busy t = true := by
  by_cases same : t = side
  · exact .inl same
  right
  unfold forward at now
  split at now
  · rw [busy, conn_update, if_neg same] at now
    have asked : (s.update side.other (.ask method params)).busy t = s.busy t :=
      busy_update (fun _ => rfl) fun _ => rfl
    rwa [← asked]
  have skipped : (s.update side.other .skip).busy t = s.busy t := busy_update (fun _ => rfl) fun _ => rfl
  rw [← skipped]
  exact busy_reply ▸ now

theorem busy_onServerRequest {id method params : String} {tool : ToolCall} {writes : Bool}
    (now : (s.onServerRequest inject side id method params tool writes).busy t = true) :
    t = side ∨ s.busy t = true := by
  revert now
  fun_cases s.onServerRequest inject side id method params tool writes <;> intro now
  case case2 => exact .inr (busy_reply ▸ now)
  case case3 =>
    by_cases same : t = .upstream
    · exact .inl same
    · rw [busy, conn_update, if_neg same] at now
      exact .inr now
  all_goals exact busy_forward now

theorem busy_of_reading (now : (s.update side (.goto .reading)).busy t = true) : s.busy t = true := by
  rw [busy, conn_update] at now
  split at now
  · next same =>
      subst same
      rw [busy, Bool.or_eq_true]
      exact .inr (by simpa [Conn.goto, Loop.blocked] using now)
  · exact now

theorem Step.busy (step : s.Step inject label s') (now : s'.busy t = true) :
    s.busy t = true ∨ ∃ msg, label = .arrive t msg ∧ msg.isRequest = true := by
  unfold Step at step
  revert step
  fun_cases s.act inject label <;> intro step <;> try cases step
  case case1.refl side msg =>
    rw [Shim.busy, conn_update] at now
    split at now
    · next same =>
        subst same
        cases asks : msg.isRequest with
        | true => exact .inr ⟨msg, rfl, asks⟩
        | false =>
          left
          rw [Shim.busy]
          simpa [asks] using now
    · exact .inl now
  all_goals left
  case case2 side tool writes =>
    simp only [read] at step
    split at step <;> try cases step
    next msg rest reading inbox =>
      have tail : (s.update side fun c => { c with inbox := rest }).busy t = true → s.busy t = true := by
        intro now
        rw [Shim.busy, conn_update] at now
        split at now
        · next same =>
            subst same
            rw [Shim.busy, inbox, any_cons]
            simp only [Bool.or_eq_true] at now ⊢
            exact now.imp_right .inr
        · exact now
      cases msg <;> cases step
      case request.refl =>
        rcases busy_onServerRequest now with same | before
        · rw [same, Shim.busy, inbox, any_cons]
          simp [Rpc.isRequest]
        · exact tail before
      case notification.refl => exact tail (busy_write ▸ now)
      case response.refl => exact tail (busy_handleResponse ▸ now)
      case malformed.refl => exact tail now
  case case3 side n _ _ _ =>
    obtain ⟨d, -, rfl⟩ := map_eq_some_iff.mp step
    have taken : (s.update side.other (.take n)).busy t = s.busy t := busy_update (fun _ => rfl) fun _ => rfl
    rw [← taken]
    exact busy_reply ▸ busy_of_reading now
  case case5.refl side n _ _ _ _ =>
    have given : (s.update side.other (.forget n)).busy t = s.busy t := busy_update (fun _ => rfl) fun _ => rfl
    rw [← given]
    exact busy_reply ▸ busy_of_reading now
  case case7.refl => exact busy_reply ▸ busy_of_reading now

end Shim

open Shim

/-- Where a peer sends a request only while the shim has none of the other peer, the two read loops
never wait at the same time, and the loop that has to read a response is there to read it. -/
theorem loops_never_wait_for_each_other {inject : String → String} {labels : List ShimLabel} {s : Shim}
    (run : Run (fun s label s' => Step inject s label s' ∧ s.polite label = true) {} labels s) :
    ¬((s.conn .downstream).loop.blocked = true ∧ (s.conn .upstream).loop.blocked = true) ∧
      ∀ side n origin method, (s.conn side).loop = .requesting n origin method →
        ∀ id result, .response id result ∈ (s.conn side.other).inbox →
          Codex.parsePendingID id.toList = some n → (s.conn side.other).loop = .reading := by
  have one : ∀ side, s.busy side = true → s.busy side.other = false := by
    refine run.invariant (fun s => ∀ side, s.busy side = true → s.busy side.other = false) ?_ ?_
    · rintro side ⟨⟩
    · intro s label s' one step side now
      obtain ⟨step, polite⟩ := step
      rw [← Bool.not_eq_true]
      intro both
      rcases step.busy now with before | ⟨msg, rfl, asks⟩
      · rcases step.busy both with before' | ⟨msg, rfl, asks⟩
        · rw [one side before] at before'
          cases before'
        · cases side <;> simp_all [Shim.polite, Side.other]
      rcases step.busy both with before' | ⟨msg', arrives, -⟩
      · simp [Shim.polite, asks, before'] at polite
      · injection arrives with same
        cases side <;> cases same
  have idle : ∀ side, (s.conn side).loop.blocked = true → (s.conn side.other).loop = .reading := by
    intro side blocked
    have free := one side (by simp [Shim.busy, blocked])
    rw [Shim.busy, Bool.or_eq_false_iff] at free
    cases loop : (s.conn side.other).loop with
    | reading => rfl
    | requesting | calling => simp [loop, Loop.blocked] at free
  refine ⟨fun both => ?_, fun side n origin method waits _ _ _ _ => ?_⟩
  · have reading := idle .downstream both.1
    simp only [Side.other] at reading
    simp [reading, Loop.blocked] at both
  · exact idle side (by rw [waits]; rfl)

/-- The CLI starts a thread, and the app-server asks for an approval when that is answered. -/
def inTurn : List ShimLabel :=
  [.arrive .downstream (.request "\"a\"" "thread/start" "[]"), .read .downstream .notHandled true,
    .arrive .upstream (.response "1" (.ok "thread")), .read .upstream .notHandled true,
    .resume .downstream, .arrive .upstream (.request "7" "item/approval" "[]"),
    .read .upstream .notHandled true, .arrive .downstream (.response "1" (.ok "yes"))]

theorem loops_never_wait_for_each_other_inTurn : ∃ s : Shim,
    Run (fun s label s' => Step id s label s' ∧ s.polite label = true) {} inTurn s ∧
      (s.conn .upstream).loop = .requesting 1 "7" "item/approval" ∧ (s.conn .downstream).loop = .reading := by
  have facts : (replay (guarded (act id) fun s label => s.polite label = true) {} inTurn).map
      (fun s => ((s.conn .upstream).loop, (s.conn .downstream).inbox)) =
        some (.requesting 1 "7" "item/approval", [.response "1" (.ok "yes")]) := by
    rfl
  obtain ⟨s, replayed, found⟩ := map_eq_some_iff.mp facts
  obtain ⟨waits, inbox⟩ := Prod.mk.inj found
  have run := guarded_run replayed
  refine ⟨s, run, waits, (loops_never_wait_for_each_other run).2 .upstream 1 _ _ waits "1"
    (.ok "yes") ?_ (by decide)⟩
  show _ ∈ (s.conn .downstream).inbox
  rw [inbox]
  exact mem_singleton_self _

/-- The CLI and the app-server send each other a request at the same time, and both answer. -/
def crossing : List ShimLabel :=
  [.arrive .downstream (.request "1" "turn/start" "[]"),
    .arrive .upstream (.request "1" "item/approval" "[]"), .read .downstream .notHandled true,
    .read .upstream .notHandled true, .arrive .upstream (.response "1" (.ok "turn")),
    .arrive .downstream (.response "1" (.ok "yes"))]

/-- Each loop waits for a response that is in the inbox of the other one, and neither reads on. -/
theorem loops_wait_for_each_other : ∃ s : Shim, Run (Step id) {} crossing s ∧
    (s.conn .downstream).loop = .requesting 1 "1" "turn/start" ∧
    (s.conn .upstream).loop = .requesting 1 "1" "item/approval" ∧
    (s.conn .upstream).inbox = [.response "1" (.ok "turn")] ∧
    (s.conn .downstream).inbox = [.response "1" (.ok "yes")] ∧
    ∀ side tool writes, s.act id (.read side tool writes) = none ∧ s.act id (.resume side) = none := by
  have facts : (replay (act id) {} crossing).map (fun s => (s.conn .downstream, s.conn .upstream)) =
      some ({ inbox := [.response "1" (.ok "yes")], written := [.request "1" "item/approval" "[]"],
              nextID := 1, pending := [1], loop := .requesting 1 "1" "turn/start" },
            { inbox := [.response "1" (.ok "turn")], written := [.request "1" "turn/start" "[]"],
              nextID := 1, pending := [1], loop := .requesting 1 "1" "item/approval" }) := by
    rfl
  obtain ⟨s, replayed, found⟩ := map_eq_some_iff.mp facts
  obtain ⟨down, up⟩ := Prod.mk.inj found
  refine ⟨s, replay_run replayed, by rw [down], by rw [up], by rw [up], by rw [down], ?_⟩
  intro side tool writes
  cases side <;> simp [act, Shim.read, Side.other, down, up]

end AgentGrid.Bridge
