import AgentGrid.Lib.Chan
import AgentGrid.Lib.Run
import Mathlib.Logic.Function.Basic

/-!
# The client of the daemon socket

`Client.Send` registers a channel under its request id, writes its command and selects between the
context, the end of the client and its channel.  The reader takes a channel out of the table under
the lock and sends on it afterwards; `Close` closes those still in the table.  Lock regions, channel
operations and the choice of a `select` are single steps.
-/

namespace AgentGrid.Gateway

open AgentGrid.Lib List Option Function

/-- A request id on the wire: the n-th one of this client's generator, or any other text. -/
inductive ReqID where
  | issued (n : Nat) | other (text : String)
  deriving DecidableEq

structure ErrorBody where
  (code message : String)
  deriving DecidableEq

/-- A response envelope, with what `DecodeResponseByCommand` makes of its data. -/
structure Envelope (R : Type) where
  reqID : ReqID
  isError : Bool := false
  error : Option ErrorBody := none
  decoded : Except String R

structure InFlight (R : Type) where
  body : Option R := none
  err : Option ErrorBody := none

/-- What `dispatchResponse` hands to the waiting request. -/
def Envelope.inFlight {R : Type} (env : Envelope R) : InFlight R :=
  if env.isError then { err := some (env.error.getD ⟨"unknown", "server returned error without body"⟩) }
  else
    match env.decoded with
    | .error message => { err := some ⟨"internal", message⟩ }
    | .ok body => { body := some body }

inductive SendError where
  | encode | clientClosed | write | ctx | remote (body : ErrorBody)
  deriving DecidableEq

/-- What `Send` returns for a value it received. -/
def InFlight.result {R : Type} (r : InFlight R) : Except SendError (Option R) :=
  match r.err with
  | some body => .error (.remote body)
  | none => .ok r.body

/-- A value on the channel of a request, with its number among the matched envelopes. -/
structure Delivery (R : Type) where
  serial : Nat
  inFlight : InFlight R

/-- Where a call of `Send` stands.  What it returned is kept with the number of the envelope it
came from. -/
inductive SendStage (R : Type) where
  | idle | encoded | registered | waiting
  /-- About to delete its entry and to return the error. -/
  | dropping (err : SendError)
  | returned (result : Except SendError (Option R)) (serial : Option Nat)

def SendStage.unregistered {R : Type} : SendStage R → Bool
  | .idle | .encoded => true
  | _ => false

inductive Reader (R : Type) where
  | reading
  /-- Between the lock region of `dispatchResponse` and its send. -/
  | delivering (k : Nat) (delivery : Delivery R) | ended

structure Client (R : Type) where
  /-- How many calls of `Send` there were; the k-th one has the k-th request id. -/
  started : Nat := 0
  stage : Nat → SendStage R := fun _ => .idle
  ch : Nat → Chan (Delivery R) := fun _ => { cap := 1 }
  /-- The requests in the table, which is nil after `Close`. -/
  pending : Option (Nat → Bool) := some fun _ => false
  reader : Reader R := .reading
  /-- `c.closed` is closed. -/
  (closed closeReturned panicked : Bool := false)
  /-- The envelopes that were matched with a request. -/
  matched : List (Envelope R × Nat) := []

inductive ClientLabel (R : Type) where
  | start (encodes : Bool) | register (k : Nat) | write (k : Nat) (ok : Bool) | ctxDone (k : Nat)
  | drop (k : Nat) | seesClosed (k : Nat) | receive (k : Nat) | envelope (env : Envelope R) | deliver
  | endOfStream | close | closePending

namespace Client

variable {R : Type}

variable (s : Client R) (k : Nat)

def setStage (stage : SendStage R) : Client R :=
  { s with stage := Function.update s.stage k stage }

/-- `delete(c.pending, reqID)`. -/
def unpend : Client R :=
  { s with pending := s.pending.map fun p => Function.update p k false }

def isPending : Bool := s.pending.any fun p => p k

def dispatchResponse (env : Envelope R) : Client R :=
  match env.reqID with
  | .issued k =>
    if s.isPending k then
      { s.unpend k with reader := .delivering k ⟨s.matched.length, env.inFlight⟩, matched := s.matched ++ [(env, k)] }
    else s
  | .other _ => s

/-- The lock region of `Close`. -/
def closePending : Client R :=
  { s with
    ch := fun k => if s.isPending k then { s.ch k with closed := true } else s.ch k
    pending := none, closeReturned := true
    panicked := (List.range s.started).any fun k => s.isPending k && (s.ch k).closed }

def act (label : ClientLabel R) : Option (Client R) :=
  if s.panicked then none
  else
    match label with
    | .start encodes =>
      let next : SendStage R := if encodes then .encoded else .returned (.error .encode) none
      some { s.setStage s.started next with started := s.started + 1 }
    | .register k =>
      match s.stage k, s.pending with
      | .encoded, some p => some { s.setStage k .registered with pending := some (Function.update p k true) }
      | .encoded, none => some (s.setStage k (.returned (.error .clientClosed) none))
      | _, _ => none
    | .write k ok =>
      match s.stage k with
      | .registered => some (s.setStage k (if ok then .waiting else .dropping .write))
      | _ => none
    | .ctxDone k =>
      match s.stage k with
      | .waiting => some (s.setStage k (.dropping .ctx))
      | _ => none
    | .drop k =>
      match s.stage k with
      | .dropping err => some ((s.unpend k).setStage k (.returned (.error err) none))
      | _ => none
    | .seesClosed k =>
      match s.stage k, s.closed with
      | .waiting, true => some (s.setStage k (.returned (.error .clientClosed) none))
      | _, _ => none
    | .receive k =>
      match s.stage k with
      | .waiting =>
        match (s.ch k).receive with
        | .got d ch =>
          some { s.setStage k (.returned d.inFlight.result (some d.serial)) with ch := Function.update s.ch k ch }
        | .drained => some (s.setStage k (.returned (InFlight.result {}) none))
        | .empty => none
      | _ => none
    | .envelope env =>
      match s.reader with
      | .reading => some (s.dispatchResponse env)
      | _ => none
    | .deliver =>
      match s.reader with
      | .delivering k d =>
        match (s.ch k).offer d with
        | .sent ch => some { s with ch := Function.update s.ch k ch, reader := .reading }
        | .full => none
        | .panicked => some { s with panicked := true }
      | _ => none
    | .endOfStream =>
      match s.reader with
      | .reading => some { s with reader := .ended }
      | _ => none
    | .close => if s.closed then none else some { s with closed := true }
    | .closePending => if s.closed && !s.closeReturned then some s.closePending else none

def Step (label : ClientLabel R) (s' : Client R) : Prop := s.act label = some s'

/-- A case of the `select` of a waiting request other than its context is ready. -/
def Ready : Prop :=
  s.closed = true ∨ (s.ch k).buf ≠ [] ∨ (s.ch k).closed = true

/-- The delivery comes from an envelope with the id of the request. -/
def Own (d : Delivery R) : Prop :=
  ∃ env, s.matched[d.serial]? = some (env, k) ∧ env.reqID = .issued k ∧ d.inFlight = env.inFlight

/-- The reader ends only once the client is being closed, and a request that `Close` wakes takes the
case of `c.closed`. -/
def orderly : ClientLabel R → Bool
  | .endOfStream => s.closed
  | .receive k => !(s.ch k).buf.isEmpty
  | _ => true

variable {s s' : Client R} {label : ClientLabel R} {k : Nat}

/-- What holds of the table, the channels and the answers. -/
structure Sound (s : Client R) : Prop where
  calm : s.panicked = false
  fresh : ∀ k, (s.stage k).unregistered = true →
    (s.ch k).closed = false ∧ (s.ch k).buf = [] ∧ s.isPending k = false ∧ ∀ d, s.reader ≠ .delivering k d
  later : ∀ k, s.started ≤ k → s.stage k = .idle
  held : ∀ k, s.isPending k = true → (s.ch k).closed = false ∧ (s.ch k).buf = []
  inHand : ∀ k d, s.reader = .delivering k d →
    (s.ch k).closed = false ∧ (s.ch k).buf = [] ∧ s.isPending k = false ∧ s.Own k d
  queued : ∀ k, ∀ d ∈ (s.ch k).buf, s.Own k d
  given : ∀ k body serial, s.stage k = .returned (.ok body) serial →
    ∃ d, serial = some d.serial ∧ s.Own k d ∧ d.inFlight.result = .ok body
  ended : s.reader = .ended → s.closed = true
  returned : s.closeReturned = true → s.closed = true

theorem Sound.start : (({} : Client R)).Sound where
  calm := rfl
  fresh _ _ := ⟨rfl, rfl, rfl, nofun⟩
  later _ _ := rfl
  held _ pending := by cases pending
  inHand _ _ reading := by cases reading
  queued _ := forall_mem_nil _
  given _ _ _ none := by cases none
  ended none := by cases none
  returned none := by cases none

theorem Sound.setStage (sound : s.Sound) (k : Nat) {stage : SendStage R}
    (begun : k < s.started) (old : stage.unregistered = false)
    (failed : ∀ body serial, stage = .returned (.ok body) serial →
      ∃ d, serial = some d.serial ∧ s.Own k d ∧ d.inFlight.result = .ok body) : (s.setStage k stage).Sound := by
  have at' : ∀ j, (s.setStage k stage).stage j = if j = k then stage else s.stage j := fun j => update_apply _ _ _ j
  refine { sound with
    fresh := fun j new => ?_, later := fun j beyond => ?_,
    given := fun j body serial out => ?_ }
  · rw [at'] at new
    split at new
    · cases old.symm.trans new
    · exact sound.fresh j new
  · have apart : j ≠ k := by
      rintro rfl
      exact absurd beyond (Nat.not_le.mpr begun)
    rw [at', if_neg apart]
    exact sound.later j beyond
  · rw [at'] at out
    split at out
    · next same =>
        subst same
        exact failed body serial out
    · exact sound.given j body serial out

theorem isPending_unpend (s : Client R) (k j : Nat) :
    (s.unpend k).isPending j = (s.isPending j && decide (j ≠ k)) := by
  unfold unpend isPending
  cases s.pending with
  | none => rfl
  | some =>
    by_cases same : j = k
    · subst same
      simp
    · simp [same]

theorem isPending_of_unpend {j : Nat} (pending : (s.unpend k).isPending j = true) : s.isPending j = true ∧ j ≠ k := by
  rw [isPending_unpend] at pending
  simpa using pending

theorem isPending_unpend_of_false {j : Nat} (free : s.isPending j = false) : (s.unpend k).isPending j = false := by
  rw [isPending_unpend, free, Bool.false_and]

theorem Sound.unpend (sound : s.Sound) (k : Nat) : (s.unpend k).Sound := by
  refine { sound with fresh := fun j new => ?_, held := fun j pending => ?_, inHand := fun j d hand => ?_ }
  · obtain ⟨still, empty, free, apart⟩ := sound.fresh j new
    exact ⟨still, empty, isPending_unpend_of_false free, apart⟩
  · exact sound.held j (isPending_of_unpend pending).1
  · obtain ⟨still, empty, free, own⟩ := sound.inHand j d hand
    exact ⟨still, empty, isPending_unpend_of_false free, own⟩

theorem begun_of_stage (sound : s.Sound) (busy : s.stage k ≠ .idle) : k < s.started := by
  by_contra far
  exact busy (sound.later k (Nat.not_lt.mp far))

theorem Own.mono {d : Delivery R} {more : List (Envelope R × Nat)} (own : s.Own k d)
    (grown : s'.matched = s.matched ++ more) : s'.Own k d := by
  obtain ⟨env, found, rest⟩ := own
  refine ⟨env, ?_, rest⟩
  obtain ⟨inside, -⟩ := List.getElem?_eq_some_iff.mp found
  rw [grown, getElem?_append_left inside, found]

section

variable (sound : s.Sound)

include sound

theorem Sound.dispatchResponse (env : Envelope R) : (s.dispatchResponse env).Sound := by
  unfold Client.dispatchResponse
  split
  · next k mine =>
      split
      · next pending =>
          have taken := sound.unpend k
          obtain ⟨still, empty⟩ := sound.held k pending
          refine { taken with
            fresh := fun j new => ?_, inHand := fun j d hand => ?_, queued := fun j d mem => ?_
            given := fun j body serial out => ?_, ended := fun past => ?_ }
          · obtain ⟨still, empty, free, -⟩ := taken.fresh j new
            refine ⟨still, empty, free, fun d hand => ?_⟩
            cases hand
            rw [(sound.fresh k new).2.2.1] at pending
            cases pending
          · cases hand
            refine ⟨still, empty, ?_, env, getElem?_concat_length, mine, rfl⟩
            show (s.unpend k).isPending k = false
            rw [isPending_unpend]
            simp
          · exact (sound.queued j d mem).mono rfl
          · obtain ⟨d, from', own, result⟩ := sound.given j body serial out
            exact ⟨d, from', own.mono rfl, result⟩
          · cases past
      · exact sound
  · exact sound

theorem Sound.deliver {d : Delivery R} {ch : Chan (Delivery R)}
    (hand : s.reader = .delivering k d) (sent : (s.ch k).offer d = .sent ch) :
    Sound { s with ch := Function.update s.ch k ch, reader := .reading } := by
  obtain ⟨-, empty, free, own⟩ := sound.inHand k d hand
  obtain ⟨still, rfl⟩ := Chan.eq_of_offer sent
  refine { sound with
    fresh := fun j new => ?_, held := fun j pending => ?_, inHand := fun j e other => ?_
    queued := fun j e mem => ?_, ended := fun past => ?_ }
  · obtain ⟨open', empty', free', apart⟩ := sound.fresh j new
    have other : j ≠ k := by
      rintro rfl
      exact apart d hand
    refine ⟨?_, ?_, free', fun e => nofun⟩ <;>
      simpa only [update_of_ne other]
  · have other : j ≠ k := by
      rintro rfl
      have pending := pending
      cases free.symm.trans pending
    simpa only [update_of_ne other] using sound.held j pending
  · cases other
  · by_cases same : j = k
    · subst same
      simp only [update_self, empty, nil_append, mem_singleton] at mem
      exact mem ▸ own
    · simp only [update_of_ne same] at mem
      exact sound.queued j e mem
  · cases past

theorem Sound.receive {d : Delivery R} {ch : Chan (Delivery R)}
    (waiting : s.stage k = .waiting) (got : (s.ch k).receive = .got d ch) :
    Sound { s.setStage k (.returned d.inFlight.result (some d.serial)) with ch := Function.update s.ch k ch } := by
  obtain ⟨front, still⟩ := Chan.eq_of_receive got
  have own : s.Own k d := sound.queued k d (front ▸ mem_cons_self)
  have begun : k < s.started := begun_of_stage sound (by simp [waiting])
  have staged : (s.setStage k (.returned d.inFlight.result (some d.serial))).Sound :=
    sound.setStage k begun rfl fun body serial out => by
      injection out with result from'
      exact ⟨d, from'.symm, own, result⟩
  have filled : (s.ch k).buf ≠ [] := by simp [front]
  refine { staged with
    fresh := fun j new => ?_, held := fun j pending => ?_, inHand := fun j e hand => ?_
    queued := fun j e mem => ?_ }
  · obtain ⟨open', empty, free, apart⟩ := staged.fresh j new
    have other : j ≠ k := by
      rintro rfl
      exact filled empty
    refine ⟨?_, ?_, free, apart⟩ <;> simpa only [update_of_ne other]
  · have other : j ≠ k := by
      rintro rfl
      exact filled (staged.held j pending).2
    have kept : (s.ch j).closed = false ∧ (s.ch j).buf = [] := staged.held j pending
    simpa only [update_of_ne other] using kept
  · obtain ⟨open', empty, rest⟩ := staged.inHand j e hand
    have other : j ≠ k := by
      rintro rfl
      exact filled empty
    refine ⟨?_, ?_, rest⟩ <;> simpa only [update_of_ne other]
  · by_cases same : j = k
    · subst same
      simp only [update_self] at mem
      exact sound.queued j e (front ▸ mem_cons_of_mem _ mem)
    · simp only [update_of_ne same] at mem
      exact sound.queued j e mem

theorem Sound.closePending (closed : s.closed = true) : s.closePending.Sound := by
  have kept : ∀ j, s.isPending j = false → s.closePending.ch j = s.ch j := fun j free => if_neg (by simp [free])
  refine { sound with
    calm := ?_, fresh := fun j new => ?_, held := fun j pending => ?_
    inHand := fun j d hand => ?_, queued := fun j d mem => ?_, returned := fun _ => closed }
  · refine List.any_eq_false.mpr fun j _ => ?_
    cases pending : s.isPending j with
    | false => simp
    | true => simp [(sound.held j pending).1]
  · obtain ⟨still, empty, free, apart⟩ := sound.fresh j new
    rw [kept j free]
    exact ⟨still, empty, rfl, apart⟩
  · cases pending
  · obtain ⟨still, empty, free, own⟩ := sound.inHand j d hand
    rw [kept j free]
    exact ⟨still, empty, rfl, own⟩
  · refine sound.queued j d ?_
    have same : (s.closePending.ch j).buf = (s.ch j).buf := by
      show (if s.isPending j then _ else _ : Chan (Delivery R)).buf = _
      split <;> rfl
    rwa [same] at mem

theorem Sound.register {p : Nat → Bool} (encoded : s.stage k = .encoded) (table : s.pending = some p) :
    Sound { s.setStage k .registered with pending := some (Function.update p k true) } := by
  have begun : k < s.started := begun_of_stage sound (by simp [encoded])
  have staged : (s.setStage k .registered).Sound := sound.setStage k begun rfl nofun
  obtain ⟨still, empty, -, apart⟩ := sound.fresh k (by rw [encoded]; rfl)
  have pends : ∀ j, j ≠ k → (Function.update p k true) j = s.isPending j := fun j other => by
    simp [isPending, table, other]
  refine { staged with fresh := fun j new => ?_, held := fun j pending => ?_, inHand := fun j d hand => ?_ }
  · obtain ⟨still, empty, free, apart⟩ := staged.fresh j new
    have other : j ≠ k := by
      rintro rfl
      simp [Client.setStage, SendStage.unregistered] at new
    exact ⟨still, empty, (pends j other).trans free, apart⟩
  · by_cases same : j = k
    · subst same
      exact ⟨still, empty⟩
    · exact sound.held j ((pends j same).symm.trans pending)
  · obtain ⟨still, empty, free, own⟩ := staged.inHand j d hand
    have other : j ≠ k := by
      rintro rfl
      exact apart d hand
    exact ⟨still, empty, (pends j other).trans free, own⟩

theorem Sound.begin (encodes : Bool) :
    Sound { s.setStage s.started (if encodes then .encoded else .returned (.error .encode) none) with
      started := s.started + 1 } := by
  have new := sound.later _ (Nat.le_refl _)
  have at' : ∀ j (stage : SendStage R), (s.setStage s.started stage).stage j =
      if j = s.started then stage else s.stage j := fun j stage => update_apply _ _ _ j
  refine { sound with
    fresh := fun j fresh => ?_, later := fun j beyond => ?_
    given := fun j body serial out => ?_ }
  · by_cases same : j = s.started
    · subst same
      exact sound.fresh _ (by rw [new]; rfl)
    · simp only [at', if_neg same] at fresh
      exact sound.fresh j fresh
  · have other := Nat.ne_of_gt beyond
    simp only [at', if_neg other]
    exact sound.later j (Nat.le_of_lt beyond)
  · by_cases same : j = s.started
    · subst same
      simp only [at', if_true] at out
      split at out <;> cases out
    · simp only [at', if_neg same] at out
      exact sound.given j body serial out

theorem Sound.step (step : s.Step label s') (good : s.orderly label = true) : s'.Sound := by
  have fail : ∀ k (stage : SendStage R), s.stage k ≠ .idle → stage.unregistered = false →
      (∀ body serial, stage ≠ .returned (.ok body) serial) → (s.setStage k stage).Sound :=
    fun k stage busy old failed => sound.setStage k (begun_of_stage sound busy) old
      fun body serial out => absurd out (failed body serial)
  revert step
  unfold Step
  fun_cases s.act label <;> rintro ⟨⟩
  case case2 => exact sound.begin _
  case case3 table encoded => exact sound.register encoded table
  case case4 encoded => exact fail _ _ (by simp [encoded]) rfl nofun
  case case6 ok registered =>
    cases ok with
    | true | false => exact fail _ _ (by simp [registered]) rfl nofun
  case case8 waiting | case12 waiting => exact fail _ _ (by simp [waiting]) rfl nofun
  case case10 k err dropping =>
    have begun : k < s.started := begun_of_stage sound (by simp [dropping])
    exact (sound.unpend k).setStage k begun rfl nofun
  case case14 waiting _ _ got => exact sound.receive waiting got
  case case15 drained =>
    simp only [orderly, Bool.not_eq_true', isEmpty_eq_false_iff] at good
    unfold Chan.receive at drained
    split at drained
    · cases drained
    · next empty => exact absurd empty good
  case case18 => exact sound.dispatchResponse _
  case case20 hand _ sent => exact sound.deliver hand sent
  case case22 k d hand panicked =>
    rw [Chan.offer_eq_panicked_iff, (sound.inHand k d hand).1] at panicked
    cases panicked
  case case24 =>
    refine { sound with fresh := fun j new => ?_, inHand := fun j d hand => ?_, ended := fun _ => good }
    · obtain ⟨still, empty, free, -⟩ := sound.fresh j new
      exact ⟨still, empty, free, nofun⟩
    · cases hand
  case case27 => exact { sound with ended := fun _ => rfl, returned := fun _ => rfl }
  case case28 closing =>
    simp only [Bool.and_eq_true] at closing
    exact sound.closePending closing.1

end

theorem result_eq_ok {env : Envelope R} {body : Option R} (ok : env.inFlight.result = .ok body) :
    env.isError = false ∧ ∃ r, env.decoded = .ok r ∧ body = some r := by
  revert ok
  fun_cases Envelope.inFlight env <;> rintro ⟨⟩
  case case3 fine r decoded => exact ⟨by simpa using fine, r, decoded, rfl⟩

end Client

open Client

/-- Where the reader ends only once the client is being closed and a request that `Close` wakes takes
the case of `c.closed`: a success is the decoded body of an envelope with the request's own id, no
envelope answers two requests, nothing is sent on a closed channel, and once the reader has ended or
`Close` has returned nobody waits for the context alone. -/
theorem send_answered {R : Type} {labels : List (ClientLabel R)} {s : Client R}
    (run : Run (fun s label s' => Step s label s' ∧ s.orderly label = true) {} labels s) :
    (∀ k body serial, s.stage k = .returned (.ok body) serial →
      ∃ n env r, serial = some n ∧ s.matched[n]? = some (env, k) ∧ env.reqID = .issued k ∧
        env.isError = false ∧ env.decoded = .ok r ∧ body = some r) ∧
      (∀ k k' body body' n, s.stage k = .returned (.ok body) (some n) →
        s.stage k' = .returned (.ok body') (some n) → k = k') ∧ s.panicked = false ∧
      ((s.reader = .ended ∨ s.closeReturned = true) → ∀ k, s.stage k = .waiting → s.Ready k) := by
  have sound : s.Sound := run.invariant Sound .start fun _ _ _ sound step => sound.step step.1 step.2
  refine ⟨fun k body serial out => ?_, fun k k' body body' n first second => ?_, sound.calm,
    fun past k _ => .inl (past.elim sound.ended sound.returned)⟩
  · obtain ⟨d, from', ⟨env, found, mine, same⟩, result⟩ := sound.given k body serial out
    obtain ⟨fine, r, decoded, rfl⟩ := result_eq_ok (same ▸ result)
    exact ⟨d.serial, env, r, from', found, mine, fine, decoded, rfl⟩
  · obtain ⟨d, from₁, ⟨env, found, -, -⟩, -⟩ := sound.given k body _ first
    obtain ⟨e, from₂, ⟨env', found', -, -⟩, -⟩ := sound.given k' body' _ second
    have same := some.inj (from₁.symm.trans from₂)
    rw [same, found'] at found
    cases found
    rfl

/-- Two requests; the second one is answered first, and the other is woken by `Close`. -/
def orderlyClose : List (ClientLabel String) :=
  [.start true, .start true, .register 0, .register 1, .write 1 true, .write 0 true,
    .envelope { reqID := .issued 1, decoded := .ok "one" }, .deliver, .receive 1, .close,
    .endOfStream, .closePending, .seesClosed 0]

theorem send_answered_orderlyClose : ∃ s : Client String,
    Run (fun s label s' => Step s label s' ∧ s.orderly label = true) {} orderlyClose s ∧
      (∃ serial, s.stage 1 = .returned (.ok (some "one")) serial ∧
        ∃ n env, serial = some n ∧ s.matched[n]? = some (env, 1) ∧ env.reqID = .issued 1) ∧
      s.stage 0 = .returned (.error .clientClosed) none := by
  have facts : (replay (guarded act fun s label => s.orderly label = true) {} orderlyClose).map
      (fun s => (s.stage 1, s.stage 0)) =
        some (.returned (.ok (some "one")) (some 0), .returned (.error .clientClosed) none) := by
    rfl
  obtain ⟨s, replayed, found⟩ := map_eq_some_iff.mp facts
  obtain ⟨answered, woken⟩ := Prod.mk.inj found
  have run := guarded_run replayed
  obtain ⟨n, env, r, from', matched, mine, -⟩ := (send_answered run).1 1 _ _ answered
  exact ⟨s, run, ⟨_, answered, n, env, from', matched, mine⟩, woken⟩

def closedUnderneath : List (ClientLabel String) :=
  [.start true, .register 0, .write 0 true, .close, .closePending, .receive 0]

/-- A request waits when the peer ends the stream. -/
def endedUnderneath : List (ClientLabel String) :=
  [.start true, .register 0, .write 0 true, .endOfStream]

/-- `Send` returns success without a response, and the end of the stream strands a request. -/
theorem send_unanswered : (∃ s : Client String, Run Step {} closedUnderneath s ∧
      s.stage 0 = .returned (.ok none) none) ∧
    ∃ s : Client String, Run Step {} endedUnderneath s ∧ s.reader = .ended ∧ s.stage 0 = .waiting ∧ ¬s.Ready 0 := by
  have first : (replay act ({} : Client String) closedUnderneath).map (fun s => s.stage 0) =
      some (.returned (.ok none) none) := by
    rfl
  have second : (replay act ({} : Client String) endedUnderneath).map
      (fun s => (s.reader, s.stage 0, s.closed, s.ch 0)) = some (.ended, .waiting, false, { cap := 1 }) := by
    rfl
  obtain ⟨s, replayed, found⟩ := map_eq_some_iff.mp first
  obtain ⟨t, replayed', found'⟩ := map_eq_some_iff.mp second
  simp only [Prod.mk.injEq] at found'
  obtain ⟨ended, waiting, still, ch⟩ := found'
  refine ⟨⟨s, replay_run replayed, found⟩, t, replay_run replayed', ended, waiting, ?_⟩
  simp [Ready, still, ch]

end AgentGrid.Gateway
