import AgentGrid.Lib.RangeLoop
import AgentGrid.Lib.Run
import Mathlib.Order.Basic

/-!
# Terminal sessions

A session is an actor: its main loop owns the emulator, the size of the terminal and the channels
of the subscribers, and serves chunks from the pty and commands of clients one after the other.
What a chunk raises goes to every subscriber; one whose buffer is full is disconnected.  The
emulator is abstract, and whether the pty accepts a size is an input.
-/

namespace AgentGrid.Termvt

open AgentGrid.Lib List Option GoMap

abbrev Bytes := List UInt8

def subBuffer : Nat := 256

def maxDim : Int := 2000

/-- A control event of the terminal: a title, a bell, a notification or a prompt marker. -/
structure Control where
  kind : String
  code : Int := 0
  data : String := ""
  deriving DecidableEq

inductive Event where
  | output (data : Bytes) | control (ctl : Control) | exit
  deriving DecidableEq

def clampDim (d dflt : Int) : Int :=
  if d ≤ 0 then dflt else if maxDim < d then maxDim else d

def normalizeSize (cols rows : Int) : Int × Int := (clampDim cols 80, clampDim rows 24)

/-- A terminal emulator. What it writes does not change its size. -/
structure Emulator (E : Type) where
  /-- `emulatorFor`. -/
  new : Int → Int → E
  size : E → Int × Int
  /-- The controls are those its handlers raise. -/
  write : E → Bytes → E × List Control
  resize : E → Int → Int → E
  reattachSnapshot : E → E × Except String Bytes
  size_new : ∀ cols rows, size (new cols rows) = (cols, rows)
  size_write : ∀ e chunk, size (write e chunk).1 = size e
  size_resize : ∀ e cols rows, size (resize e cols rows) = (cols, rows)
  size_reattachSnapshot : ∀ e, size (reattachSnapshot e).1 = size e

/-- The channel of a subscriber: what it has received, what is buffered, and when it was
subscribed. -/
structure Chan where
  received : List Event := []
  buf : List Event
  /-- The snapshot it was subscribed with. -/
  snapshot : Bytes
  /-- The number of chunks served before. -/
  since : Nat
  deriving DecidableEq

def Chan.log (c : Chan) : List Event := c.received ++ c.buf

def Chan.receive (c : Chan) : Chan :=
  { c with received := c.received ++ c.buf.take 1, buf := c.buf.drop 1 }

/-- `loopState`, with the size of the pty. -/
structure Loop (E : Type) where
  em : E
  pty : Int × Int
  subs : GoMap Nat Chan := ∅
  nextID : Nat := 0
  (cols rows : Int)
  unusable : Option String := none
  exited : Bool := false
  /-- The channels that were closed. -/
  closed : GoMap Nat Chan := ∅
  /-- The chunks served, with the controls they raised. -/
  chunks : List (List Control × Bytes) := []

variable {E : Type} (em : Emulator E) (r : RangeOrder)

namespace Loop

variable (ls : Loop E) (cols : Int) (rows : Int) (refused : Option String)

/-- `close` and `delete`. -/
@[simp] def drop (e : Nat × Chan) : Loop E :=
  { ls with subs := ls.subs.delete e.1, closed := ls.closed.set e.1 e.2 }

/-- One subscriber's part of `fanout`. -/
def deliver (ev : Event) (ls : Loop E) (e : Nat × Chan) : Loop E :=
  if e.2.buf.length < subBuffer then { ls with subs := ls.subs.set e.1 { e.2 with buf := e.2.buf ++ [ev] } }
  else ls.drop e

def fanout (ev : Event) : Loop E := (ls.subs.range r).foldl (deliver ev) ls

def block (chunk : List Control × Bytes) : List Event := chunk.1.map .control ++ [.output chunk.2]

def processChunk (chunk : Bytes) : Loop E :=
  let written := em.write ls.em chunk
  let ls := { ls with em := written.1, chunks := ls.chunks ++ [(written.2, chunk)] }
  let ls := (written.2.map Event.control).foldl (fanout r) ls
  ls.fanout r (.output chunk)

def handleExit : Loop E :=
  let ls := ({ ls with exited := true } : Loop E).fanout r .exit
  (ls.subs.range r).foldl drop ls

/-- The size is given to the pty, which may refuse it, and then to the emulator. -/
def setSize : Loop E × Option String :=
  let size := normalizeSize cols rows
  match refused with
  | some err => (ls, some err)
  | none => ({ ls with pty := size, em := em.resize ls.em size.1 size.2, cols := size.1, rows := size.2 }, none)

/-- The last part of `subscribeCmd.run`: the snapshot is taken and the subscriber published. -/
def attach : Loop E × Except String Nat :=
  match em.reattachSnapshot ls.em with
  | (e, .error err) => ({ ls with em := e, unusable := some err }, .error err)
  | (e, .ok snapshot) =>
    let id := ls.nextID + 1
    let ch : Chan := { buf := [.output snapshot], snapshot := snapshot, since := ls.chunks.length }
    ({ ls with em := e, nextID := id, subs := ls.subs.set id ch }, .ok id)

/-- `subscribeCmd.run`, with or without a size. -/
def subscribeCmd (size : Option (Int × Int)) (refused : Option String) : Loop E × Except String Nat :=
  match size with
  | none => ls.attach em
  | some (cols, rows) =>
    match ls.setSize em cols rows refused with
    | (ls, some err) => (ls, .error err)
    | (ls, none) => ls.attach em

def unsubscribeCmd (id : Nat) : Loop E :=
  match ls.subs.get? id with
  | some ch => ls.drop (id, ch)
  | none => ls

def resizeCmd : Loop E × Option String :=
  ls.setSize em cols rows refused

/-- A subscriber takes the next event from its channel, open or closed. -/
@[simp] def receive (id : Nat) : Loop E :=
  let take := fun k (c : Chan) => if k = id then c.receive else c
  { ls with subs := ls.subs.mapVal take, closed := ls.closed.mapVal take }

/-- `NewSession`: pty and emulator are made with the size. -/
def start : Loop E :=
  let size := normalizeSize cols rows
  { em := em.new size.1 size.2, pty := size, cols := size.1, rows := size.2 }

end Loop

/-- What the main loop serves, and what subscribers do. -/
inductive Label where
  | chunk (chunk : Bytes)
  | subscribe (size : Option (Int × Int)) (refused : Option String)
  | unsubscribe (id : Nat) | resize (cols rows : Int) (refused : Option String)
  /-- `snapshotCmd` and `sizeCmd`, which only read. -/
  | snapshot | size
  /-- The chunk channel is closed. -/
  | hangup | receive (id : Nat)
  deriving DecidableEq

/-- The command, and the end of the session if it made it unusable. -/
def Loop.serve (ls : Loop E) : Label → Loop E
  | .chunk chunk => ls.processChunk em r chunk
  | .subscribe size refused =>
    let ls := (ls.subscribeCmd em size refused).1
    if ls.unusable.isSome then ls.handleExit r else ls
  | .unsubscribe id => ls.unsubscribeCmd id
  | .resize cols rows refused => (ls.resizeCmd em cols rows refused).1
  | .snapshot => ls
  | .size => ls
  | .hangup => ls.handleExit r
  | .receive id => ls.receive id

def Loop.act (ls : Loop E) (label : Label) : Option (Loop E) :=
  match label with
  | .receive _ => some (ls.serve em r label)
  | _ => if ls.exited then none else some (ls.serve em r label)

def Loop.Step (ls : Loop E) (label : Label) (ls' : Loop E) : Prop := ls.act em r label = some ls'

/-! ## Fan-out -/

variable {em r} {ls ls' : Loop E} {label : Label} {c c' : Chan}

/-- The channel of a subscriber, while it is live and once it is closed. -/
@[simp] def Loop.channel (ls : Loop E) (id : Nat) : Option Chan × Option Chan :=
  (ls.subs.get? id, ls.closed.get? id)

structure Chan.Gets (c : Chan) (events : List Event) (c' : Chan) : Prop where
  log : c'.log = c.log ++ events
  snapshot : c'.snapshot = c.snapshot
  since : c'.since = c.since

/-- What events that are fanned out do to one subscriber: it gets them all, or the first of them
and is closed. -/
inductive Told (events : List Event) : Option Chan × Option Chan → Option Chan × Option Chan → Prop
  | absent (closed : Option Chan) : Told events (none, closed) (none, closed)
  | kept {c c' : Chan} (closed : Option Chan) (gets : c.Gets events c') :
      Told events (some c, closed) (some c', closed)
  | lost {c c' : Chan} (closed : Option Chan) (first : List Event) (part : first <+: events)
      (gets : c.Gets first c') : Told events (some c, closed) (none, some c')

theorem Told.nothing (before : Option Chan × Option Chan) : Told [] before before := by
  obtain ⟨_ | c, closed⟩ := before
  · exact .absent closed
  · exact .kept closed ⟨by simp, rfl, rfl⟩

theorem Told.trans {first second : List Event} {before middle after : Option Chan × Option Chan}
    (told : Told first before middle) (later : Told second middle after) : Told (first ++ second) before after := by
  cases told with
  | absent closed =>
    cases later
    exact .absent closed
  | lost closed part sub gets =>
    cases later
    exact .lost closed part (sub.trans (prefix_append _ _)) gets
  | kept closed gets =>
    cases later with
    | kept _ gets' =>
      exact .kept closed ⟨by rw [gets'.log, gets.log, append_assoc],
        gets'.snapshot.trans gets.snapshot, gets'.since.trans gets.since⟩
    | lost _ part sub gets' =>
      refine .lost closed (first ++ part) (prefix_append_right_inj _ |>.mpr sub) ?_
      exact ⟨by rw [gets'.log, gets.log, append_assoc],
        gets'.snapshot.trans gets.snapshot, gets'.since.trans gets.since⟩

/-- What `fanout` does to a channel. -/
def Chan.put (ev : Event) (c : Chan) (before : Option Chan × Option Chan) : Option Chan × Option Chan :=
  if c.buf.length < subBuffer then (some { c with buf := c.buf ++ [ev] }, before.2)
  else (none, some c)

theorem treats_deliver (ev : Event) : TreatsKeys (Loop.channel (E := E)) (Loop.deliver ev) (Chan.put ev) := by
  constructor
  · intro ls id c
    unfold Loop.deliver Chan.put Loop.channel
    split <;> simp
  · intro ls id c id' other
    unfold Loop.deliver Loop.channel
    split
    · simp [get?_set_of_ne _ other]
    · simp [get?_set_of_ne _ other, get?_delete_of_ne _ other]

theorem treats_drop : TreatsKeys (Loop.channel (E := E)) Loop.drop fun c _ => (none, some c) := by
  constructor
  · intro ls id c
    simp
  · intro ls id c id' other
    simp [get?_set_of_ne _ other, get?_delete_of_ne _ other]

theorem fanout_told (ls : Loop E) (ev : Event) (id : Nat) :
    Told [ev] (ls.channel id) ((ls.fanout r ev).channel id) := by
  rw [Loop.fanout, (treats_deliver ev).range_loop]
  cases live : ls.subs.get? id with
  | none =>
    simp only [elim_none, Loop.channel, live]
    exact .absent _
  | some =>
    simp only [elim_some, Loop.channel, live, Chan.put]
    split
    · exact .kept _ ⟨by simp [Chan.log], rfl, rfl⟩
    · exact .lost _ [] nil_prefix ⟨by simp, rfl, rfl⟩

theorem fanouts_told (ls : Loop E) (events : List Event) (id : Nat) :
    Told events (ls.channel id) ((events.foldl (Loop.fanout r) ls).channel id) := by
  induction events generalizing ls with
  | nil => exact .nothing _
  | cons ev rest ih => exact (fanout_told ls ev id).trans (ih (ls.fanout r ev))

/-- A subscriber whose own buffer has room for what is fanned out gets all of it. -/
theorem fanouts_room {id : Nat} {events : List Event} (live : ls.subs.get? id = some c)
    (room : c.buf.length + events.length ≤ subBuffer) :
    (events.foldl (Loop.fanout r) ls).subs.get? id = some { c with buf := c.buf ++ events } := by
  induction events generalizing ls c with
  | nil => simpa using live
  | cons ev rest ih =>
    rw [length_cons] at room
    have first : (ls.fanout r ev).subs.get? id = some { c with buf := c.buf ++ [ev] } := by
      have treated := (treats_deliver ev).range_loop r ls.subs ls id
      rw [live, elim_some, Chan.put, if_pos (by omega)] at treated
      exact congrArg Prod.fst treated
    rw [foldl_cons, ih first (by simp; omega)]
    simp

section

variable {β : Type} (part : Loop E → β)
  (kept : ∀ (ls : Loop E) subs closed, part { ls with subs := subs, closed := closed } = part ls) (ls : Loop E)

include kept

theorem fanout_keeps (ev : Event) : part (ls.fanout r ev) = part ls := by
  unfold Loop.fanout
  generalize ls.subs.range r = visited
  induction visited generalizing ls with
  | nil => rfl
  | cons e rest ih =>
    rw [foldl_cons, ih]
    unfold Loop.deliver Loop.drop
    split
    · exact kept ls _ ls.closed
    · exact kept ls _ _

theorem fanouts_keep (events : List Event) : part (events.foldl (Loop.fanout r) ls) = part ls := by
  induction events generalizing ls with
  | nil => rfl
  | cons ev rest ih => rw [foldl_cons, ih, fanout_keeps part kept]

theorem drops_keep (visited : List (Nat × Chan)) : part (visited.foldl Loop.drop ls) = part ls := by
  induction visited generalizing ls with
  | nil => rfl
  | cons e rest ih => rw [foldl_cons, ih, Loop.drop, kept ls _ _]

end

/-! ## Contiguous streams -/

/-- The events fanned out since a number of chunks was served. -/
@[simp] def Loop.stream (ls : Loop E) (since : Nat) : List Event :=
  (ls.chunks.drop since).flatMap Loop.block ++ if ls.exited then [.exit] else []

/-- Every channel holds its snapshot and what was fanned out since: a live one all of it, a closed
one the first part. -/
structure Loop.Contiguous (ls : Loop E) : Prop where
  live : ∀ id c, ls.subs.get? id = some c →
    c.log = .output c.snapshot :: ls.stream c.since ∧ c.since ≤ ls.chunks.length
  closed : ∀ id c, ls.closed.get? id = some c →
    (∃ part, c.log = .output c.snapshot :: part ∧ part <+: ls.stream c.since) ∧ c.since ≤ ls.chunks.length
  ids : ∀ id, (ls.subs.get? id).isSome = true ∨ (ls.closed.get? id).isSome = true ↔ 1 ≤ id ∧ id ≤ ls.nextID
  apart : ∀ id c, ls.closed.get? id = some c → ls.subs.get? id = none

theorem Loop.Contiguous.new (cols rows : Int) : (Loop.start em cols rows).Contiguous := by
  refine ⟨nofun, nofun, fun id => ?_, nofun⟩
  simp only [Loop.start, get?_empty, isSome_none, Bool.false_eq_true, or_false, false_iff]
  omega

theorem Loop.Contiguous.told (contiguous : ls.Contiguous) (events : List Event)
    (told : ∀ id, Told events (ls.channel id) (ls'.channel id)) (nextID : ls'.nextID = ls.nextID)
    (length : ls.chunks.length ≤ ls'.chunks.length)
    (stream : ∀ since ≤ ls.chunks.length, ls'.stream since = ls.stream since ++ events) : ls'.Contiguous := by
  refine ⟨fun id c' found => ?_, fun id c' found => ?_, fun id => ?_, fun id c' found => ?_⟩
  · have after := told id
    unfold Loop.channel at after
    rw [found] at after
    generalize wasLive : ls.subs.get? id = live, ls.closed.get? id = closed, ls'.closed.get? id = closed' at after
    cases after with
    | kept _ gets =>
      obtain ⟨log, since⟩ := contiguous.live id _ wasLive
      rw [gets.log, gets.snapshot, gets.since, stream _ since, log]
      exact ⟨rfl, since.trans length⟩
  · have after := told id
    unfold Loop.channel at after
    have older : ls.closed.get? id = some c' →
        (∃ part, c'.log = .output c'.snapshot :: part ∧ part <+: ls'.stream c'.since) ∧
          c'.since ≤ ls'.chunks.length := by
      intro wasClosed
      obtain ⟨⟨part, log, sub⟩, since⟩ := contiguous.closed id c' wasClosed
      rw [stream _ since]
      exact ⟨⟨part, log, sub.trans (prefix_append _ _)⟩, since.trans length⟩
    generalize wasLive : ls.subs.get? id = live, wasClosed : ls.closed.get? id = closed,
      ls'.subs.get? id = live' at after
    rw [wasClosed] at older
    generalize closing : ls'.closed.get? id = closed' at after
    rw [closing] at found
    cases after with
    | absent | kept => exact older found
    | lost _ first sub gets =>
      cases found
      obtain ⟨log, since⟩ := contiguous.live id _ wasLive
      rw [gets.log, gets.snapshot, gets.since, stream _ since, log]
      exact ⟨⟨_, rfl, (prefix_append_right_inj _).mpr sub⟩, since.trans length⟩
  · rw [nextID, ← contiguous.ids id]
    have after := told id
    unfold Loop.channel at after
    generalize ls.subs.get? id = live, ls.closed.get? id = closed, ls'.subs.get? id = live',
      ls'.closed.get? id = closed' at after
    cases after <;> simp
  · have after := told id
    have apart := contiguous.apart id
    unfold Loop.channel at after
    generalize ls.subs.get? id = live, ls.closed.get? id = closed, ls'.subs.get? id = live',
      ls'.closed.get? id = closed' at after apart found
    cases after with
    | absent | lost => rfl
    | kept => cases apart c' found

theorem processChunk_eq (ls : Loop E) (chunk : Bytes) : ls.processChunk em r chunk =
    (Loop.block ((em.write ls.em chunk).2, chunk)).foldl (Loop.fanout r) { ls with
        em := (em.write ls.em chunk).1, chunks := ls.chunks ++ [((em.write ls.em chunk).2, chunk)] } := by
  simp [Loop.processChunk, Loop.block, foldl_append]

theorem processChunk_told (ls : Loop E) (chunk : Bytes) (id : Nat) :
    Told (Loop.block ((em.write ls.em chunk).2, chunk)) (ls.channel id)
      ((ls.processChunk em r chunk).channel id) := by
  rw [processChunk_eq]
  exact fanouts_told { ls with
    em := (em.write ls.em chunk).1, chunks := ls.chunks ++ [((em.write ls.em chunk).2, chunk)] } _ id

theorem processChunk_exited (ls : Loop E) (chunk : Bytes) : (ls.processChunk em r chunk).exited = ls.exited := by
  rw [processChunk_eq, fanouts_keep Loop.exited fun _ _ _ => rfl]

theorem processChunk_contiguous (contiguous : ls.Contiguous) (running : ls.exited = false)
    (chunk : Bytes) : (ls.processChunk em r chunk).Contiguous := by
  have chunks : (ls.processChunk em r chunk).chunks = ls.chunks ++ [((em.write ls.em chunk).2, chunk)] := by
    rw [processChunk_eq, fanouts_keep Loop.chunks fun _ _ _ => rfl]
  have nextID : (ls.processChunk em r chunk).nextID = ls.nextID := by
    rw [processChunk_eq, fanouts_keep Loop.nextID fun _ _ _ => rfl]
  refine contiguous.told _ (processChunk_told ls chunk) nextID ?_ fun since before => ?_
  · rw [chunks]
    simp
  · simp [chunks, processChunk_exited, running, drop_append_of_le_length before]

theorem handleExit_contiguous (contiguous : ls.Contiguous) (running : ls.exited = false) :
    (ls.handleExit r).Contiguous ∧ ∀ id, (ls.handleExit r).subs.get? id = none := by
  have chunks := fanout_keeps Loop.chunks (fun _ _ _ => rfl) { ls with exited := true } .exit (r := r)
  have exited := fanout_keeps Loop.exited (fun _ _ _ => rfl) { ls with exited := true } .exit (r := r)
  have nextID := fanout_keeps Loop.nextID (fun _ _ _ => rfl) { ls with exited := true } .exit (r := r)
  have told : (({ ls with exited := true } : Loop E).fanout r .exit).Contiguous := by
    refine contiguous.told [.exit] (fanout_told ({ ls with exited := true } : Loop E) .exit) nextID
      (congrArg List.length chunks).ge
      fun since before => ?_
    simp [chunks, exited, running]
  unfold Loop.handleExit
  generalize ({ ls with exited := true } : Loop E).fanout r .exit = exiting at *
  have swept := fun id => treats_drop.range_loop r exiting.subs exiting id
  have kept : ∀ since, Loop.stream ((exiting.subs.range r).foldl Loop.drop exiting) since =
      exiting.stream since := fun since =>
    drops_keep (fun l => l.stream since) (fun _ _ _ => rfl) _ _
  have length : ((exiting.subs.range r).foldl Loop.drop exiting).chunks = exiting.chunks :=
    drops_keep Loop.chunks (fun _ _ _ => rfl) _ _
  have last : ((exiting.subs.range r).foldl Loop.drop exiting).nextID = exiting.nextID :=
    drops_keep Loop.nextID (fun _ _ _ => rfl) _ _
  generalize (exiting.subs.range r).foldl Loop.drop exiting = final at *
  have none_live : ∀ id, final.subs.get? id = none := by
    intro id
    have channel := congrArg Prod.fst (swept id)
    cases live : exiting.subs.get? id <;> simpa [live] using channel
  refine ⟨⟨fun id c found => ?_, fun id c found => ?_, fun id => ?_, fun id _ _ => none_live id⟩, none_live⟩
  · rw [none_live id] at found
    cases found
  · have channel := congrArg Prod.snd (swept id)
    rw [kept, length]
    cases live : exiting.subs.get? id with
    | none =>
      refine told.closed id c ?_
      rw [← found]
      simpa [live] using channel.symm
    | some c' =>
      have same : c = c' := by simpa [live, found] using channel
      obtain ⟨log, since⟩ := told.live id c' live
      rw [same]
      exact ⟨⟨_, log, prefix_rfl⟩, since⟩
  · rw [last, ← told.ids id, none_live id]
    have channel := congrArg Prod.snd (swept id)
    cases live : exiting.subs.get? id with
    | none =>
      have same : final.closed.get? id = exiting.closed.get? id := by simpa [live] using channel
      simp [same]
    | some c' =>
      have same : final.closed.get? id = some c' := by simpa [live] using channel
      simp [same]

/-! ## Commands -/

def Loop.Sized (em : Emulator E) (ls : Loop E) (size : Int × Int) : Prop :=
  em.size ls.em = size ∧ ls.pty = size ∧ (ls.cols, ls.rows) = size

def sizeAfter (size : Int × Int) : Label → Int × Int
  | .subscribe (some (cols, rows)) none => normalizeSize cols rows
  | .resize cols rows none => normalizeSize cols rows
  | _ => size

section

variable (contiguous : ls.Contiguous)

include contiguous

theorem Loop.Contiguous.update (subs : ls'.subs = ls.subs)
    (closed : ls'.closed = ls.closed) (nextID : ls'.nextID = ls.nextID)
    (chunks : ls'.chunks = ls.chunks) (exited : ls'.exited = ls.exited) : ls'.Contiguous := by
  have stream : ∀ since, ls'.stream since = ls.stream since := by
    intro since
    unfold Loop.stream
    rw [chunks, exited]
  refine ⟨fun id c found => ?_, fun id c found => ?_, fun id => ?_, fun id c found => ?_⟩
  · rw [stream, chunks]
    exact contiguous.live id c (subs ▸ found)
  · rw [stream, chunks]
    exact contiguous.closed id c (closed ▸ found)
  · rw [subs, closed, nextID]
    exact contiguous.ids id
  · rw [subs]
    exact contiguous.apart id c (closed ▸ found)

theorem setSize_contiguous (cols rows : Int)
    (refused : Option String) : (ls.setSize em cols rows refused).1.Contiguous := by
  cases refused with
  | none => exact contiguous.update rfl rfl rfl rfl rfl
  | some => exact contiguous

theorem attach_contiguous (running : ls.exited = false) : (ls.attach em).1.Contiguous := by
  unfold Loop.attach
  cases taken : em.reattachSnapshot ls.em with
  | mk e result =>
    cases result with
    | error => exact contiguous.update rfl rfl rfl rfl rfl
    | ok =>
      refine ⟨fun id c found => ?_, fun id c found => contiguous.closed id c found,
        fun id => ?_, fun id c found => ?_⟩
      · rcases get?_of_set found with ⟨rfl, rfl⟩ | before
        · exact ⟨by simp [Chan.log, running], Nat.le_refl _⟩
        · exact contiguous.live id c before
      · have known := contiguous.ids id
        dsimp only
        rw [get?_set]
        split
        · rename_i same
          simp [same]
        rename_i other
        rw [known]
        omega
      · have known := (contiguous.ids id).mp (.inr (by simp_all))
        have other : id ≠ ls.nextID + 1 := by omega
        rw [get?_set_of_ne _ other]
        exact contiguous.apart id c found

theorem subscribeCmd_contiguous (running : ls.exited = false) (size : Option (Int × Int)) (refused : Option String) :
    (ls.subscribeCmd em size refused).1.Contiguous := by
  cases size with
  | none => exact attach_contiguous contiguous running
  | some size =>
    cases refused with
    | none => exact attach_contiguous (setSize_contiguous contiguous size.1 size.2 none) running
    | some => exact contiguous

end

variable {id : Nat}

theorem drop_contiguous (contiguous : ls.Contiguous) (live : ls.subs.get? id = some c) :
    (ls.drop (id, c)).Contiguous := by
  refine ⟨fun id' c' found => ?_, fun id' c' found => ?_, fun id' => ?_, fun id' c' found => ?_⟩
  · exact contiguous.live id' c' (get?_of_delete found).2
  · rcases get?_of_set found with ⟨rfl, rfl⟩ | before
    · obtain ⟨log, since⟩ := contiguous.live _ _ live
      exact ⟨⟨_, log, prefix_rfl⟩, since⟩
    · exact contiguous.closed id' c' before
  · have known := contiguous.ids id'
    simp only [Loop.drop]
    rw [get?_set, get?_delete]
    split
    · rename_i same
      subst same
      simpa [live] using known
    · exact known
  · simp only [Loop.drop]
    rw [get?_delete]
    split
    · rfl
    rename_i other
    refine contiguous.apart id' c' ?_
    simpa only [Loop.drop, get?_set_of_ne _ other] using found

theorem Chan.receive_log (c : Chan) : c.receive.log = c.log := by
  simp only [Chan.log, Chan.receive, append_assoc, take_append_drop]

theorem receive_found {m : GoMap Nat Chan} {id' : Nat}
    (found : (m.mapVal fun k c => if k = id then c.receive else c).get? id' = some c') :
    ∃ c, m.get? id' = some c ∧ c'.log = c.log ∧ c'.snapshot = c.snapshot ∧ c'.since = c.since := by
  rw [get?_mapVal] at found
  obtain ⟨c, there, rfl⟩ := map_eq_some_iff.mp found
  refine ⟨c, there, ?_⟩
  split
  · exact ⟨c.receive_log, rfl, rfl⟩
  · exact ⟨rfl, rfl, rfl⟩

theorem receive_contiguous (contiguous : ls.Contiguous) (id : Nat) : (ls.receive id).Contiguous := by
  refine ⟨fun id' c' found => ?_, fun id' c' found => ?_, fun id' => ?_, fun id' c' found => ?_⟩
  · obtain ⟨c, there, log, snapshot, since⟩ := receive_found found
    rw [log, snapshot, since]
    exact contiguous.live id' c there
  · obtain ⟨c, there, log, snapshot, since⟩ := receive_found found
    rw [log, snapshot, since]
    exact contiguous.closed id' c there
  · simp only [Loop.receive, get?_mapVal, isSome_map]
    exact contiguous.ids id'
  · obtain ⟨c, there, -⟩ := receive_found found
    simp [contiguous.apart id' c there]

/-! ## Runs -/

/-- What holds of a session between two commands. -/
structure Loop.Sound (em : Emulator E) (ls : Loop E) (size : Int × Int) : Prop where
  contiguous : ls.Contiguous
  sized : ls.Sized em size
  ended : ls.exited = true → ∀ id, ls.subs.get? id = none

variable {size : Int × Int}

section

variable (sized : ls.Sized em size)

include sized

theorem fanout_sized (ev : Event) : (ls.fanout r ev).Sized em size := by
  unfold Loop.Sized
  rw [fanout_keeps Loop.em fun _ _ _ => rfl, fanout_keeps Loop.pty fun _ _ _ => rfl,
    fanout_keeps Loop.cols fun _ _ _ => rfl, fanout_keeps Loop.rows fun _ _ _ => rfl]
  exact sized

theorem handleExit_sized : (ls.handleExit r).Sized em size := by
  have exiting : ({ ls with exited := true } : Loop E).Sized em size := sized
  have fanned : (({ ls with exited := true } : Loop E).fanout r .exit).Sized em size := fanout_sized exiting .exit
  unfold Loop.handleExit Loop.Sized
  rw [drops_keep Loop.em fun _ _ _ => rfl, drops_keep Loop.pty fun _ _ _ => rfl,
    drops_keep Loop.cols fun _ _ _ => rfl, drops_keep Loop.rows fun _ _ _ => rfl]
  exact fanned

theorem processChunk_sized (chunk : Bytes) : (ls.processChunk em r chunk).Sized em size := by
  refine fanout_sized ?_ _
  unfold Loop.Sized
  rw [fanouts_keep Loop.em fun _ _ _ => rfl, fanouts_keep Loop.pty fun _ _ _ => rfl,
    fanouts_keep Loop.cols fun _ _ _ => rfl, fanouts_keep Loop.rows fun _ _ _ => rfl, em.size_write]
  exact sized

theorem setSize_sized (cols rows : Int) (refused : Option String) :
    (ls.setSize em cols rows refused).1.Sized em (if refused.isNone then normalizeSize cols rows else size) := by
  cases refused with
  | none => exact ⟨em.size_resize _ _ _, rfl, rfl⟩
  | some => exact sized

theorem attach_sized : (ls.attach em).1.Sized em size := by
  obtain ⟨emulator, rest⟩ := sized
  rw [← em.size_reattachSnapshot] at emulator
  unfold Loop.attach
  cases taken : em.reattachSnapshot ls.em with
  | mk e result =>
    rw [taken] at emulator
    cases result with
    | error | ok => exact ⟨emulator, rest⟩

theorem subscribeCmd_sized (wanted : Option (Int × Int)) (refused : Option String) :
    (ls.subscribeCmd em wanted refused).1.Sized em (sizeAfter size (.subscribe wanted refused)) := by
  cases wanted with
  | none => exact attach_sized sized
  | some wanted =>
    cases refused with
    | none => exact attach_sized (setSize_sized sized wanted.1 wanted.2 none)
    | some => exact sized

end

theorem attach_keeps : (ls.attach em).1.exited = ls.exited ∧
    (ls.attach em).1.closed = ls.closed ∧ (ls.attach em).1.chunks = ls.chunks := by
  unfold Loop.attach
  cases em.reattachSnapshot ls.em with
  | mk e result => cases result <;> exact ⟨rfl, rfl, rfl⟩

theorem subscribeCmd_keeps (wanted : Option (Int × Int)) (refused : Option String) :
    (ls.subscribeCmd em wanted refused).1.exited = ls.exited ∧
      (ls.subscribeCmd em wanted refused).1.closed = ls.closed ∧
      (ls.subscribeCmd em wanted refused).1.chunks = ls.chunks := by
  cases wanted with
  | none => exact attach_keeps
  | some =>
    cases refused with
    | none => exact attach_keeps
    | some => exact ⟨rfl, rfl, rfl⟩

theorem receive_sound (sound : ls.Sound em size) (id : Nat) : (ls.receive id).Sound em size := by
  refine ⟨receive_contiguous sound.contiguous id, sound.sized, fun exited id' => ?_⟩
  simp [sound.ended exited id']

theorem serve_sound (sound : ls.Sound em size) (running : ls.exited = false) :
    (ls.serve em r label).Sound em (sizeAfter size label) := by
  have kept := sound.ended
  have quit : ∀ {l : Loop E} {size}, l.Contiguous → l.Sized em size →
      l.exited = false → (l.handleExit r).Sound em size := by
    intro l size contiguous sized running
    obtain ⟨contiguous, ended⟩ := handleExit_contiguous contiguous running
    exact ⟨contiguous, handleExit_sized sized, fun _ => ended⟩
  cases label with
  | chunk chunk =>
    refine ⟨processChunk_contiguous sound.contiguous running chunk,
      processChunk_sized sound.sized chunk, fun exited => ?_⟩
    rw [Loop.serve, processChunk_exited, running] at exited
    cases exited
  | subscribe wanted refused =>
    have contiguous : (ls.subscribeCmd em wanted refused).1.Contiguous :=
      subscribeCmd_contiguous sound.contiguous running wanted refused
    have sized := subscribeCmd_sized sound.sized wanted refused
    have exited : (ls.subscribeCmd em wanted refused).1.exited = false :=
      (subscribeCmd_keeps wanted refused).1.trans running
    simp only [Loop.serve]
    split
    · exact quit contiguous sized exited
    · exact ⟨contiguous, sized, fun quitted => by rw [exited] at quitted; cases quitted⟩
  | unsubscribe =>
    simp only [Loop.serve, Loop.unsubscribeCmd]
    split
    · rename_i c live
      exact ⟨drop_contiguous sound.contiguous live, sound.sized, fun quitted => by
        simp [running] at quitted⟩
    · exact sound
  | resize cols rows refused =>
    refine ⟨setSize_contiguous sound.contiguous cols rows refused, ?_, ?_⟩
    · have sized := setSize_sized sound.sized cols rows refused
      cases refused <;> exact sized
    · cases refused <;> exact kept
  | snapshot | size => exact sound
  | hangup => exact quit sound.contiguous sound.sized running
  | receive id => exact receive_sound sound id

theorem Loop.Step.sound (sound : ls.Sound em size) (step : ls.Step em r label ls') :
    ls'.Sound em (sizeAfter size label) := by
  unfold Loop.Step Loop.act at step
  split at step
  · cases step
    exact receive_sound sound _
  simp only [ite_none_left_eq_some, Bool.not_eq_true, some.injEq] at step
  obtain ⟨running, rfl⟩ := step
  exact serve_sound sound running

theorem handleExit_closed (contiguous : ls.Contiguous) (found : ls.closed.get? id = some c) :
    (ls.handleExit r).closed.get? id = some c := by
  have told := fanout_told ({ ls with exited := true } : Loop E) .exit id (r := r)
  unfold Loop.channel at told
  rw [found, contiguous.apart id c found] at told
  generalize stillLive : (({ ls with exited := true } : Loop E).fanout r .exit).subs.get? id =
    live', stillClosed : (({ ls with exited := true } : Loop E).fanout r .exit).closed.get? id = closed' at told
  cases told with
  | absent =>
    have swept := treats_drop.range_loop r (({ ls with exited := true } : Loop E).fanout r .exit).subs
      (({ ls with exited := true } : Loop E).fanout r .exit) id
    rw [stillLive] at swept
    exact (congrArg Prod.snd swept).trans stillClosed

theorem Loop.Step.closed_log (sound : ls.Sound em size) (step : ls.Step em r label ls')
    (found : ls.closed.get? id = some c) : ∃ c', ls'.closed.get? id = some c' ∧ c'.log = c.log := by
  have apart := sound.contiguous.apart id c found
  have received : ∀ n, ∃ c', (ls.receive n).closed.get? id = some c' ∧ c'.log = c.log := by
    intro n
    refine ⟨if id = n then c.receive else c, by simp [found], ?_⟩
    split
    · exact c.receive_log
    · rfl
  unfold Loop.Step Loop.act at step
  split at step
  · cases step
    exact received _
  simp only [ite_none_left_eq_some, Bool.not_eq_true, some.injEq] at step
  obtain ⟨running, rfl⟩ := step
  cases label with
  | chunk chunk =>
    refine ⟨c, ?_, rfl⟩
    have told : Told (Loop.block ((em.write ls.em chunk).2, chunk)) (ls.channel id)
        ((ls.processChunk em r chunk).channel id) := processChunk_told ls chunk id
    unfold Loop.channel at told
    rw [found, apart] at told
    simp only [Loop.serve]
    generalize (ls.processChunk em r chunk).subs.get? id = live',
      (ls.processChunk em r chunk).closed.get? id = closed' at told ⊢
    cases told
    rfl
  | subscribe wanted refused =>
    refine ⟨c, ?_, rfl⟩
    have still : (ls.subscribeCmd em wanted refused).1.closed.get? id = some c := by
      rw [(subscribeCmd_keeps wanted refused).2.1, found]
    simp only [Loop.serve]
    split
    · exact handleExit_closed (subscribeCmd_contiguous sound.contiguous running wanted refused) still
    · exact still
  | unsubscribe n =>
    refine ⟨c, ?_, rfl⟩
    simp only [Loop.serve, Loop.unsubscribeCmd]
    split
    · rename_i c' live
      have other : id ≠ n := by
        rintro rfl
        cases live.symm.trans apart
      simpa only [Loop.drop, get?_set_of_ne _ other] using found
    · exact found
  | resize cols rows refused => cases refused <;> exact ⟨c, found, rfl⟩
  | snapshot | size => exact ⟨c, found, rfl⟩
  | hangup => exact ⟨c, handleExit_closed sound.contiguous found, rfl⟩
  | receive n => exact received n

/-- The chunk of a step, with the controls it raises. -/
def Label.raised (em : Emulator E) (ls : Loop E) : Label → List (List Control × Bytes)
  | .chunk bytes => [((em.write ls.em bytes).2, bytes)]
  | _ => []

theorem handleExit_chunks : (ls.handleExit r).chunks = ls.chunks := by
  unfold Loop.handleExit
  rw [drops_keep Loop.chunks fun _ _ _ => rfl, fanout_keeps Loop.chunks fun _ _ _ => rfl]

theorem Loop.Step.chunks (step : ls.Step em r label ls') : ls'.chunks = ls.chunks ++ label.raised em ls := by
  unfold Loop.Step Loop.act at step
  split at step
  · cases step
    exact (append_nil _).symm
  simp only [ite_none_left_eq_some, Bool.not_eq_true, some.injEq] at step
  obtain ⟨-, rfl⟩ := step
  cases label with
  | chunk =>
    rw [Loop.serve, processChunk_eq, fanouts_keep Loop.chunks fun _ _ _ => rfl]
    rfl
  | subscribe wanted refused =>
    have unchanged : (ls.subscribeCmd em wanted refused).1.chunks = ls.chunks :=
      (subscribeCmd_keeps wanted refused).2.2
    simp only [Loop.serve, Label.raised, append_nil]
    split
    · rw [handleExit_chunks, unchanged]
    · exact unchanged
  | unsubscribe =>
    simp only [Loop.serve, Loop.unsubscribeCmd, Label.raised, append_nil]
    split <;> rfl
  | resize cols rows refused => cases refused <;> exact (append_nil _).symm
  | snapshot | size | receive => exact (append_nil _).symm
  | hangup => exact handleExit_chunks.trans (append_nil _).symm

theorem attach_live (contiguous : ls.Contiguous) (live : ls.subs.get? id = some c) :
    (ls.attach em).1.subs.get? id = some c := by
  have known := (contiguous.ids id).mp (.inl (by simp [live]))
  unfold Loop.attach
  cases em.reattachSnapshot ls.em with
  | mk e result =>
    cases result with
    | error => exact live
    | ok =>
      have other : id ≠ ls.nextID + 1 := by omega
      exact (get?_set_of_ne _ other _).trans live

theorem handleExit_exited : (ls.handleExit r).exited = true := by
  unfold Loop.handleExit
  rw [drops_keep Loop.exited fun _ _ _ => rfl, fanout_keeps Loop.exited fun _ _ _ => rfl]

/-- A subscriber with room in its own buffer gets the events of the step and stays, whatever
becomes of the others, unless it is unsubscribed or the session ends. -/
theorem Loop.Step.live_log (sound : ls.Sound em size) (step : ls.Step em r label ls') (running : ls'.exited = false)
    (live : ls.subs.get? id = some c) (stays : label ≠ .unsubscribe id)
    (room : c.buf.length + ((label.raised em ls).flatMap Loop.block).length ≤ subBuffer) :
    ∃ c', ls'.subs.get? id = some c' ∧ c'.log = c.log ++ (label.raised em ls).flatMap Loop.block := by
  have received : ∀ n, ∃ c', (ls.receive n).subs.get? id = some c' ∧ c'.log = c.log ++ [] := by
    intro n
    refine ⟨if id = n then c.receive else c, by simp [live], ?_⟩
    rw [append_nil]
    split
    · exact c.receive_log
    · rfl
  have same : c.log = c.log ++ [] := (append_nil _).symm
  unfold Loop.Step Loop.act at step
  split at step
  · cases step
    exact received _
  simp only [ite_none_left_eq_some, Bool.not_eq_true, some.injEq] at step
  obtain ⟨-, rfl⟩ := step
  cases label with
  | chunk chunk =>
    simp only [Label.raised, flatMap_singleton] at room ⊢
    refine ⟨{ c with buf := c.buf ++ _ }, ?_, (append_assoc _ _ _).symm⟩
    rw [Loop.serve, processChunk_eq]
    exact fanouts_room live room
  | subscribe wanted refused =>
    refine ⟨c, ?_, same⟩
    simp only [Loop.serve] at running ⊢
    split at running
    · cases handleExit_exited.symm.trans running
    · rename_i usable
      rw [if_neg usable]
      cases wanted with
      | none => exact attach_live sound.contiguous live
      | some wanted =>
        cases refused with
        | none => exact attach_live (setSize_contiguous sound.contiguous wanted.1 wanted.2 none) live
        | some => exact live
  | unsubscribe n =>
    refine ⟨c, ?_, same⟩
    simp only [Loop.serve, Loop.unsubscribeCmd]
    split
    · have other : id ≠ n := fun same => stays (same ▸ rfl)
      simpa only [Loop.drop, get?_delete_of_ne _ other] using live
    · exact live
  | resize cols rows refused => cases refused <;> exact ⟨c, live, same⟩
  | snapshot | size => exact ⟨c, live, same⟩
  | hangup => cases handleExit_exited.symm.trans running
  | receive n => exact received n

/-- The session after a subscriber has given it its size. -/
def Loop.resized (em : Emulator E) (ls : Loop E) (size : Option (Int × Int)) : Loop E :=
  size.elim ls fun size => (ls.setSize em size.1 size.2 none).1

theorem attach_ok (contiguous : ls.Contiguous) (attached : (ls.attach em).2 = .ok id) :
    (1 ≤ id ∧ ls.subs.get? id = none ∧ ls.closed.get? id = none) ∧
    ∃ snapshot, (em.reattachSnapshot ls.em).2 = .ok snapshot ∧ (ls.attach em).1.subs.get? id = some
        { buf := [.output snapshot], snapshot := snapshot, since := ls.chunks.length } := by
  unfold Loop.attach at attached ⊢
  cases taken : em.reattachSnapshot ls.em with
  | mk e result =>
    rw [taken] at attached
    cases result with
    | error => cases attached
    | ok snapshot =>
      cases attached
      have unused := (contiguous.ids (ls.nextID + 1)).not.mpr (by omega)
      simp only [not_or, Bool.not_eq_true, isSome_eq_false_iff, isNone_iff_eq_none] at unused
      exact ⟨⟨Nat.le_add_left 1 ls.nextID, unused⟩, snapshot, rfl, get?_set_self _ _ _⟩

theorem subscribeCmd_ok {size : Option (Int × Int)} {refused : Option String}
    (contiguous : ls.Contiguous) (subscribed : (ls.subscribeCmd em size refused).2 = .ok id) :
    (1 ≤ id ∧ ls.subs.get? id = none ∧ ls.closed.get? id = none) ∧
    ∃ snapshot, (em.reattachSnapshot (ls.resized em size).em).2 = .ok snapshot ∧
      (ls.subscribeCmd em size refused).1.subs.get? id = some
        { buf := [.output snapshot], snapshot := snapshot, since := ls.chunks.length } := by
  cases size with
  | none => exact attach_ok contiguous subscribed
  | some size =>
    cases refused with
    | none => exact attach_ok (setSize_contiguous contiguous size.1 size.2 none) subscribed
    | some => cases subscribed

variable {labels : List Label} {cols rows : Int}

theorem session_sound (run : Run (Loop.Step em r) (Loop.start em cols rows) labels ls) :
    ls.Sound em (labels.foldl sizeAfter (normalizeSize cols rows)) := by
  refine run.history (fun labels ls => ls.Sound em (labels.foldl sizeAfter (normalizeSize cols rows)))
    ⟨.new cols rows, ⟨em.size_new _ _, rfl, rfl⟩, nofun⟩ fun labels ls label ls' _ sound step => ?_
  rw [foldl_append]
  exact step.sound sound

/-- In every run of a session: a live channel holds its snapshot and then everything that was
fanned out since, a closed one its snapshot and the first part of that, and it gets nothing more,
while a live one with room in its own buffer gets the events of each step and stays; a subscriber
gets an id that no channel has had and the snapshot of the emulator; and the sizes of the pty, the
emulator and the session are what the last accepted size was normalised to. -/
theorem session_streams (run : Run (Loop.Step em r) (Loop.start em cols rows) labels ls) :
    (∀ id c, ls.subs.get? id = some c → c.received ++ c.buf = .output c.snapshot :: ls.stream c.since) ∧
    (∀ id c, ls.closed.get? id = some c → ∃ part,
      c.received ++ c.buf = .output c.snapshot :: part ∧ part <+: ls.stream c.since) ∧
    (∀ label ls', ls.Step em r label ls' → ls'.chunks = ls.chunks ++ label.raised em ls ∧
      (∀ id c, ls.closed.get? id = some c → ∃ c', ls'.closed.get? id = some c' ∧
        c'.received ++ c'.buf = c.received ++ c.buf) ∧
      ∀ id c, ls.subs.get? id = some c → ls'.exited = false → label ≠ .unsubscribe id →
        c.buf.length + ((label.raised em ls).flatMap Loop.block).length ≤ subBuffer →
        ∃ c', ls'.subs.get? id = some c' ∧
          c'.received ++ c'.buf = c.received ++ c.buf ++ (label.raised em ls).flatMap Loop.block) ∧
    (∀ id, (ls.subs.get? id).isSome = true ∨ (ls.closed.get? id).isSome = true ↔ 1 ≤ id ∧ id ≤ ls.nextID) ∧
    (∀ size refused id, (ls.subscribeCmd em size refused).2 = .ok id →
      (1 ≤ id ∧ ls.subs.get? id = none ∧ ls.closed.get? id = none) ∧
      ∃ snapshot, (em.reattachSnapshot (ls.resized em size).em).2 = .ok snapshot ∧
        (ls.subscribeCmd em size refused).1.subs.get? id = some
          { buf := [.output snapshot], snapshot := snapshot, since := ls.chunks.length }) ∧
    em.size ls.em = (ls.cols, ls.rows) ∧ ls.pty = (ls.cols, ls.rows) ∧
    (ls.cols, ls.rows) = labels.foldl sizeAfter (normalizeSize cols rows) := by
  have sound := session_sound run
  obtain ⟨emulator, pty, size⟩ := sound.sized
  refine ⟨fun id c live => (sound.contiguous.live id c live).1,
    fun id c closed => (sound.contiguous.closed id c closed).1,
    fun label ls' step => ⟨step.chunks, fun id c closed => step.closed_log sound closed,
      fun id c live running stays room => step.live_log sound running live stays room⟩, sound.contiguous.ids,
    fun size refused id subscribed => subscribeCmd_ok sound.contiguous subscribed, ?_, ?_, size⟩
  · rw [emulator, size]
  · rw [pty, size]

/-- An emulator of nothing but a size and a bell. -/
def plainEmulator : Emulator (Int × Int) where
  new cols rows := (cols, rows)
  size e := e
  write e chunk := (e, (chunk.filter (· == 7)).map fun _ => { kind := "bell" })
  resize _ cols rows := (cols, rows)
  reattachSnapshot e := (e, .ok [])
  size_new _ _ := rfl
  size_write _ _ := rfl
  size_resize _ _ _ := rfl
  size_reattachSnapshot _ := rfl

/-- A viewer attaches, a chunk rings the bell, and a resize is refused. -/
def ringing : List Label :=
  [.subscribe (some (0, 5000)) none, .chunk [97, 7], .resize 100 50 (some "EIO"), .receive 1]

/-- The theorem at this run, and one chunk later. -/
theorem session_streams_ringing : ∃ ls,
    Run (Loop.Step plainEmulator .stored) (Loop.start plainEmulator 80 24) ringing ls ∧
    (ls.cols, ls.rows) = (80, 2000) ∧ ∃ c, ls.subs.get? 1 = some c ∧ c.received ++ c.buf =
      [.output [], .control { kind := "bell" }, .output [97, 7]] ∧
    ∃ ls' c', ls.Step plainEmulator .stored (.chunk [98]) ls' ∧ ls'.subs.get? 1 = some c' ∧
      c'.received ++ c'.buf = [.output [], .control { kind := "bell" }, .output [97, 7], .output [98]] := by
  have facts : ((replay (Loop.act plainEmulator .stored) (Loop.start plainEmulator 80 24) ringing).map fun ls =>
      (ls.exited, (ls.subs.get? 1).map fun c => (c.snapshot, ls.stream c.since, c.buf.length))) =
        some (false, some ([], [.control { kind := "bell" }, .output [97, 7]], 2)) := by
    decide +kernel
  obtain ⟨ls, replayed, found⟩ := map_eq_some_iff.mp facts
  obtain ⟨running, found⟩ := Prod.mk.inj found
  obtain ⟨c, live, shape⟩ := map_eq_some_iff.mp found
  obtain ⟨snapshot, rest⟩ := Prod.mk.inj shape
  obtain ⟨stream, buffered⟩ := Prod.mk.inj rest
  have run := replay_run replayed
  obtain ⟨contiguous, -, steps, -, -, -, -, size⟩ := session_streams run
  have log := contiguous 1 c live
  rw [snapshot, stream] at log
  have step : ls.Step plainEmulator .stored (.chunk [98]) (ls.processChunk plainEmulator .stored [98]) := by
    simp [Loop.Step, Loop.act, Loop.serve, running]
  have room : c.buf.length + 1 ≤ subBuffer := by
    rw [buffered]
    decide
  obtain ⟨c', live', log'⟩ :=
    (steps _ _ step).2.2 1 c live ((processChunk_exited ls [98]).trans running) nofun room
  refine ⟨ls, run, size, c, live, log, _, c', step, live', ?_⟩
  rw [log', log]
  rfl

end AgentGrid.Termvt
