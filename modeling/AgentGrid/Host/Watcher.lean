import AgentGrid.Host.Types
import AgentGrid.Lib.Pairing

/-!
# The watcher of transcript files

`RealFSWatcher` keeps which frame a path is watched for and which path a frame watches.  fsnotify
watches the paths that have a frame: one is added or removed where its entry is.
-/

namespace AgentGrid.Host

open AgentGrid.Lib Function GoMap

structure RealFSWatcher where
  pathToFrame : GoMap String FrameID := ∅
  frameToPath : GoMap FrameID String := ∅

inductive WatchCall where
  | watch (frameID : FrameID) (path : String) | unwatch (frameID : FrameID)

namespace RealFSWatcher

variable (r : RealFSWatcher)

def watch (frameID : FrameID) (path : String) : RealFSWatcher :=
  if path = "" then r
  else
    let kept := match r.frameToPath.get? frameID with
      | some old => if old ≠ path then r.pathToFrame.delete old else r.pathToFrame
      | none => r.pathToFrame
    ⟨kept.set path frameID, r.frameToPath.set frameID path⟩

def unwatch (frameID : FrameID) : RealFSWatcher :=
  match r.frameToPath.get? frameID with
  | some path => ⟨r.pathToFrame.delete path, r.frameToPath.delete frameID⟩
  | none => r

def call : WatchCall → RealFSWatcher
  | .watch frameID path => r.watch frameID path
  | .unwatch frameID => r.unwatch frameID

/-- What `relay` leaves in its channel when the file at the path was written or created. -/
def relay (path : String) (out : List (FrameID × String)) : List (FrameID × String) :=
  match r.pathToFrame.get? path with
  | some frameID => if out.length < 64 then out ++ [(frameID, path)] else out
  | none => out

end RealFSWatcher

namespace WatchCall

/-- What each frame is to watch after a call. -/
def want (wants : FrameID → Option String) : WatchCall → FrameID → Option String
  | .watch frameID path => update wants frameID (some path)
  | .unwatch frameID => update wants frameID none

/-- The call names a path, and one that no other frame is to watch. -/
def Apart (wants : FrameID → Option String) : WatchCall → Prop
  | .watch frameID path => path ≠ "" ∧ ∀ other, wants other = some path → other = frameID
  | .unwatch _ => True

def AllApart (wants : FrameID → Option String) : List WatchCall → Prop
  | [] => True
  | call :: rest => call.Apart wants ∧ AllApart (want wants call) rest

end WatchCall

namespace RealFSWatcher

variable {r : RealFSWatcher} {calls : List WatchCall}

theorem call_inverse (inverse : Inverse r.pathToFrame.get? r.frameToPath.get?) {c : WatchCall}
    (apart : c.Apart r.frameToPath.get?) : Inverse (r.call c).pathToFrame.get? (c.want r.frameToPath.get?) ∧
      (r.call c).frameToPath.get? = c.want r.frameToPath.get? := by
  cases c with
  | watch frameID path =>
    have moved := inverse.move apart.2
    rw [call, watch, if_neg apart.1]
    refine ⟨?_, get?_set_eq ..⟩
    rw [get?_set_eq]
    cases held : r.frameToPath.get? frameID with
    | none => rwa [held] at moved
    | some old =>
      rw [held] at moved
      dsimp only
      split
      · rwa [get?_delete_eq]
      · rename_i same
        obtain rfl := not_not.mp same
        simpa [WatchCall.want] using moved
  | unwatch frameID =>
    rw [call, unwatch, WatchCall.want]
    cases held : r.frameToPath.get? frameID with
    | none =>
      have same : update r.frameToPath.get? frameID none = r.frameToPath.get? := by rw [← held, update_eq_self]
      exact ⟨by rwa [same], same.symm⟩
    | some =>
      refine ⟨?_, get?_delete_eq ..⟩
      rw [get?_delete_eq]
      exact inverse.unlink held

theorem calls_inverse (inverse : Inverse r.pathToFrame.get? r.frameToPath.get?)
    (apart : WatchCall.AllApart r.frameToPath.get? calls) :
    Inverse (calls.foldl call r).pathToFrame.get? (calls.foldl WatchCall.want r.frameToPath.get?) := by
  induction calls generalizing r with
  | nil => exact inverse
  | cons c rest ih =>
    obtain ⟨kept, paths⟩ := call_inverse inverse apart.1
    rw [← paths] at kept
    have later := ih kept (paths ▸ apart.2)
    rwa [paths] at later

/-- A change is reported for the frame that is to watch the path, where the calls name paths of
their own and the channel has room. -/
theorem watching_independent (apart : WatchCall.AllApart (fun _ => none) calls) {out : List (FrameID × String)}
    (room : out.length < 64) (frameID : FrameID) (path : String) :
    (calls.foldl call {}).relay path out = out ++ [(frameID, path)] ↔
      calls.foldl WatchCall.want (fun _ => none) frameID = some path := by
  have inverse := calls_inverse (r := {}) (fun _ _ => ⟨nofun, nofun⟩) apart
  refine Iff.trans ?_ (inverse path frameID)
  unfold relay
  cases (calls.foldl call {}).pathToFrame.get? path <;> simp [room]

theorem watching_independent_two :
    ([.watch "a" "/t", .watch "b" "/u"].foldl call {}).relay "/t" [] = [("a", "/t")] := by
  have apart : WatchCall.AllApart (fun _ => none) [.watch "a" "/t", .watch "b" "/u"] := by
    simp [WatchCall.AllApart, WatchCall.Apart, WatchCall.want, update_apply]
  have room : ([] : List (FrameID × String)).length < 64 := by decide
  exact (watching_independent apart room "a" "/t").mpr rfl

/-- Two frames watch a path: only the second hears of it, and nobody once the first has left. -/
theorem shared_path_lost : ([.watch "a" "/t", .watch "b" "/t"].foldl call {}).relay "/t" [] = [("b", "/t")] ∧
      [.watch "a" "/t", .watch "b" "/t"].foldl WatchCall.want (fun _ => none) "a" = some "/t" ∧
      ([.watch "a" "/t", .watch "b" "/t", .unwatch "a"].foldl call {}).relay "/t" [] = [] ∧
      [.watch "a" "/t", .watch "b" "/t", .unwatch "a"].foldl WatchCall.want (fun _ => none) "b" = some "/t" := by
  decide

end RealFSWatcher

end AgentGrid.Host
