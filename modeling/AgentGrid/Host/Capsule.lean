import AgentGrid.Host.Helpers

/-!
# Resume capsules

A session whose conversation advanced gets a worker job that rebuilds its resume
capsule.  The check runs on ticks, staggered by a hash of the session id, and the
result comes back as a job result that bypasses the drivers.
-/

namespace AgentGrid.Host

open AgentGrid.Lib

variable {D : Type}

def capsuleCheckInterval : UInt64 := 15

def capsuleErrorBackoff : Time := 5 * 60 * 1000000000

def capsuleEntryTextCap : Nat := 2000

def capsuleTotalTextCap : Nat := 16000

def fnv32a (data : List UInt8) : UInt32 :=
  data.foldl (fun h b => (h ^^^ b.toUInt32) * 16777619) 2166136261

variable (env : Env D) (s : State D) (turns : List CapsuleTurn)

def capsuleDigest : String :=
  env.sha256Hex (turns.flatMap fun t => t.role.toUTF8.toList ++ [0] ++ t.text.toUTF8.toList ++ [255])

def capsuleCheckDue (sessID : SessionID) (tickN : UInt64) : Bool :=
  (tickN + (fnv32a sessID.toUTF8.toList).toUInt64) % capsuleCheckInterval == 0

/-- The last `max` characters, marked when something was cut. -/
def capsuleTailClip (s : String) (max : Nat) : String :=
  let r := s.toList
  if r.length ≤ max then s else "…" ++ String.ofList (r.drop (r.length - max))

/-- The blocks of the newest turns that fit; the turns come newest first. -/
def capsuleBlocks (total : Nat) (blocks : List String) : List CapsuleTurn → List String
  | [] => blocks
  | t :: older =>
    let block := "[" ++ t.role ++ "]\n" ++ capsuleTailClip t.text capsuleEntryTextCap ++ "\n"
    if total + block.utf8ByteSize > capsuleTotalTextCap ∧ blocks ≠ [] then blocks
    else capsuleBlocks (total + block.utf8ByteSize) (block :: blocks) older

def renderCapsuleTurns : String :=
  String.intercalate "\n" (capsuleBlocks 0 [] turns.reverse)

def formatResumeCapsulePrompt (prev : ResumeCapsule) (turns : List CapsuleTurn) (project : String) : String :=
  "You maintain a resume capsule for an AI coding session: a compact work-state " ++
  "summary that lets the user resume after an interruption without rereading history. " ++
  "From the previous capsule and the recent conversation turns below, produce the " ++
  "updated capsule.\n\n" ++
  "Return ONLY a JSON object, no code fences, no prose, with exactly these keys:\n" ++
  "\x7b\"objective\": \"...\", \"current_state\": \"...\", \"next_action\": \"...\", " ++
  "\"unresolved\": [\"...\"],\n" ++
  " \"changed\": [\"...\"], \"verified\": [\"...\"], \"remaining\": [\"...\"], " ++
  "\"attention\": \"...\"\x7d\n\n" ++
  "objective: the overall goal the user is driving (1 sentence, stable across turns).\n" ++
  "current_state: what has been established or completed so far (1-2 sentences).\n" ++
  "next_action: the single next concrete step (1 sentence).\n" ++
  "unresolved: open questions or pending decisions (0-4 short items).\n" ++
  "changed: concrete changes completed so far — files, behaviors, documents (0-4 short items).\n" ++
  "verified: what has actually been verified — tests run, checks passed (0-3 short items; " ++
  "only include evidence present in the conversation, never assumed).\n" ++
  "remaining: work that is still left to do (0-4 short items).\n" ++
  "attention: one sentence when the user's decision or review is needed, else an empty string.\n" ++
  "Base every field on the conversation only; never invent progress or verification.\n\n" ++
  (if project ≠ "" then "<project>\n" ++ project ++ "\n</project>\n\n" else "") ++
  (if prev.generatedAt ≠ 0 then
    "<previous_capsule>\n" ++ "objective: " ++ prev.objective ++ "\n" ++
    "current_state: " ++ prev.currentState ++ "\n" ++ "next_action: " ++ prev.nextAction ++ "\n" ++
    (if prev.unresolved ≠ [] then "unresolved: " ++ String.intercalate "; " prev.unresolved ++ "\n"
    else "") ++ "</previous_capsule>\n\n"
  else "") ++
  "<recent_turns>\n" ++ renderCapsuleTurns turns ++ "</recent_turns>\n"

/-- The existing capsule is current, or its last failure is too recent to retry. -/
def capsuleSettled (digest : String) : Option ResumeCapsule → Bool
  | none => false
  | some prev =>
    prev.sourceDigest == digest || (prev.lastError != "" && decide (s.now - prev.lastErrorAt < capsuleErrorBackoff))

/-- `maybeEnqueueOneCapsule`; `none` is its `false`. -/
def maybeEnqueueOneCapsule (sessID : SessionID) (sess : Session D) : Option (State D × Effect D) :=
  if (s.capsuleGenerating.get? sessID).isSome then none
  else
    match rootFrame sess with
    | none => none
    | some frame =>
      match env.getDriver frame.command with
      | none => none
      | some drv =>
        match drv.capsuleTurns with
        | none => none
        | some capsuleTurns =>
          let turns := capsuleTurns frame.driver
          let digest := capsuleDigest env turns
          if drv.status frame.driver = .running ∨ turns = [] ∨
              capsuleSettled s digest sess.resumeCapsule = true then none
          else
            let prompt := formatResumeCapsulePrompt (sess.resumeCapsule.getD {}) turns sess.project
            let posted := postProcessEffect s sessID frame.id
              (.startJob 0 (.capsule ⟨sessID, prompt, digest, turns.length⟩))
            some ({ posted.2 with capsuleGenerating := posted.2.capsuleGenerating.set sessID digest }, posted.1)

/-- The loop of `maybeEnqueueResumeCapsules` over the sessions it met at its start. -/
def enqueueCapsules (env : Env D) (tickN : UInt64) : State D → List (SessionID × Session D) → Reduced D
  | s, [] => (s, [])
  | s, (sessID, sess) :: rest =>
    if capsuleCheckDue sessID tickN then
      match maybeEnqueueOneCapsule env s sessID sess with
      | none => enqueueCapsules env tickN s rest
      | some (next, eff) =>
        let others := enqueueCapsules env tickN next rest
        (others.1, eff :: others.2)
    else enqueueCapsules env tickN s rest

def maybeEnqueueResumeCapsules (d : Draw) (s : State D) (tickN : UInt64) : Reduced D :=
  if s.resumeCapsulesEnabled then enqueueCapsules env tickN s (s.sessions.range d.toRangeOrder)
  else (s, [])

def reduceListResumeCapsules (connID : ConnID) (reqID : String) : Reduced D :=
  (s, [.sendResponseSync connID reqID .resumeCapsules])

def reduceFlagResumeCapsule (connID : ConnID) (reqID : String) (sid : SessionID) (flagged : Bool) : Reduced D :=
  if sid = "" then (s, [errResp connID reqID errCodeInvalidArgument "session_id required"])
  else
    match s.sessions.get? sid with
    | none => (s, [errResp connID reqID errCodeNotFound "session not found"])
    | some sess =>
      match sess.resumeCapsule with
      | none => (s, [errResp connID reqID errCodeNotFound "session has no resume capsule"])
      | some capsule =>
        let judged :=
          { capsule with flaggedWrong := flagged, flaggedAt := if flagged then s.now else capsule.flaggedAt }
        ({ s with sessions := s.sessions.set sid { sess with resumeCapsule := some judged } },
          [okResp connID reqID .empty, .persistSnapshot, .broadcastSessionsChanged] ++ match rootFrame sess with
            | none => []
            | some frame =>
              [.eventLogAppend frame.id (if flagged then "resume-capsule flagged wrong"
                  else "resume-capsule flag cleared")])

def reduceCapsuleJobResult (jobMeta : JobMeta) (result : CapsuleJobResult) (jobErr : Option String) : Reduced D :=
  let idle := { s with capsuleGenerating := s.capsuleGenerating.delete jobMeta.sessionID }
  match s.sessions.get? jobMeta.sessionID with
  | none => (idle, [])
  | some sess =>
    let stored (capsule : ResumeCapsule) : Reduced D :=
      ({ idle with
          sessions := s.sessions.set jobMeta.sessionID
            { sess with resumeCapsule := some capsule } },
        [.persistSnapshot, .broadcastSessionsChanged])
    match jobErr with
    | some err =>
      match sess.resumeCapsule with
      | none => (idle, [])
      | some capsule => stored { capsule with lastError := err, lastErrorAt := s.now }
    | none =>
      if result.sourceDigest = "" then (idle, [])
      else stored
        { objective := result.objective, currentState := result.currentState
          nextAction := result.nextAction, unresolved := result.unresolved
          changed := result.changed, verified := result.verified
          remaining := result.remaining, attention := result.attention
          generatedAt := s.now, sourceDigest := result.sourceDigest, sourceTurns := result.sourceTurns }

end AgentGrid.Host
