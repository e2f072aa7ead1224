import Mathlib.Data.List.Basic

/-!
# Ids and error objects of a connection

A connection keeps the id of a request and the error object of a response as the bytes it received,
and writes them back.  `json.Marshal` compacts such bytes, and rewrites what a browser might take for
markup.
-/

namespace AgentGrid.Codex

open List

abbrev Bytes := List UInt8

/-- Whether a value is being scanned outside a string, in one, or after a backslash in one. -/
inductive Scan where
  | value | string | escape
  deriving DecidableEq

def Scan.next : Scan → UInt8 → Scan
  | .value, c => if c = 34 then .string else .value
  | .string, c => if c = 34 then .value else if c = 92 then .escape else .string
  | .escape, _ => .string

def isSpace (c : UInt8) : Bool := c = 32 || c = 9 || c = 13 || c = 10

/-- `<`, `>` or `&`. -/
def isMarkup (c : UInt8) : Bool := c = 60 || c = 62 || c = 38

/-- U+2028 or U+2029 starts here. -/
def startsSeparator (c : UInt8) (rest : Bytes) : Bool :=
  c = 0xE2 && (rest.take 2 = [0x80, 0xA8] || rest.take 2 = [0x80, 0xA9])

def hex (n : UInt8) : UInt8 := if n < 10 then 48 + n else 87 + n

/-- What `appendCompact` writes for a byte, and how many of the next ones that covers. -/
def compactByte (escape : Bool) (scan : Scan) (c : UInt8) (rest : Bytes) : Bytes × Nat :=
  if escape && isMarkup c then ([92, 117, 48, 48, hex (c / 16), hex (c % 16)], 0)
  else if escape && startsSeparator c rest then ([92, 117, 50, 48, 50, hex ((rest.getD 1 0) % 16)], 2)
  else if scan = .value && isSpace c then ([], 0)
  else ([c], 0)

def compactFrom (escape : Bool) : Nat → Scan → Bytes → Bytes
  | _, _, [] => []
  | skip + 1, scan, _ :: rest => compactFrom escape skip scan rest
  | 0, scan, c :: rest =>
    (compactByte escape scan c rest).1 ++ compactFrom escape (compactByte escape scan c rest).2 (scan.next c) rest

/-- `compact`; `json.Marshal` escapes. -/
def compact (escape : Bool) (raw : Bytes) : Bytes := compactFrom escape 0 .value raw

/-- Nothing in the bytes is escaped. -/
def plain : Bytes → Bool
  | [] => true
  | c :: rest => !isMarkup c && !startsSeparator c rest && plain rest

theorem compactByte_unescaped (scan : Scan) {c : UInt8} {rest : Bytes} (markup : isMarkup c = false)
    (separator : startsSeparator c rest = false) :
    compactByte true scan c rest = (if scan = .value && isSpace c then [] else [c], 0) := by
  simp only [compactByte, markup, separator, Bool.and_false, Bool.false_eq_true, if_false]
  split <;> rfl

theorem compactFrom_false_cons (scan : Scan) (c : UInt8) (rest : Bytes) : compactFrom false 0 scan (c :: rest) =
    (if scan = .value && isSpace c then [] else [c]) ++ compactFrom false 0 (scan.next c) rest := by
  rw [compactFrom]
  simp only [compactByte, Bool.false_and, Bool.false_eq_true, if_false]
  split <;> rfl

theorem compactFrom_plain {raw : Bytes} (unescaped : plain raw = true) (scan : Scan) :
    compactFrom true 0 scan raw = compactFrom false 0 scan raw := by
  induction raw generalizing scan with
  | nil => rfl
  | cons c rest ih =>
    simp only [plain, Bool.and_eq_true, Bool.not_eq_true'] at unescaped
    obtain ⟨⟨markup, separator⟩, later⟩ := unescaped
    rw [compactFrom_false_cons, compactFrom, compactByte_unescaped scan markup separator, ih later]

theorem startsSeparator_iff {c : UInt8} {rest : Bytes} : startsSeparator c rest = true ↔
    c = 0xE2 ∧ ∃ last later, rest = 0x80 :: last :: later ∧ (last = 0xA8 ∨ last = 0xA9) := by
  constructor
  · rcases rest with _ | ⟨b, _ | ⟨last, later⟩⟩ <;> simp [startsSeparator]
    rintro rfl (⟨rfl, rfl⟩ | ⟨rfl, rfl⟩) <;> simp
  · rintro ⟨rfl, last, later, rfl, rfl | rfl⟩ <;> rfl

/-- What is escaped gets longer, and everything else is written as without escaping. -/
theorem compactFrom_length (raw : Bytes) (scan : Scan) :
    (compactFrom false 0 scan raw).length + (!plain raw).toNat ≤ (compactFrom true 0 scan raw).length := by
  induction size : raw.length using Nat.strongRecOn generalizing raw scan with
  | ind n ih =>
    cases raw with
    | nil => exact Nat.le_refl _
    | cons c rest =>
      subst size
      have bit := Bool.toNat_le (!plain (c :: rest))
      have short : ∀ scan c, (if scan = Scan.value && isSpace c then [] else [c]).length ≤ 1 := by
        intro scan c
        split <;> simp
      have one := short scan c
      have later := ih rest.length (Nat.lt_succ_self _) rest (scan.next c) rfl
      by_cases markup : isMarkup c = true
      · rw [compactFrom_false_cons, compactFrom, length_append, length_append]
        simp only [compactByte, markup, Bool.and_self, if_true, length_cons]
        omega
      by_cases separator : startsSeparator c rest = true
      · obtain ⟨rfl, last, more, rfl, final⟩ := startsSeparator_iff.mp separator
        have rest := ih more.length (by simp; omega) more (scan.next 0xE2) rfl
        have same : ((scan.next 0xE2).next 0x80).next last = scan.next 0xE2 := by
          rcases final with rfl | rfl <;> cases scan <;> rfl
        have two := short (scan.next 0xE2) 0x80
        have three := short ((scan.next 0xE2).next 0x80) last
        rw [compactFrom_false_cons, compactFrom_false_cons, compactFrom_false_cons, same, compactFrom]
        simp only [compactByte, markup, separator, Bool.and_false, Bool.false_eq_true, Bool.and_self, if_false, if_true,
          compactFrom, length_append, length_cons]
        omega
      · rw [Bool.not_eq_true] at markup separator
        have kept : plain (c :: rest) = plain rest := by simp [plain, markup, separator]
        rw [compactFrom_false_cons, compactFrom, compactByte_unescaped scan markup separator, length_append,
          length_append, kept]
        dsimp only
        omega

/-- A compact value is written as it is exactly if nothing in it is escaped. -/
theorem compact_eq_self {raw : Bytes} (compacted : compact false raw = raw) :
    compact true raw = raw ↔ plain raw = true := by
  constructor
  · intro kept
    have longer := compactFrom_length raw .value
    rw [compact] at kept compacted
    rw [kept, compacted] at longer
    by_contra escaped
    rw [Bool.not_eq_true] at escaped
    rw [escaped] at longer
    exact Nat.not_succ_le_self _ longer
  · intro unescaped
    exact (compactFrom_plain unescaped .value).trans compacted

def null : Bytes := [110, 117, 108, 108]

/-- The members of a message on the wire, each with the bytes of its value. -/
structure Wire where
  id : Option Bytes := none
  method : String := ""
  (params result error : Option Bytes := none)

structure RpcMessage where
  id : Option Bytes := none
  method : String := ""
  (params result error : Bytes := [])

/-- `rpcMessage.UnmarshalJSON`. -/
def unmarshal (w : Wire) : RpcMessage :=
  ⟨w.id, w.method, w.params.getD [], w.result.getD [], w.error.getD []⟩

def rawMember (raw : Bytes) : Option Bytes := if raw = [] then none else some (compact true raw)

/-- `writeMsg`. -/
def marshal (m : RpcMessage) : Wire :=
  ⟨m.id.map fun id => compact true (if id = [] then null else id), m.method, rawMember m.params, rawMember m.result,
    rawMember m.error⟩

/-- What `Run` does with a message. -/
inductive Dispatch where
  | response (id : Bytes) (msg : RpcMessage) | ignored | serverRequest (id : Bytes) (method : String)
  | notification (method : String)

def dispatch (m : RpcMessage) : Dispatch :=
  match m.id, m.method with
  | some id, "" => .response id m
  | none, "" => .ignored
  | some id, method => .serverRequest id method
  | none, method => .notification method

/-- What `Request` returns for a response: a result, or the bytes of an `RPCError`. -/
def outcome (m : RpcMessage) : Except Bytes Bytes :=
  if m.error ≠ [] ∧ m.error ≠ null then .error m.error else .ok m.result

def reply (id result : Bytes) : Wire := marshal { id := some id, result }

/-- `ReplyError`, with the object that `internalErrorObject` builds. -/
def replyError (id object : Bytes) : Wire := marshal { id := some id, error := object }

/-- `ReplyRPCError`, with the object it falls back to. -/
def replyRPCError (id data fallback : Bytes) : Wire :=
  marshal { id := some id, error := if data ≠ [] then data else fallback }

/-- A compact value comes back byte for byte, as an id and as the error object of a response,
exactly if nothing in it is escaped.  Whether a message has an id decides what it is taken for. -/
theorem raw_values_verbatim {raw : Bytes} (value : raw ≠ []) (compacted : compact false raw = raw) :
    (∀ result object data, ((reply raw result).id = some raw ↔ plain raw = true) ∧
      ((replyError raw object).id = some raw ↔ plain raw = true) ∧
      ((replyRPCError raw data object).id = some raw ↔ plain raw = true)) ∧
    (∀ w : Wire, w.error = some raw → raw ≠ null → outcome (unmarshal w) = .error raw) ∧
    (∀ id object, (replyRPCError id raw object).error = some raw ↔ plain raw = true) ∧
    ∀ w : Wire, dispatch (unmarshal w) =
      if w.method = "" then w.id.elim .ignored fun id => .response id (unmarshal w)
      else w.id.elim (.notification w.method) fun id => .serverRequest id w.method := by
  have kept := compact_eq_self compacted
  refine ⟨fun _ _ _ => ?_, fun w failed => ?_, fun _ _ => ?_, fun w => ?_⟩
  · simp [reply, replyError, replyRPCError, marshal, value, kept]
  · simp +contextual [outcome, unmarshal, failed, value]
  · simp [replyRPCError, marshal, rawMember, value, kept]
  · cases id : w.id <;> by_cases named : w.method = "" <;> simp [dispatch, unmarshal, id, named]

/-- An id with a `<` in it is answered under another. -/
theorem markup_id_rewritten : compact false [34, 60, 34] = [34, 60, 34] ∧
    ∀ result, (reply [34, 60, 34] result).id = some [34, 92, 117, 48, 48, 51, 99, 34] :=
  ⟨by decide, fun _ => rfl⟩

theorem raw_values_verbatim_quoted : (reply [34, 49, 34] null).id = some [34, 49, 34] ∧
    (reply [34, 60, 34] null).id ≠ some [34, 60, 34] := by
  have one := (@raw_values_verbatim [34, 49, 34] (by decide) (by decide)).1 null [] []
  have markup := (@raw_values_verbatim [34, 60, 34] (by decide) (by decide)).1 null [] []
  exact ⟨one.1.mpr (by decide), fun same => absurd (markup.1.mp same) (by decide)⟩

end AgentGrid.Codex
