import Mathlib.Data.List.Nodup

/-!
# Responses without a tag

A response goes over the wire in an envelope that does not name its type.  The decoder looks at the
keys of the data, in a fixed order; a record that leaves out an empty field may look like another
one.  Only a push names its command.  A nested record is a value like any other: what
`encoding/json` makes of it.  What it leaves out of the views of the sessions stands in a field of
its own.
-/

namespace AgentGrid.Proto

open List

inductive Json where
  | null | bool (b : Bool) | num (n : Int) | str (s : String) | arr (items : List Json)
  | obj (members : List (String × Json))

/-- What `omitempty` leaves out. -/
def Json.isEmpty : Json → Bool
  | .null | .bool false | .str "" | .num 0 | .arr [] => true
  | _ => false

/-- The kinds of fields; a nil slice is an empty one. -/
inductive Kind where
  | str | num | slice | pointer | record
  deriving DecidableEq

def Kind.zero : Kind → Json
  | .str => .str ""
  | .num => .num 0
  | .slice => .arr []
  | .pointer => .null
  | .record => .obj []

def Kind.fits : Kind → Json → Bool
  | .str, .str _ | .slice, .arr _ | .pointer, .null | .pointer, .obj _
  | .record, .obj _ => true
  | .num, .num n => 0 ≤ n ∧ n < 18446744073709551616
  | _, _ => false

/-- A member that is absent or `null` leaves a field as it is. -/
def Kind.read (kind : Kind) : Option Json → Json
  | none | some .null => kind.zero
  | some v => v

structure Column where
  key : String
  kind : Kind
  omitempty : Bool
  deriving DecidableEq

variable (env : Envelope) (key : String) (members : List (String × Json)) (r : Response)

def always (kind : Kind := .str) : Column := ⟨key, kind, false⟩

def filled (kind : Kind := .str) : Column := ⟨key, kind, true⟩

abbrev Fields := List (Column × Json)

/-- A field with the tag `-` is never on the wire. -/
def omitted (f : Column × Json) : Bool := f.1.key = "-" || f.1.omitempty && f.2.isEmpty

def marshal (fields : Fields) : List (String × Json) :=
  fields.filterMap fun f => if omitted f then none else some (f.1.key, f.2)

def has (key : String) : Bool := (members.lookup key).isSome

/-- `json.Unmarshal`, into a zero value. -/
def unmarshal (columns : List Column) (members : List (String × Json)) : Fields :=
  columns.map fun c => (c, c.kind.read (members.lookup c.key))

/-! ## The responses -/

inductive Variant where
  | ok | repositoryPreparation | createSession | sessions | resumeCapsules | surfaceText | driverList
  | sessionMessages | frameList | frameRead | frameSend | frameReply | surfaceUnsubscribed
  deriving DecidableEq

def Variant.columns : Variant → List Column
  | .ok => []
  | .repositoryPreparation =>
    [always "preparation_id", always "intent_id", always "server_id", always "repository" .record,
      always "stage", filled "failure_code", filled "retry_origin",
      filled "environment_disposition", always "revision" .num, filled "session_id",
      filled "clone_path", filled "environment_id"]
  | .createSession => [always "session_id"]
  | .sessions => [always "sessions" .slice, filled "features" .slice, always "-" .slice]
  | .resumeCapsules => [always "resume_capsules" .slice]
  | .surfaceText => [always "text"]
  | .driverList => [always "drivers" .slice]
  | .sessionMessages => [always "session_id", filled "summary" .pointer, always "messages" .slice]
  | .frameList => [always "frames" .slice]
  | .frameRead => [always "session_id", always "messages" .slice]
  | .frameSend => [always "session_id", always "message" .record]
  | .frameReply => [always "session_id", always "message_id", always "reply" .record]
  | .surfaceUnsubscribed => [always "session_id", filled "subscriber_id"]

/-- A response: the fields of its type, with values that fit. -/
structure Response where
  variant : Variant
  fields : Fields
  shape : fields.map Prod.fst = variant.columns
  fits : ∀ f ∈ fields, f.1.kind.fits f.2 = true

def decodeAs (variant : Variant) (members : List (String × Json)) : Option Response :=
  let fields := unmarshal variant.columns members
  if fits : ∀ f ∈ fields, f.1.kind.fits f.2 = true then
    some ⟨variant, fields, by simp [fields, unmarshal, Function.comp_def], fits⟩
  else none

def variantOf (has : String → Bool) : Variant :=
  if has "resume_capsules" then .resumeCapsules
  else if has "preparation_id" then .repositoryPreparation
  else if has "reply" then .frameReply
  else if has "message" then .frameSend
  else if has "frames" then .frameList
  else if has "messages" then if has "summary" then .sessionMessages else .frameRead
  else if has "session_id" then if has "subscriber_id" then .surfaceUnsubscribed else .createSession
  else if has "sessions" then .sessions
  else if has "text" then .surfaceText
  else if has "drivers" then .driverList
  else .ok

def cmdNameSurfaceUnsubscribe : String := "surface.unsubscribe"

/-- An envelope; `Name` and `Error` are not those of a response. -/
structure Envelope where
  (type reqID cmd status : String := "")
  data : Option Json := none

@[simp] def Envelope.fields : Fields :=
  [(always "type", .str env.type), (filled "req_id", .str env.reqID), (filled "cmd", .str env.cmd),
    (filled "status", .str env.status)] ++
  env.data.toList.map fun data => (always "data" .record, data)

def respond (reqID cmd : String) (r : Response) : Json :=
  let data := some (.obj (marshal r.fields))
  .obj (marshal { type := "resp", reqID, cmd, status := "ok", data : Envelope }.fields)

def encodeResponse (reqID : String) (r : Response) : Json := respond reqID "" r

def encodePushResponse (cmd : String) (r : Response) : Json := respond "" cmd r

def text (key : String) : Option String :=
  match Kind.str.read (members.lookup key) with
  | .str s => some s
  | _ => none

def decodeEnvelope : Json → Option Envelope
  | .obj members => do
    return {
      type := ← text members "type", reqID := ← text members "req_id", cmd := ← text members "cmd"
      status := ← text members "status", data := members.lookup "data" }
  | .null => some {}
  | _ => none

def decodeResponseByCommand : Option Response :=
  if env.cmd = cmdNameSurfaceUnsubscribe then
    match env.data with
    | some (.obj data) => decodeAs .surfaceUnsubscribed data
    | some .null => decodeAs .surfaceUnsubscribed []
    | _ => none
  else
    match env.data with
    | some (.obj data) => decodeAs (variantOf (has data)) data
    | _ => decodeAs .ok []

/-! ## Round trips -/

variable {fields : Fields} {key : String}

theorem lookup_absent (absent : ∀ f ∈ fields, f.1.key ≠ key) : (marshal fields).lookup key = none := by
  refine lookup_eq_none_iff.mpr fun p there => ?_
  obtain ⟨f, mem, same⟩ := mem_filterMap.mp there
  split at same <;> cases same
  exact bne_iff_ne.mpr (absent f mem).symm

variable {f : Column × Json}

theorem lookup_marshal (nodup : (fields.map fun f => f.1.key).Nodup) (mem : f ∈ fields) :
    (marshal fields).lookup f.1.key = if omitted f then none else some f.2 := by
  induction fields with
  | nil => cases mem
  | cons g rest ih =>
    rw [map_cons, nodup_cons] at nodup
    obtain ⟨fresh, nodup⟩ := nodup
    have absent := lookup_absent fun h inside same => fresh (mem_map.mpr ⟨h, inside, same⟩)
    rcases mem_cons.mp mem with rfl | later
    · rw [marshal, filterMap_cons]
      split
      · rename_i gone
        rw [show omitted f = true by by_contra kept; simp [kept] at gone, if_pos rfl]
        exact absent
      · rename_i kept
        split at kept <;> cases kept
        rename_i kept
        rw [lookup_cons_self, if_neg kept]
    · have other : f.1.key ≠ g.1.key := fun same => fresh (mem_map.mpr ⟨f, later, same⟩)
      rw [← ih nodup later, marshal, filterMap_cons]
      split
      · rfl
      · rename_i kept
        split at kept <;> cases kept
        rw [lookup_cons, beq_eq_false_iff_ne.mpr other]
        rfl

theorem zero_of_isEmpty {kind : Kind} {v : Json} (fits : kind.fits v = true)
    (empty : v.isEmpty = true) : v = kind.zero := by
  cases kind <;> cases v <;> simp_all [Kind.fits, Json.isEmpty, Kind.zero]
  all_goals split at empty <;> simp_all

theorem keys_nodup : (r.fields.map fun f => f.1.key).Nodup := by
  have nodup : ∀ v : Variant, (v.columns.map Column.key).Nodup := by
    intro v
    cases v <;> decide
  have here := nodup r.variant
  rwa [← r.shape, map_map] at here

theorem read_marshal (nodup : (fields.map fun f => f.1.key).Nodup) (mem : f ∈ fields)
    (fits : f.1.kind.fits f.2 = true) :
    f.1.kind.read ((marshal fields).lookup f.1.key) = f.2 ↔ (f.1.key = "-" → f.2 = f.1.kind.zero) := by
  rw [lookup_marshal nodup mem]
  by_cases off : f.1.key = "-"
  · simp only [omitted, off, decide_true, Bool.true_or, if_true, Kind.read, true_imp_iff]
    exact eq_comm
  · refine iff_of_true ?_ fun dash => absurd dash off
    split
    · rename_i gone
      have empty : f.2.isEmpty = true := by
        simp only [omitted, off, decide_false, Bool.false_or, Bool.and_eq_true] at gone
        exact gone.2
      exact (zero_of_isEmpty fits empty).symm
    · cases value : f.2 with
      | null => exact (zero_of_isEmpty (value ▸ fits) rfl).symm
      | _ => rfl

def Response.OnWire : Prop := ∀ f ∈ r.fields, f.1.key = "-" → f.2 = f.1.kind.zero

theorem unmarshal_marshal : unmarshal r.variant.columns (marshal r.fields) = r.fields ↔ r.OnWire := by
  rw [← r.shape, unmarshal, map_map]
  conv_lhs => rhs; rw [← map_id r.fields]
  rw [map_inj_left]
  refine forall₂_congr fun f mem => ?_
  rw [← read_marshal (keys_nodup r) mem (r.fits f mem)]
  exact ⟨congrArg Prod.snd, fun same => Prod.ext rfl same⟩

/-- A response is read back exactly where it is read as what it is. -/
theorem decodeAs_marshal (v : Variant) (r : Response) :
    decodeAs v (marshal r.fields) = some r ↔ v = r.variant ∧ r.OnWire := by
  rw [← unmarshal_marshal, decodeAs]
  constructor
  · intro decoded
    split at decoded
    · have same := Option.some.inj decoded
      have type : v = r.variant := congrArg Response.variant same
      subst type
      exact ⟨rfl, congrArg Response.fields same⟩
    · cases decoded
  · rintro ⟨rfl, same⟩
    obtain ⟨variant, fields, shape, fits⟩ := r
    simp only [same]
    rw [dif_pos fits]

/-- Whether a key is among the members, where the type alone says so. -/
def Variant.sure (v : Variant) (key : String) : Option Bool :=
  match v.columns.find? (·.key = key) with
  | none => some false
  | some c => if c.omitempty then none else some true

theorem has_of_sure {b : Bool} (shown : key ≠ "-") (sure : r.variant.sure key = some b) :
    has (marshal r.fields) key = b := by
  revert sure
  rw [Variant.sure, ← r.shape]
  split
  · rename_i absent
    rintro ⟨⟩
    rw [has, lookup_absent, Option.isSome_none]
    intro f mem same
    exact find?_eq_none.mp absent f.1 (mem_map.mpr ⟨f, mem, rfl⟩) (decide_eq_true same)
  · rename_i c found
    split <;> rintro ⟨⟩
    rename_i kept
    obtain ⟨f, mem, rfl⟩ := mem_map.mp (mem_of_find?_eq_some found)
    have named : f.1.key = key := by simpa using find?_some found
    have there : omitted f ≠ true := by simp [omitted, kept, named, shown]
    rw [has, ← named, lookup_marshal (keys_nodup r) mem, if_neg there]
    rfl

def probes : List String :=
  ["resume_capsules", "preparation_id", "reply", "message", "frames", "messages", "summary",
    "session_id", "subscriber_id", "sessions", "text", "drivers"]

theorem variantOf_congr {f g : String → Bool} (same : ∀ key ∈ probes, f key = g key) : variantOf f = variantOf g := by
  simp only [probes, forall_mem_cons] at same
  simp only [variantOf, same]

/-- The messages of a session have a summary, and an unsubscription has a subscriber. -/
def Response.Recognised : Prop :=
  (r.variant = .sessionMessages → ∀ f ∈ r.fields, f.1.key = "summary" → f.2 ≠ .null) ∧
    (r.variant = .surfaceUnsubscribed → ∀ f ∈ r.fields, f.1.key = "subscriber_id" → f.2 ≠ .str "")

theorem has_iff_filled {c : Column} (mem : c ∈ r.variant.columns) (optional : c.omitempty = true)
    (shown : c.key ≠ "-") (zero : c.kind.zero.isEmpty = true) :
    has (marshal r.fields) c.key = true ↔ ∀ f ∈ r.fields, f.1.key = c.key → f.2 ≠ c.kind.zero := by
  rw [← r.shape] at mem
  obtain ⟨f, there, rfl⟩ := mem_map.mp mem
  rw [has, lookup_marshal (keys_nodup r) there]
  constructor
  · intro kept g mem same unset
    obtain rfl := inj_on_of_nodup_map (keys_nodup r) mem there same
    simp [omitted, optional, unset, zero] at kept
  · intro filled
    have kept : f.2.isEmpty = false :=
      Bool.eq_false_iff.mpr fun empty => filled f there rfl (zero_of_isEmpty (r.fits f there) empty)
    simp [omitted, shown, kept]

theorem recognised_iff : r.Recognised ↔ (r.variant = .sessionMessages → has (marshal r.fields) "summary" = true) ∧
    (r.variant = .surfaceUnsubscribed → has (marshal r.fields) "subscriber_id" = true) := by
  refine and_congr (imp_congr_right fun variant => ?_) (imp_congr_right fun variant => ?_)
  · refine (has_iff_filled r (c := filled "summary" .pointer) ?_ rfl (by decide) rfl).symm
    rw [variant]
    decide
  · refine (has_iff_filled r (c := filled "subscriber_id") ?_ rfl (by decide) rfl).symm
    rw [variant]
    decide

theorem variantOf_eq_iff : variantOf (has (marshal r.fields)) = r.variant ↔ r.Recognised := by
  have known : variantOf (has (marshal r.fields)) =
      variantOf fun key => (r.variant.sure key).getD (has (marshal r.fields) key) := by
    refine variantOf_congr fun key probed => ?_
    have shown : key ≠ "-" := fun dash => by subst dash; revert probed; decide
    cases sure : r.variant.sure key with
    | none => rfl
    | some => exact has_of_sure r shown sure
  rw [known, recognised_iff]
  generalize has (marshal r.fields) = h
  cases r.variant with
  | sessionMessages =>
    show (if h "summary" = true then Variant.sessionMessages else .frameRead) = _ ↔ _
    cases h "summary" <;> simp
  | surfaceUnsubscribed =>
    show (if h "subscriber_id" = true then Variant.surfaceUnsubscribed else .createSession) = _ ↔ _
    cases h "subscriber_id" <;> simp
  | _ => exact iff_of_true rfl ⟨nofun, nofun⟩

/-- What is encoded is decoded. -/
theorem decodeEnvelope_marshal : decodeEnvelope (.obj (marshal env.fields)) = some env := by
  have nodup : (env.fields.map fun f => f.1.key).Nodup := by cases data : env.data <;> simp [always, filled, data]
  have reads : ∀ c s, (c, .str s) ∈ env.fields → c.kind = .str → c.key ≠ "-" →
      text (marshal env.fields) c.key = some s := by
    intro c s mem kind shown
    have same := (read_marshal nodup mem (by rw [kind]; rfl)).mpr fun dash => absurd dash shown
    rw [kind] at same
    rw [text, same]
  have data : (marshal env.fields).lookup "data" = env.data := by
    cases data : env.data with
    | none => exact lookup_absent (by simp [always, filled, data])
    | some value =>
      have mem : (always "data" .record, value) ∈ env.fields := by simp [data]
      exact lookup_marshal nodup mem
  have type := reads (always "type") env.type (by simp) rfl (by decide)
  have reqID := reads (filled "req_id") env.reqID (by simp) rfl (by decide)
  have cmd := reads (filled "cmd") env.cmd (by simp) rfl (by decide)
  have status := reads (filled "status") env.status (by simp) rfl (by decide)
  simp only [always, filled] at type reqID cmd status
  simp only [decodeEnvelope, type, reqID, cmd, status, data]
  rfl

/-- A response comes back from the wire as it was exactly if it is not a session's messages without
a summary, nor an unsubscription without a subscriber, nor sessions with a view that has fields off
the wire; a push of an unsubscription always does. -/
theorem response_survives_iff (reqID : String) (r : Response) :
    ((decodeEnvelope (encodeResponse reqID r)).bind decodeResponseByCommand = some r ↔ r.Recognised ∧ r.OnWire) ∧
    (r.variant = .surfaceUnsubscribed → (decodeEnvelope (encodePushResponse cmdNameSurfaceUnsubscribe r)).bind
        decodeResponseByCommand = some r) := by
  refine ⟨?_, fun unsubscribed => ?_⟩
  · rw [encodeResponse, respond, decodeEnvelope_marshal, ← variantOf_eq_iff]
    exact decodeAs_marshal _ r
  · rw [encodePushResponse, respond, decodeEnvelope_marshal]
    refine (decodeAs_marshal _ r).mpr ⟨unsubscribed.symm, fun f mem dash => ?_⟩
    have column := unsubscribed ▸ r.shape ▸ mem_map_of_mem mem
    have none : ∀ c ∈ Variant.columns .surfaceUnsubscribed, c.key ≠ "-" := by decide
    exact absurd dash (none f.1 column)

def unsummed : Response where
  variant := .sessionMessages
  fields := [(always "session_id", .str "a"), (filled "summary" .pointer, .null), (always "messages" .slice, .arr [])]
  shape := rfl
  fits := by simp [Kind.fits, always, filled]

/-- They come back as those of a frame. -/
theorem response_mistaken : ((decodeEnvelope (encodeResponse "1" unsummed)).bind decodeResponseByCommand).map
      Response.variant = some .frameRead := by rfl

end AgentGrid.Proto
