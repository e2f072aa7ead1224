import AgentGrid.Lib.GoMap

/-!
# The transcript tracker

A tracker follows the transcript an agent writes: each update reads what was appended since the
last one and folds it, line by line, into the state.
-/

namespace AgentGrid.Transcript

open AgentGrid.Lib List

abbrev Bytes := List UInt8

/-- The lines of `bufio.ScanLines`, after the bytes of a line that was begun, last one first.  What
is left at the end is a line as well; a line loses its carriage return and fits the scanner's buffer. -/
def scanFrom (begun : Bytes) : Bytes → List Bytes
  | [] => if begun = [] then [] else [dropCR begun]
  | b :: rest => if b = 10 then dropCR begun :: scanFrom [] rest else scanFrom (b :: begun) rest
where
  dropCR : Bytes → Bytes
    | 13 :: line => line.reverse
    | line => line.reverse

def scanLines (file : Bytes) : List Bytes := scanFrom [] file

/-- A content that ends where a line ends. -/
def wholeLines (file : Bytes) : Bool := file = [] ∨ file.getLast? = some 10

theorem scanFrom_append (file more begun : Bytes) :
    scanFrom begun (file ++ 10 :: more) = scanFrom begun (file ++ [10]) ++ scanLines more := by
  induction file generalizing begun with
  | nil => simp [scanFrom, scanLines]
  | cons b rest ih =>
    simp only [cons_append, scanFrom]
    split
    · rw [ih, cons_append]
    · exact ih _

theorem scanLines_append {file : Bytes} (whole : wholeLines file = true) (more : Bytes) :
    scanLines (file ++ more) = scanLines file ++ scanLines more := by
  rcases of_decide_eq_true whole with rfl | last
  · simp [scanLines, scanFrom]
  · obtain ⟨front, rfl⟩ := getLast?_eq_some_iff.mp last
    rw [append_assoc, singleton_append]
    exact scanFrom_append front more []

inductive Kind where
  | customTitle | user | assistantText | other
  deriving DecidableEq

structure Entry where
  kind : Kind
  (text uuid parentUUID : String := "")
  synthetic : Bool := false

structure TurnUsage where
  model : String
  (totalInputTokens outputTokens : Int)

/-- How lines are decoded: the parser and what it keeps between lines, the usage of a line, the
insight and the rendered status line. -/
structure Decoder (P I : Type) where
  newParser : P
  resetParser : P → P
  parseLines : P → Bytes → P × List Entry
  parseTurnUsage : Bytes → Option TurnUsage
  noInsight : I
  updateInsight : I → List Entry → I
  formatStatusLine : String → Int → Int → I → String

/-- What the lines of a transcript are folded into. -/
structure Derived (P I : Type) where
  parser : P
  title : String := ""
  (parentOf userPrompts : GoMap String String := ∅)
  tailUUID : String := ""
  recentTurns : List (String × String) := []
  insight : I
  model : String := ""
  (inputTokens outputTokens : Int := 0)

structure TrackerState (P I : Type) extends Derived P I where
  offset : Nat := 0
  buf : Bytes := []
  formattedLine : String := ""

variable {P I : Type} (dec : Decoder P I)

def recentTurnsCap : Nat := 64

namespace Derived

def appendRecentTurn (st : Derived P I) (turn : String × String) : Derived P I :=
  let kept := if st.recentTurns.length ≥ recentTurnsCap then st.recentTurns.tail else st.recentTurns
  { st with recentTurns := kept ++ [turn] }

def applyMetaEntry (st : Derived P I) (e : Entry) : Derived P I :=
  if e.kind = .customTitle then { st with title := e.text } else st

def applyChainEntry (st : Derived P I) (e : Entry) : Derived P I :=
  if e.uuid = "" then st
  else
    let st := { st with parentOf := st.parentOf.set e.uuid e.parentUUID }
    let st := if e.kind = .user ∧ e.text ≠ "" ∧ e.synthetic = false then
        { st with userPrompts := st.userPrompts.set e.uuid e.text }.appendRecentTurn ("user", e.text)
      else if e.kind = .assistantText ∧ e.text ≠ "" then st.appendRecentTurn ("assistant", e.text)
      else st
    { st with tailUUID := e.uuid }

def applyLine (st : Derived P I) (line : Bytes) : Derived P I :=
  let st := match dec.parseTurnUsage line with
    | some u => { st with
        model := u.model, inputTokens := st.inputTokens + u.totalInputTokens
        outputTokens := st.outputTokens + u.outputTokens }
    | none => st
  let (parser, entries) := dec.parseLines st.parser line
  let st := entries.foldl (fun st e => (st.applyMetaEntry e).applyChainEntry e) { st with parser }
  { st with insight := dec.updateInsight st.insight entries }

def statusLine (st : Derived P I) : String :=
  dec.formatStatusLine st.model st.inputTokens st.outputTokens st.insight

end Derived

namespace TrackerState

def fresh : TrackerState P I := { parser := dec.newParser, insight := dec.noInsight }

def resetForRescan (st : TrackerState P I) : TrackerState P I :=
  { parser := dec.resetParser st.parser, insight := dec.noInsight, formattedLine := st.formattedLine }

/-- The first line is appended to what was buffered. -/
def runScanner (st : TrackerState P I) (content : Bytes) : TrackerState P I :=
  match scanLines content with
  | [] => st
  | first :: rest =>
    { st with toDerived := ((st.buf ++ first) :: rest).foldl (·.applyLine dec) st.toDerived, buf := [] }

/-- `Update` on the content of the file. -/
def update (st : TrackerState P I) (file : Bytes) : TrackerState P I :=
  let st := if file.length < st.offset then st.resetForRescan dec else st
  let st := { st.runScanner dec (file.drop st.offset) with offset := file.length }
  { st with formattedLine := st.statusLine dec }

/-- The successive updates of a fresh tracker. -/
def updates (contents : List Bytes) : TrackerState P I := contents.foldl (·.update dec) (fresh dec)

/-- The state once whole lines have been read. -/
def after (file : Bytes) : TrackerState P I :=
  let st := (scanLines file).foldl (·.applyLine dec) (fresh dec).toDerived
  { st with offset := file.length, formattedLine := st.statusLine dec }

variable {dec}

theorem runScanner_eq (st : TrackerState P I) (clear : st.buf = []) (content : Bytes) : st.runScanner dec content =
    { st with toDerived := (scanLines content).foldl (·.applyLine dec) st.toDerived } := by
  unfold runScanner
  cases scanLines content with
  | nil => rfl
  | cons => simp [clear]

theorem update_fresh (file : Bytes) : (fresh dec).update dec file = after dec file := by
  have start : ¬file.length < (fresh dec).offset := Nat.not_lt_zero _
  have all : file.drop (fresh dec).offset = file := rfl
  simp only [update, start, if_false, all, runScanner_eq (fresh dec) rfl]
  rfl

theorem update_after {file next : Bytes} (whole : wholeLines file = true) (grown : file <+: next) :
    (after dec file).update dec next = after dec next := by
  obtain ⟨more, rfl⟩ := grown
  have longer : ¬(file ++ more).length < (after dec file).offset := by simp [after]
  have rest : (file ++ more).drop (after dec file).offset = more := by simp [after]
  simp only [update, longer, if_false, rest, runScanner_eq (after dec file) rfl]
  simp [after, scanLines_append whole, foldl_append]

theorem updates_after {file : Bytes} (whole : wholeLines file = true) {contents : List Bytes}
    (grow : (file :: contents).IsChain (· <+: ·)) (lines : ∀ c ∈ contents, wholeLines c = true) :
    contents.foldl (·.update dec) (after dec file) = after dec (contents.getLastD file) := by
  induction contents generalizing file with
  | nil => rfl
  | cons next rest ih =>
    obtain ⟨grown, later⟩ := isChain_cons_cons.mp grow
    rw [foldl_cons, update_after whole grown, getLastD_cons]
    exact ih (lines next mem_cons_self) later fun c mem => lines c (mem_cons_of_mem _ mem)

/-- A transcript that only grows by whole lines leaves the tracker, however it is read in between, in the
state of one reading of the last file. -/
theorem incremental_eq_batch {file : Bytes} {contents : List Bytes} (grow : contents.IsChain (· <+: ·))
    (last : contents.getLast? = some file) (lines : ∀ c ∈ contents, wholeLines c = true) :
    updates dec contents = (fresh dec).update dec file := by
  cases contents with
  | nil => cases last
  | cons first =>
    rw [updates, foldl_cons, update_fresh, update_fresh]
    rw [updates_after (lines first mem_cons_self) grow fun c mem => lines c (mem_cons_of_mem _ mem)]
    rw [getLast?_cons] at last
    cases last
    rw [getLastD_eq_getLast?]

def titleLine : Bytes :=
  "\x7b\"type\":\"custom-title\",\"customTitle\":\"x\"\x7d\n".toList.map fun c => c.toNat.toUInt8

/-- What the parser makes of the line above, and of no other. -/
def titleDecoder : Decoder Unit Unit where
  newParser := ()
  resetParser := id
  parseLines _ line := ((), if line = titleLine.dropLast then [{ kind := .customTitle, text := "x" }] else [])
  parseTurnUsage _ := none
  noInsight := ()
  updateInsight _ _ := ()
  formatStatusLine _ _ _ _ := ""

/-- A line that is written in two pieces is read as two lines. -/
theorem title_lost : (updates titleDecoder [titleLine.take 9, titleLine]).title = "" ∧
      ((fresh titleDecoder).update titleDecoder titleLine).title = "x" := by decide

theorem incremental_eq_batch_title : let contents := [[], titleLine, titleLine ++ titleLine]
    (∀ c ∈ contents, wholeLines c = true) ∧ updates titleDecoder contents =
      (fresh titleDecoder).update titleDecoder (titleLine ++ titleLine) := by
  have lines : ∀ c ∈ [[], titleLine, titleLine ++ titleLine], wholeLines c = true := by decide
  have grow : [[], titleLine, titleLine ++ titleLine].IsChain (· <+: ·) := by decide
  exact ⟨lines, incremental_eq_batch grow rfl lines⟩

end TrackerState

end AgentGrid.Transcript
