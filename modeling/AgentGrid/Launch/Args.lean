import AgentGrid.Lib.Go
import AgentGrid.Lib.Utf8

/-!
# Command strings and argument lists

A command string is split into arguments in two passes over the same quoting: the first finds the
values, the second the text of each token, which it pairs with the values by position.  Argument
lists are rendered back with single quotes.  Strings are byte strings.
-/

namespace AgentGrid.Launch

open AgentGrid.Lib

abbrev Bytes := List UInt8

structure ArgToken where
  (raw value : Bytes)
  deriving DecidableEq

inductive Mode where
  | bare | single | double
  deriving DecidableEq

def singleQuote : UInt8 := 0x27
def doubleQuote : UInt8 := 0x22
def backslash : UInt8 := 0x5C
def space : UInt8 := 0x20

def isBlank (c : UInt8) : Bool := c == space || c == 0x09 || c == 0x0A

/-- Why a command is refused; the message quotes the command. -/
inductive LexError where
  | unterminatedEscape (command : Bytes) | unterminatedSingleQuote (command : Bytes)
  | unterminatedDoubleQuote (command : Bytes)
  deriving DecidableEq

/-! ## The first pass -/

structure Cooked where
  args : List Bytes := []
  cur : Bytes := []
  inToken : Bool := false
  mode : Mode := .bare
  deriving DecidableEq

variable (command : Bytes)

/-- The loop of `lexCookedArgs` over what is left of the command. -/
def lexCookedLoop : Bytes → Cooked → Except LexError Cooked
  | [], s => .ok s
  | c :: rest, s =>
    match s.mode with
    | .single =>
      if c = singleQuote then lexCookedLoop rest { s with mode := .bare }
      else lexCookedLoop rest { s with cur := s.cur ++ [c] }
    | .double =>
      if c = doubleQuote then lexCookedLoop rest { s with mode := .bare }
      else if c = backslash then
        match rest with
        | [] => .error (.unterminatedEscape command)
        | b :: rest => lexCookedLoop rest { s with cur := s.cur ++ [b] }
      else lexCookedLoop rest { s with cur := s.cur ++ [c] }
    | .bare =>
      if isBlank c then
        if s.inToken then lexCookedLoop rest { s with args := s.args ++ [s.cur], cur := [], inToken := false }
        else lexCookedLoop rest s
      else if c = singleQuote then lexCookedLoop rest { s with inToken := true, mode := .single }
      else if c = doubleQuote then lexCookedLoop rest { s with inToken := true, mode := .double }
      else if c = backslash then
        match rest with
        | [] => .error (.unterminatedEscape command)
        | b :: rest => lexCookedLoop rest { s with inToken := true, cur := s.cur ++ [b] }
      else lexCookedLoop rest { s with inToken := true, cur := s.cur ++ [c] }

/-- The end of `lexCookedArgs`. -/
def Cooked.finish (s : Cooked) : Except LexError (List Bytes) :=
  match s.mode with
  | .single => .error (.unterminatedSingleQuote command)
  | .double => .error (.unterminatedDoubleQuote command)
  | .bare => .ok (if s.inToken then s.args ++ [s.cur] else s.args)

/-- The first pass over what is left of the command. -/
def lexCookedFrom (left : Bytes) (s : Cooked) : Except LexError (List Bytes) :=
  (lexCookedLoop command left s).bind (Cooked.finish command)

def lexCookedArgs : Except LexError (List Bytes) := lexCookedFrom command command {}

/-! ## The second pass -/

structure Raw where
  rawTokens : List ArgToken := []
  inToken : Bool := false
  mode : Mode := .bare
  tokenStart : Int := -1
  valueIdx : Nat := 0

/-- `command[start:stop]`. -/
def slice (start : Int) (stop : Nat) : Go Bytes :=
  if 0 ≤ start ∧ start ≤ stop ∧ stop ≤ command.length then .ok ((command.take stop).drop start.toNat)
  else .error .indexOutOfRange

variable (arg : Bytes) (args : List Bytes) (s : Raw)

/-- A token begins at the position, unless the lexer is inside of one. -/
def Raw.enter (i : Nat) : Raw :=
  if s.inToken then s else { s with inToken := true, tokenStart := i }

def Raw.token (args : List Bytes) (stop : Nat) : Go ArgToken := do
  let raw ← slice command s.tokenStart stop
  let value ← Go.index args s.valueIdx
  return { raw := raw, value := value }

/-- The loop of `lexRawSpans` over what is left of the command. -/
def lexRawLoop (args : List Bytes) : Bytes → Nat → Raw → Go Raw
  | [], _, s => .ok s
  | c :: rest, i, s =>
    match s.mode with
    | .single => lexRawLoop args rest (i + 1) (if c = singleQuote then { s with mode := .bare } else s)
    | .double =>
      if c = doubleQuote then lexRawLoop args rest (i + 1) { s with mode := .bare }
      else if c = backslash then
        match rest with
        | [] => lexRawLoop args [] (i + 1) s
        | _ :: rest => lexRawLoop args rest (i + 2) s
      else lexRawLoop args rest (i + 1) s
    | .bare =>
      if isBlank c then
        if s.inToken then
          (s.token command args i).bind fun token =>
            lexRawLoop args rest (i + 1)
              { s with
                rawTokens := s.rawTokens ++ [token], valueIdx := s.valueIdx + 1, inToken := false, tokenStart := -1 }
        else lexRawLoop args rest (i + 1) s
      else if c = singleQuote then lexRawLoop args rest (i + 1) { s.enter i with mode := .single }
      else if c = doubleQuote then lexRawLoop args rest (i + 1) { s.enter i with mode := .double }
      else if c = backslash then
        match rest with
        | [] => lexRawLoop args [] (i + 1) (s.enter i)
        | _ :: rest => lexRawLoop args rest (i + 2) (s.enter i)
      else lexRawLoop args rest (i + 1) (s.enter i)

/-- The end of `lexRawSpans`. -/
def Raw.finish : Go (List ArgToken) :=
  if s.inToken then (s.token command args command.length).bind fun token => .ok (s.rawTokens ++ [token])
  else .ok s.rawTokens

/-- The second pass over what is left of the command. -/
def lexRawFrom (left : Bytes) (i : Nat) (s : Raw) : Go (List ArgToken) :=
  (lexRawLoop command args left i s).bind (Raw.finish command args)

def lexRawSpans : Go (List ArgToken) := lexRawFrom command args command 0 {}

def lexArgs : Go (Except LexError (List ArgToken)) :=
  match lexCookedArgs command with
  | .error err => .ok (.error err)
  | .ok args => (lexRawSpans command args).map .ok

def splitArgs : Go (Except LexError (List Bytes)) :=
  (lexArgs command).map fun tokens => tokens.map fun tokens => tokens.map ArgToken.value

/-! ## Rendering -/

def safeRune (r : Nat) : Bool :=
  decide (0x61 ≤ r ∧ r ≤ 0x7A) || decide (0x41 ≤ r ∧ r ≤ 0x5A) || decide (0x30 ≤ r ∧ r ≤ 0x39) ||
    decide (r ∈ [0x40, 0x25, 0x5F, 0x2B, 0x3D, 0x3A, 0x2C, 0x2E, 0x2F, 0x2D])

def isSafeArg : Bool := (runes arg).all safeRune

/-- `strings.ReplaceAll` of single quotes. -/
@[simp] def escapeQuotes : Bytes :=
  arg.flatMap fun c => if c = singleQuote then [singleQuote, backslash, singleQuote, singleQuote] else [c]

def quoteArg : Bytes :=
  if arg = [] then [singleQuote, singleQuote]
  else if isSafeArg arg then arg
  else [singleQuote] ++ escapeQuotes arg ++ [singleQuote]

def join (sep : Bytes) : List Bytes → Bytes
  | [] => []
  | [a] => a
  | a :: rest => a ++ sep ++ join sep rest

def joinArgs (argv : List Bytes) : Bytes :=
  if argv.length = 0 then [] else join [space] (argv.map quoteArg)

end AgentGrid.Launch
