import Mathlib.Data.List.Basic

/-!
# Runes of a byte string

The runes that a Go `range` loop over a string visits.  Bytes that are no valid encoding are
visited one by one as the replacement rune.
-/

namespace AgentGrid.Lib

def runeError : Nat := 0xFFFD

def isContinuation (b : Nat) : Bool := decide (0x80 ≤ b ∧ b ≤ 0xBF)

/-- The range of the second byte after a first byte of a longer encoding. -/
def acceptRange (b : Nat) : Nat × Nat :=
  if b = 0xE0 then (0xA0, 0xBF)
  else if b = 0xED then (0x80, 0x9F)
  else if b = 0xF0 then (0x90, 0xBF)
  else if b = 0xF4 then (0x80, 0x8F)
  else (0x80, 0xBF)

def acceptsSecond (b c : Nat) : Bool := decide ((acceptRange b).1 ≤ c ∧ c ≤ (acceptRange b).2)

/-- `utf8.DecodeRuneInString` on a first byte and what follows it: the rune and its width. -/
def decodeRune (b : Nat) (rest : List Nat) : Nat × Nat :=
  if b < 0x80 then (b, 1)
  else if b < 0xC2 then (runeError, 1)
  else if b < 0xE0 then
    match rest with
    | c :: _ => if acceptsSecond b c then (b % 32 * 64 + c % 64, 2) else (runeError, 1)
    | _ => (runeError, 1)
  else if b < 0xF0 then
    match rest with
    | c :: d :: _ =>
      if acceptsSecond b c && isContinuation d then (b % 16 * 4096 + c % 64 * 64 + d % 64, 3)
      else (runeError, 1)
    | _ => (runeError, 1)
  else if b < 0xF5 then
    match rest with
    | c :: d :: e :: _ =>
      if acceptsSecond b c && isContinuation d && isContinuation e then
        (b % 8 * 262144 + c % 64 * 4096 + d % 64 * 64 + e % 64, 4)
      else (runeError, 1)
    | _ => (runeError, 1)
  else (runeError, 1)

/-- The runes after some bytes of the rune before are skipped. -/
def runesAfter : Nat → List Nat → List Nat
  | _, [] => []
  | 0, b :: rest => (decodeRune b rest).1 :: runesAfter ((decodeRune b rest).2 - 1) rest
  | skip + 1, _ :: rest => runesAfter skip rest

def runes (bytes : List UInt8) : List Nat := runesAfter 0 (bytes.map UInt8.toNat)

theorem decodeRune_ascii {b : Nat} (ascii : b < 0x80) (rest : List Nat) : decodeRune b rest = (b, 1) := by
  unfold decodeRune
  rw [if_pos ascii]

/-- The second byte is a continuation byte, and not one that a shorter encoding would do for. -/
theorem acceptsSecond_bounds {b c : Nat} (accepts : acceptsSecond b c = true) :
    0x80 ≤ c ∧ c ≤ 0xBF ∧ (b = 0xE0 → 0xA0 ≤ c) ∧ (b = 0xF0 → 0x90 ≤ c) := by
  unfold acceptsSecond acceptRange at accepts
  rw [decide_eq_true_eq] at accepts
  repeat' split at accepts
  all_goals
    omega

theorem ascii_of_decodeRune {b : Nat} {rest : List Nat} (low : (decodeRune b rest).1 < 0x80) : b < 0x80 := by
  have replaced : ¬ runeError < 0x80 := by decide
  revert low
  fun_cases decodeRune b rest <;> intro low
  case case1 => assumption
  case case3 => omega
  case case6 accepts =>
    have bounds := acceptsSecond_bounds (Bool.and_eq_true_iff.mp accepts).1
    omega
  case case9 accepts =>
    have bounds := acceptsSecond_bounds (Bool.and_eq_true_iff.mp (Bool.and_eq_true_iff.mp accepts).1).1
    omega
  all_goals exact absurd low replaced

theorem bytes_of_ascii {bytes : List Nat} (low : ∀ r ∈ runesAfter 0 bytes, r < 0x80) :
    runesAfter 0 bytes = bytes := by
  induction bytes with
  | nil => rfl
  | cons b rest ih =>
    have ascii : b < 0x80 := ascii_of_decodeRune (low _ List.mem_cons_self)
    rw [runesAfter, decodeRune_ascii ascii] at low ⊢
    simp only [Nat.sub_self] at low ⊢
    rw [ih fun r mem => low r (List.mem_cons_of_mem _ mem)]

end AgentGrid.Lib
