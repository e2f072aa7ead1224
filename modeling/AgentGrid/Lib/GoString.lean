import Mathlib.Data.List.DropRight

/-!
# White space around strings

Trimming of white space as Go does it, and the choice of the first string that is not blank.
-/

namespace AgentGrid.Lib

open List

def isSpace (c : Char) : Bool :=
  c.val ∈ [0x20, 0x85, 0xA0, 0x1680, 0x2028, 0x2029, 0x202F, 0x205F, 0x3000] ||
    decide (0x09 ≤ c.val ∧ c.val ≤ 0x0D) || decide (0x2000 ≤ c.val ∧ c.val ≤ 0x200A)

def trimSpace (s : String) : String :=
  String.ofList ((s.toList.dropWhile isSpace).rdropWhile isSpace)

def blank (s : String) : Bool := trimSpace s == ""

def firstNonEmpty : List String → String
  | [] => ""
  | s :: rest => if blank s then firstNonEmpty rest else s

theorem isSpace_of_isDigit {c : Char} (digit : c.isDigit = true) : isSpace c = false := by
  have low : (48 : UInt32) ≤ c.val ∧ c.val ≤ 57 := by simpa [Char.isDigit] using digit
  have lower := UInt32.le_iff_toNat_le.mp low.1
  have upper := UInt32.le_iff_toNat_le.mp low.2
  unfold isSpace
  simp only [mem_cons, not_mem_nil, or_false, Bool.or_eq_false_iff, decide_eq_false_iff_not, not_or, not_and]
  simp only [← UInt32.toNat_inj, UInt32.le_iff_toNat_le, UInt32.reduceToNat] at *
  omega

/-- Nothing is trimmed from a string that begins and ends with other characters. -/
theorem trimSpace_eq_self {s : String} {c d : Char} (first : s.toList.head? = some c)
    (last : s.toList.getLast? = some d) (unspacedFirst : isSpace c = false)
    (unspacedLast : isSpace d = false) : trimSpace s = s := by
  unfold trimSpace
  have kept : s.toList.dropWhile isSpace = s.toList := by
    cases chars : s.toList with
    | nil => rfl
    | cons =>
      rw [chars] at first
      cases first
      rw [dropWhile_cons_of_neg (by simp [unspacedFirst])]
  have nonempty : s.toList ≠ [] := by
    intro empty
    rw [empty] at first
    cases first
  have ending : s.toList.rdropWhile isSpace = s.toList := by
    refine rdropWhile_eq_self_iff.mpr fun other => ?_
    have same : s.toList.getLast other = d := by
      rw [getLast?_eq_some_getLast other] at last
      exact Option.some.inj last
    rw [same]
    simp [unspacedLast]
  rw [kept, ending, String.ofList_toList]

theorem trimSpace_head {s : String} {c : Char} (first : (trimSpace s).toList.head? = some c) : isSpace c = false := by
  unfold trimSpace at first
  rw [String.toList_ofList] at first
  have begins := first
  have initial := rdropWhile_prefix isSpace (s.toList.dropWhile isSpace)
  cases shape : s.toList.dropWhile isSpace with
  | nil =>
    rw [shape] at begins
    cases begins
  | cons =>
    have other : s.toList.dropWhile isSpace ≠ [] := by simp [shape]
    have head := head_dropWhile_not isSpace (l := s.toList) other
    obtain ⟨tail, whole⟩ := initial
    cases rest' : (s.toList.dropWhile isSpace).rdropWhile isSpace with
    | nil =>
      rw [rest'] at begins
      cases begins
    | cons =>
      rw [rest'] at begins
      cases begins
      rw [rest', shape, cons_append] at whole
      cases whole
      simpa [shape] using head

/-! ## Decimal numbers -/

theorem notMem_toDigits {c : Char} (other : c.isDigit = false) (n : Nat) : c ∉ Nat.toDigits 10 n := by
  intro mem
  rw [Nat.isDigit_of_mem_toDigits (by decide) (by decide) mem] at other
  cases other

theorem toDigits_inj {m n : Nat} : Nat.toDigits 10 m = Nat.toDigits 10 n ↔ m = n := by
  refine ⟨fun same => ?_, fun same => by rw [same]⟩
  rw [← Nat.ofDigitChars_toDigits (b := 10) (n := m) (by decide) (by decide), same,
    Nat.ofDigitChars_toDigits (by decide) (by decide)]

theorem append_cons_inj_right {x y u v : List Char} {c : Char} (left : c ∉ u) (right : c ∉ v) :
    x ++ c :: u = y ++ c :: v ↔ x = y ∧ u = v := by
  constructor
  · intro same
    rcases append_eq_append_iff.mp same with ⟨t, rfl, cut⟩ | ⟨t, rfl, cut⟩
    · cases t with
      | nil => simpa using cut
      | cons =>
        obtain ⟨rfl, rfl⟩ := List.cons.inj cut
        simp at left
    cases t with
    | nil => simpa [eq_comm] using cut
    | cons =>
      obtain ⟨rfl, rfl⟩ := List.cons.inj cut
      simp at right
  · rintro ⟨rfl, rfl⟩
    rfl

end AgentGrid.Lib
