import Mathlib
import Stencil.Text.Blank
import Stencil.Text.Letter

/-!
# Letters, digits and blanks

The classes of ASCII as ranges of code points, what small letters are made of, and that no character
is both a letter and a blank.
-/

namespace Stencil.Text

variable {c : Char}

theorem isLower_iff : c.isLower = true ↔ 97 ≤ c.toNat ∧ c.toNat ≤ 122 := by
  simp [Char.isLower, UInt32.le_iff_toNat_le]

theorem isUpper_iff : c.isUpper = true ↔ 65 ≤ c.toNat ∧ c.toNat ≤ 90 := by
  simp [Char.isUpper, UInt32.le_iff_toNat_le]

theorem isDigit_iff : c.isDigit = true ↔ 48 ≤ c.toNat ∧ c.toNat ≤ 57 := by
  simp [Char.isDigit, UInt32.le_iff_toNat_le]

theorem isAlpha_iff :
    c.isAlpha = true ↔ 65 ≤ c.toNat ∧ c.toNat ≤ 90 ∨ 97 ≤ c.toNat ∧ c.toNat ≤ 122 := by
  rw [Char.isAlpha, Bool.or_eq_true, isUpper_iff, isLower_iff]

theorem toLower_eq_self (h : c.isUpper = false) : c.toLower = c := by
  rw [← Bool.not_eq_true, isUpper_iff] at h
  refine dif_neg fun hc => h ?_
  simpa [UInt32.le_iff_toNat_le] using hc

/-- A capital has a small letter. -/
theorem isLower_toLower (h : c.isUpper = true) : c.toLower.isLower = true := by
  rw [isUpper_iff] at h
  have hc : c.val ≥ 'A'.val ∧ c.val ≤ 'Z'.val := by simpa [UInt32.le_iff_toNat_le] using h
  have hn : c.toLower.toNat = c.toNat + 32 := by
    rw [Char.toLower, dif_pos hc]
    show (c.val + 32).toNat = _
    rw [UInt32.toNat_add]
    exact Nat.mod_eq_of_lt (show c.toNat + 32 < 2 ^ 32 by omega)
  rw [isLower_iff, hn]
  omega

theorem isUpper_eq_false_of_isLower (h : c.isLower = true) : c.isUpper = false := by
  rw [isLower_iff] at h
  rw [← Bool.not_eq_true, isUpper_iff]
  omega

/-- No character is a capital after lowering. -/
theorem isUpper_toLower (c : Char) : c.toLower.isUpper = false := by
  by_cases hu : c.isUpper = true
  · exact isUpper_eq_false_of_isLower (isLower_toLower hu)
  · rw [Bool.not_eq_true] at hu
    rwa [toLower_eq_self hu]

/-- Only small letters come from something else when a character is made small. -/
theorem eq_of_toLower_eq {x : Char} (hx : x.isLower = false) (h : c.toLower = x) : c = x := by
  cases hu : c.isUpper with
  | false => rwa [toLower_eq_self hu] at h
  | true => simp [← h, isLower_toLower hu] at hx

theorem isAlpha_toLower (h : c.isAlpha = true) : c.toLower.isAlpha = true := by
  by_cases hu : c.isUpper = true
  · rw [Char.isAlpha, isLower_toLower hu, Bool.or_true]
  · rw [Bool.not_eq_true] at hu
    rwa [toLower_eq_self hu]

/-- The code points of the blanks above ASCII. -/
def highBlanks : List Nat :=
  [0x85, 0xA0, 0x1680, 0x2000, 0x2001, 0x2002, 0x2003, 0x2004, 0x2005, 0x2006, 0x2007, 0x2008,
    0x2009, 0x200A, 0x2028, 0x2029, 0x202F, 0x205F, 0x3000]

/-- A blank is one of those in ASCII or one of the few above. -/
theorem isBlank_cases (h : isBlank c = true) :
    (9 ≤ c.toNat ∧ c.toNat ≤ 13 ∨ c.toNat = 32) ∨ c.toNat ∈ highBlanks := by
  simp only [isBlank, Bool.or_eq_true, Bool.and_eq_true, decide_eq_true_eq, beq_iff_eq] at h
  simp only [highBlanks, List.mem_cons, List.not_mem_nil, or_false]
  omega

/-- No digit of ASCII is a blank. -/
theorem isBlank_eq_false_of_isDigit (h : c.isDigit = true) : isBlank c = false := by
  cases hb : isBlank c with
  | false => rfl
  | true =>
    rw [isDigit_iff] at h
    have := isBlank_cases hb
    simp only [highBlanks, List.mem_cons, List.not_mem_nil, or_false] at this
    omega

/-- A letter of the Latin alphabet is a letter. -/
theorem isAlphabetic_of_isAlpha (h : c.isAlpha = true) : isAlphabetic c = true := by
  have hlt := isAlpha_iff.1 h
  rw [isAlphabetic, if_pos (by omega), h]

/-- No blank is a letter. -/
theorem isAlphabetic_eq_false_of_isBlank (h : isBlank c = true) : isAlphabetic c = false := by
  rw [isAlphabetic]
  rcases isBlank_cases h with hlow | hhigh
  · rw [if_pos (by omega), ← Bool.not_eq_true, isAlpha_iff]
    omega
  · have htable : ∀ n ∈ highBlanks, ¬ n < 128 ∧ inRanges alphabeticRanges n = false := by
      decide +kernel
    obtain ⟨hc, hranges⟩ := htable _ hhigh
    rw [if_neg hc, hranges]

/-- No digit of ASCII is a letter. -/
theorem isAlphabetic_eq_false_of_isDigit (h : c.isDigit = true) : isAlphabetic c = false := by
  rw [isDigit_iff] at h
  rw [isAlphabetic, if_pos (by omega), ← Bool.not_eq_true, isAlpha_iff]
  omega

end Stencil.Text
