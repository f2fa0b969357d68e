import Mathlib
import CommandConsole.Name
import CommandConsole.Text.Blank

/-!
# The character classes of a line

What the lexer tells pieces apart by: blanks end every piece but a string,
letters and digits of ASCII are name characters, and none of the characters
that begin or structure a number or a string is one, the digits apart.

The classes are tables of code points. A fact about a small class is checked
on its code points (`mem_points_of_inRanges`), not by going through the large
tables of the other.
-/

namespace CommandConsole

namespace Text

def points (ranges : List (Nat × Nat)) : List Nat :=
  ranges.flatMap fun range => List.range' range.1 (range.2 + 1 - range.1)

theorem mem_points_of_inRanges {n : Nat} : ∀ {ranges : List (Nat × Nat)},
    inRanges n ranges = true → n ∈ points ranges
  | (first, last) :: rest, h => by
      rw [inRanges] at h
      split at h
      · exact absurd h (by simp)
      · rw [points, List.flatMap_cons, List.mem_append]
        rcases (Bool.or_eq_true _ _).mp h with hlast | hrest
        · left
          rw [decide_eq_true_eq] at hlast
          rw [List.mem_range'_1]
          omega
        · exact Or.inr (mem_points_of_inRanges hrest)

end Text

theorem blank_points_unnamed : ∀ n ∈ Text.points Text.blankRanges,
    Text.inRanges n Text.alphabeticRanges = false ∧
    Text.inRanges n Text.numericRanges = false ∧ n ≠ '_'.toNat := by
  decide +kernel

theorem isNameChar_of_isBlank {c : Char} (h : Text.isBlank c = true) :
    isNameChar c = false := by
  obtain ⟨halpha, hnum, hline⟩ :=
    blank_points_unnamed c.toNat (Text.mem_points_of_inRanges h)
  have hne : c ≠ '_' := fun he => hline (he ▸ rfl)
  simp [isNameChar, Text.isAlphabetic, Text.isNumeric, halpha, hnum, hne]

theorem not_isBlank_of_isNameChar {c : Char} (h : isNameChar c = true) :
    Text.isBlank c = false := by
  cases hb : Text.isBlank c with
  | false => rfl
  | true =>
      rw [isNameChar_of_isBlank hb] at h
      exact Bool.noConfusion h

/-! ## Letters and digits of ASCII are name characters -/

theorem letter_points_named : ∀ n ∈ List.range' 65 26 ++ List.range' 97 26,
    Text.inRanges n Text.alphabeticRanges = true := by
  decide +kernel

theorem isNameChar_of_isAlpha {c : Char} (h : c.isAlpha = true) :
    isNameChar c = true := by
  have hmem : c.toNat ∈ List.range' 65 26 ++ List.range' 97 26 := by
    rw [List.mem_append, List.mem_range'_1, List.mem_range'_1]
    simp only [Char.isAlpha, Char.isUpper, Char.isLower, Bool.or_eq_true,
      Bool.and_eq_true, decide_eq_true_eq, ge_iff_le, UInt32.le_iff_toNat_le] at h
    exact h.imp
      (fun h => ⟨h.1, Nat.lt_succ_of_le h.2⟩)
      (fun h => ⟨h.1, Nat.lt_succ_of_le h.2⟩)
  simp [isNameChar, Text.isAlphabetic, letter_points_named _ hmem]

theorem digit_points_named : ∀ n ∈ List.range' 48 10,
    Text.inRanges n Text.numericRanges = true := by
  decide +kernel

theorem isNameChar_of_isDigit {c : Char} (h : c.isDigit = true) :
    isNameChar c = true := by
  have hmem : c.toNat ∈ List.range' 48 10 := by
    rw [List.mem_range'_1]
    simp only [Char.isDigit, Bool.and_eq_true, decide_eq_true_eq, ge_iff_le,
      UInt32.le_iff_toNat_le] at h
    exact ⟨h.1, Nat.lt_succ_of_le h.2⟩
  simp [isNameChar, Text.isNumeric, digit_points_named _ hmem]

theorem ne_of_isDigit {c d : Char} (hc : c.isDigit = true) (hd : d.isDigit = false) :
    c ≠ d := by
  rintro rfl
  rw [hc] at hd
  exact Bool.noConfusion hd

theorem ne_of_isNameChar {c d : Char} (hc : isNameChar c = true) (hd : isNameChar d = false) :
    c ≠ d := by
  rintro rfl
  rw [hc] at hd
  exact Bool.noConfusion hd

theorem not_isAlpha_of_isDigit {c : Char} (h : c.isDigit = true) :
    c.isAlpha = false := by
  simp only [Char.isDigit, Bool.and_eq_true, decide_eq_true_eq, ge_iff_le,
    UInt32.le_iff_toNat_le] at h
  have hle : c.val.toNat ≤ 57 := h.2
  cases halpha : c.isAlpha with
  | false => rfl
  | true =>
      simp only [Char.isAlpha, Char.isUpper, Char.isLower, Bool.or_eq_true,
        Bool.and_eq_true, decide_eq_true_eq, ge_iff_le, UInt32.le_iff_toNat_le] at halpha
      rcases halpha with hupper | hlower
      · have : 65 ≤ c.val.toNat := hupper.1
        omega
      · have : 97 ≤ c.val.toNat := hlower.1
        omega

@[simp] theorem isNameChar_underscore : isNameChar '_' = true := by
  simp [isNameChar]

@[simp] theorem isNameChar_quote : isNameChar '"' = false := by decide +kernel
@[simp] theorem isNameChar_point : isNameChar '.' = false := by decide +kernel
@[simp] theorem isNameChar_minus : isNameChar '-' = false := by decide +kernel

@[simp] theorem isBlank_quote : Text.isBlank '"' = false := by decide
@[simp] theorem isBlank_point : Text.isBlank '.' = false := by decide
@[simp] theorem isBlank_minus : Text.isBlank '-' = false := by decide
@[simp] theorem isBlank_space : Text.isBlank ' ' = true := by decide

theorem not_isBlank_of_isDigit {c : Char} (h : c.isDigit = true) :
    Text.isBlank c = false :=
  not_isBlank_of_isNameChar (isNameChar_of_isDigit h)

/-- A blank is none of the characters that a number is written with. -/
theorem isBlank_stops_number {c : Char} (h : Text.isBlank c = true) :
    c.isDigit = false ∧ c ≠ '.' ∧ c ≠ '_' ∧ c ≠ '-' := by
  refine ⟨?_, ?_, ?_, ?_⟩
  · cases hd : c.isDigit with
    | false => rfl
    | true => rw [not_isBlank_of_isDigit hd] at h; exact Bool.noConfusion h
  · rintro rfl
    exact Bool.noConfusion h
  · rintro rfl
    exact Bool.noConfusion h
  · rintro rfl
    exact Bool.noConfusion h

end CommandConsole
