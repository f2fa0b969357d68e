import Mathlib
import CommandConsole.Number.Binary

/-!
# Rounding to a binary format

`Format.nearest` gives up bits and rounds what is left of the quotient. How many bits it gives
up depends on the quotient, but a magnitude and the one below it are always a whole number of
the same steps (`Format.exists_steps`), and what is nearest to a quotient is less than the
magnitude iff the quotient is below the middle of the two, or in the middle and the magnitude
is odd (`Format.nearest_lt_iff`).
-/

namespace CommandConsole

/-! ## Rounding a quotient -/

theorem roundHalfEven_le {num den m : Nat} (pos : 0 < den) (h : num ≤ m * den) :
    roundHalfEven num den ≤ m := by
  have hsplit := Nat.div_add_mod num den
  have hrest := Nat.mod_lt num pos
  unfold roundHalfEven
  generalize num / den = q at hsplit ⊢
  generalize num % den = r at hsplit hrest ⊢
  subst hsplit
  have hq : q ≤ m := by
    by_contra hlt
    have : (m + 1) * den ≤ q * den := Nat.mul_le_mul_right den (by omega)
    nlinarith
  dsimp only
  split
  · exact hq
  · rename_i hup
    rcases Nat.lt_or_eq_of_le hq with hlt | rfl
    · omega
    · have : r = 0 := by nlinarith
      omega

theorem le_roundHalfEven {num den m : Nat} (pos : 0 < den) (h : m * den ≤ num) :
    m ≤ roundHalfEven num den := by
  have hq : m ≤ num / den := (Nat.le_div_iff_mul_le pos).mpr h
  unfold roundHalfEven
  dsimp only
  split
  · exact hq
  · omega

/-- A quotient is rounded to less than a number if it is nearer to one below. The tie goes down
only from an odd number. -/
theorem roundHalfEven_lt_iff {num den m : Nat} (pos : 0 < den) :
    roundHalfEven num den < m ↔
      2 * num + den < 2 * m * den ∨ 2 * num + den = 2 * m * den ∧ m % 2 = 1 := by
  have hsplit := Nat.div_add_mod num den
  have hrest := Nat.mod_lt num pos
  unfold roundHalfEven
  generalize num / den = q at hsplit ⊢
  generalize num % den = r at hsplit hrest ⊢
  subst hsplit
  dsimp only
  rcases Nat.lt_trichotomy (q + 1) m with hlow | hlast | hhigh
  · have hnext : (q + 2) * den ≤ m * den := Nat.mul_le_mul_right den (by omega)
    refine iff_of_true ?_ (Or.inl (by nlinarith))
    split <;> omega
  · -- Between the last one below and the number itself, only the rest counts.
    subst hlast
    have hless : 2 * (den * q + r) + den < 2 * (q + 1) * den ↔ 2 * r < den := by
      constructor <;> intro h <;> nlinarith
    have htie : 2 * (den * q + r) + den = 2 * (q + 1) * den ↔ 2 * r = den := by
      constructor <;> intro h <;> nlinarith
    rw [hless, htie]
    split <;> omega
  · have hnext : m * den ≤ q * den := Nat.mul_le_mul_right den (by omega)
    have hbelow : 2 * m * den < 2 * (den * q + r) + den := by nlinarith
    refine iff_of_false ?_ (by omega)
    split <;> omega

theorem lt_of_log2_lt {num den k : Nat} (pos : 0 < den) (h : (num / den).log2 < k) :
    num < 2 ^ k * den := by
  rw [← Nat.div_lt_iff_lt_mul pos]
  calc num / den < 2 ^ ((num / den).log2 + 1) := Nat.lt_log2_self
    _ ≤ 2 ^ k := Nat.pow_le_pow_right (by decide) h

theorem le_of_le_log2 {num den k : Nat} (pos : 0 < den) (nonzero : num / den ≠ 0)
    (h : k ≤ (num / den).log2) : 2 ^ k * den ≤ num := by
  rw [← Nat.le_div_iff_mul_le pos]
  calc 2 ^ k ≤ 2 ^ (num / den).log2 := Nat.pow_le_pow_right (by decide) h
    _ ≤ num / den := Nat.log2_self_le nonzero

/-! ## Magnitudes -/

namespace Format

variable {f : Format}

theorem nearest_eq (f : Format) (num den : Nat) :
    f.nearest num den = ((num / den).log2 - f.fractionBits) * 2 ^ f.fractionBits +
      roundHalfEven num (den * 2 ^ ((num / den).log2 - f.fractionBits)) := by
  simp only [nearest, Nat.pow_eq]

/-- One bit more than the fraction has is kept, and the carry out of it is a power of
two. -/
theorem nearest_le {num den k : Nat} (pos : 0 < den)
    (h : (num / den).log2 ≤ f.fractionBits + k) :
    f.nearest num den ≤ (k + 2) * 2 ^ f.fractionBits := by
  have hnum := lt_of_log2_lt pos (Nat.lt_succ_self (num / den).log2)
  rw [nearest_eq]
  generalize (num / den).log2 = bits at h hnum ⊢
  have hfits : num ≤ 2 * 2 ^ f.fractionBits * (den * 2 ^ (bits - f.fractionBits)) := by
    have hpow : 2 ^ (bits + 1) ≤ 2 ^ (1 + f.fractionBits + (bits - f.fractionBits)) :=
      Nat.pow_le_pow_right (by decide) (by omega)
    calc num ≤ 2 ^ (bits + 1) * den := hnum.le
      _ ≤ 2 ^ (1 + f.fractionBits + (bits - f.fractionBits)) * den :=
        Nat.mul_le_mul_right den hpow
      _ = 2 * 2 ^ f.fractionBits * (den * 2 ^ (bits - f.fractionBits)) := by ring
  have hround := roundHalfEven_le (Nat.mul_pos pos (Nat.two_pow_pos _)) hfits
  have hshift : (bits - f.fractionBits) * 2 ^ f.fractionBits ≤ k * 2 ^ f.fractionBits :=
    Nat.mul_le_mul_right _ (by omega)
  linarith

theorem le_nearest {num den k : Nat} (pos : 0 < den) (nonzero : num / den ≠ 0)
    (h : f.fractionBits + k ≤ (num / den).log2) :
    (k + 1) * 2 ^ f.fractionBits ≤ f.nearest num den := by
  have hnum := le_of_le_log2 pos nonzero le_rfl
  rw [nearest_eq]
  generalize (num / den).log2 = bits at h hnum ⊢
  have hfits : 2 ^ f.fractionBits * (den * 2 ^ (bits - f.fractionBits)) ≤ num := by
    calc 2 ^ f.fractionBits * (den * 2 ^ (bits - f.fractionBits))
        = 2 ^ (f.fractionBits + (bits - f.fractionBits)) * den := by ring
      _ = 2 ^ bits * den := by rw [Nat.add_sub_cancel' (by omega)]
      _ ≤ num := hnum
  have hround := le_roundHalfEven (Nat.mul_pos pos (Nat.two_pow_pos _)) hfits
  have hshift : k * 2 ^ f.fractionBits ≤ (bits - f.fractionBits) * 2 ^ f.fractionBits :=
    Nat.mul_le_mul_right _ (by omega)
  linarith

/-- `f.Steps k h`: the magnitude `k * 2 ^ fractionBits + h` and the one below it stand for `h`
and `h - 1` steps of `2 ^ k` units. -/
structure Steps (f : Format) (k h : Nat) : Prop where
  pos : 0 < h
  le : h ≤ 2 * 2 ^ f.fractionBits
  normal : k = 0 ∨ 2 ^ f.fractionBits < h

theorem Steps.nearest_lt_iff {num den k h : Nat} (steps : f.Steps k h) (pos : 0 < den) :
    f.nearest num den < k * 2 ^ f.fractionBits + h ↔
      2 * num + den * 2 ^ k < 2 * h * (den * 2 ^ k) ∨
      2 * num + den * 2 ^ k = 2 * h * (den * 2 ^ k) ∧ h % 2 = 1 := by
  have hhidden : 0 < 2 ^ f.fractionBits := Nat.two_pow_pos _
  have hden : 0 < den * 2 ^ k := Nat.mul_pos pos (Nat.two_pow_pos k)
  have hle := Nat.mul_le_mul_right (den * 2 ^ k) steps.le
  rcases Nat.lt_trichotomy ((num / den).log2 - f.fractionBits) k with hlow | hlast | hhigh
  · -- Fewer bits are given up: the quotient is below the smallest one with this step.
    have hnormal : 2 ^ f.fractionBits < h := steps.normal.resolve_left (by omega)
    have hnum : num < 2 ^ f.fractionBits * (den * 2 ^ k) := by
      calc num < 2 ^ (f.fractionBits + k) * den := lt_of_log2_lt pos (by omega)
        _ = 2 ^ f.fractionBits * (den * 2 ^ k) := by ring
    have hnearest : f.nearest num den ≤ (k - 1 + 2) * 2 ^ f.fractionBits :=
      nearest_le pos (by omega)
    have hstep : (k - 1 + 2) * 2 ^ f.fractionBits = k * 2 ^ f.fractionBits + 2 ^ f.fractionBits := by
      rw [show k - 1 + 2 = k + 1 by omega, Nat.add_mul, Nat.one_mul]
    have hmiddle : (2 ^ f.fractionBits + 1) * (den * 2 ^ k) ≤ h * (den * 2 ^ k) :=
      Nat.mul_le_mul_right _ hnormal
    exact iff_of_true (by omega) (Or.inl (by linarith))
  · rw [nearest_eq, hlast, Nat.add_lt_add_iff_left, roundHalfEven_lt_iff hden]
  · have hne : num / den ≠ 0 := by
      intro hzero
      rw [hzero] at hhigh
      exact absurd hhigh (by simp)
    have hnum : 2 * (2 ^ f.fractionBits * (den * 2 ^ k)) ≤ num := by
      calc 2 * (2 ^ f.fractionBits * (den * 2 ^ k)) = 2 ^ (f.fractionBits + k + 1) * den := by ring
        _ ≤ num := le_of_le_log2 pos hne (by omega)
    have hnearest : (k + 1 + 1) * 2 ^ f.fractionBits ≤ f.nearest num den :=
      le_nearest pos hne (by omega)
    have hsteps := steps.le
    have habove : 2 * h * (den * 2 ^ k) < 2 * num + den * 2 ^ k := by linarith
    refine iff_of_false (Nat.not_lt.mpr ?_) (by omega)
    linarith

/-! ## Magnitudes and their units -/

theorem units_eq (f : Format) (magnitude : Nat) :
    f.units magnitude =
      if magnitude / 2 ^ f.fractionBits = 0 then magnitude % 2 ^ f.fractionBits
      else (2 ^ f.fractionBits + magnitude % 2 ^ f.fractionBits) *
        2 ^ (magnitude / 2 ^ f.fractionBits - 1) := by
  simp only [units, Nat.pow_eq]

theorem units_of_lt {k h : Nat} (lt : h < 2 * 2 ^ f.fractionBits)
    (normal : k = 0 ∨ 2 ^ f.fractionBits ≤ h) :
    f.units (k * 2 ^ f.fractionBits + h) = h * 2 ^ k := by
  rw [units_eq]
  by_cases hsmall : h < 2 ^ f.fractionBits
  · obtain rfl : k = 0 := normal.resolve_right (Nat.not_le.mpr hsmall)
    rw [Nat.zero_mul, Nat.zero_add, Nat.div_eq_of_lt hsmall, Nat.mod_eq_of_lt hsmall, if_pos rfl,
      Nat.pow_zero, Nat.mul_one]
  · obtain ⟨fraction, rfl⟩ := Nat.exists_eq_add_of_le (Nat.le_of_not_lt hsmall)
    have hfraction : fraction < 2 ^ f.fractionBits := by omega
    have hexponent : k * 2 ^ f.fractionBits + (2 ^ f.fractionBits + fraction) =
        fraction + 2 ^ f.fractionBits * (k + 1) := by ring
    rw [hexponent, Nat.add_mul_div_left _ _ (Nat.two_pow_pos _), Nat.add_mul_mod_self_left,
      Nat.div_eq_of_lt hfraction, Nat.mod_eq_of_lt hfraction, Nat.zero_add, if_neg (by omega),
      Nat.add_sub_cancel]

theorem Steps.units_eq {k h : Nat} (steps : f.Steps k h) :
    f.units (k * 2 ^ f.fractionBits + h) = h * 2 ^ k ∧
      f.units (k * 2 ^ f.fractionBits + h - 1) = (h - 1) * 2 ^ k := by
  have hpos := steps.pos
  constructor
  · rcases Nat.lt_or_eq_of_le steps.le with hlt | rfl
    · exact units_of_lt hlt (steps.normal.imp_right Nat.le_of_lt)
    · -- A power of two: one step of the next exponent is two of these.
      have hnext : k * 2 ^ f.fractionBits + 2 * 2 ^ f.fractionBits =
          (k + 1) * 2 ^ f.fractionBits + 2 ^ f.fractionBits := by ring
      rw [hnext, units_of_lt (by have := Nat.two_pow_pos f.fractionBits; omega) (Or.inr le_rfl)]
      ring
  · rw [Nat.add_sub_assoc hpos]
    exact units_of_lt (by have := steps.le; omega) (steps.normal.imp_right Nat.le_sub_one_of_lt)

theorem exists_steps (f : Format) {magnitude : Nat} (positive : 0 < magnitude) :
    ∃ k h, f.Steps k h ∧ magnitude = k * 2 ^ f.fractionBits + h := by
  have hhidden := Nat.two_pow_pos f.fractionBits
  by_cases hsmall : magnitude ≤ 2 * 2 ^ f.fractionBits
  · exact ⟨0, magnitude, ⟨positive, hsmall, Or.inl rfl⟩, by rw [Nat.zero_mul, Nat.zero_add]⟩
  · have hsplit := Nat.div_add_mod' (magnitude - 1) (2 ^ f.fractionBits)
    have hrest := Nat.mod_lt (magnitude - 1) hhidden
    have hexponent : 2 ≤ (magnitude - 1) / 2 ^ f.fractionBits :=
      (Nat.le_div_iff_mul_le hhidden).mpr (by omega)
    obtain ⟨k, hk⟩ := Nat.exists_eq_add_of_le' (Nat.le_of_succ_le hexponent)
    rw [hk, Nat.add_mul, Nat.one_mul] at hsplit
    exact ⟨k, 2 ^ f.fractionBits + (magnitude - 1) % 2 ^ f.fractionBits + 1,
      ⟨by omega, by omega, Or.inr (by omega)⟩, by omega⟩

/-- **What is nearest to a quotient.** It is below a magnitude iff the quotient is below the middle
of the magnitude and the one before it. The middle itself goes to the even one of the two. -/
theorem nearest_lt_iff {num den magnitude : Nat} (fraction : 0 < f.fractionBits)
    (positive : 0 < magnitude) (pos : 0 < den) :
    f.nearest num den < magnitude ↔
      2 * num < (f.units (magnitude - 1) + f.units magnitude) * den ∨
      2 * num = (f.units (magnitude - 1) + f.units magnitude) * den ∧ magnitude % 2 = 1 := by
  obtain ⟨k, h, steps, rfl⟩ := f.exists_steps positive
  obtain ⟨bits, hbits⟩ := Nat.exists_eq_add_one.mpr fraction
  obtain ⟨below, rfl⟩ := Nat.exists_eq_add_one.mpr steps.pos
  have heven : (k * 2 ^ f.fractionBits + (below + 1)) % 2 = (below + 1) % 2 := by
    rw [hbits, Nat.pow_succ, ← Nat.mul_assoc, Nat.mul_add_mod_self_right]
  have hmiddle : (below * 2 ^ k + (below + 1) * 2 ^ k) * den + den * 2 ^ k =
      2 * (below + 1) * (den * 2 ^ k) := by ring
  rw [steps.nearest_lt_iff pos, steps.units_eq.1, steps.units_eq.2, heven, Nat.add_sub_cancel,
    ← hmiddle, Nat.add_lt_add_iff_right, Nat.add_right_cancel_iff]

theorem units_lt (f : Format) {magnitude : Nat} (positive : 0 < magnitude) :
    f.units (magnitude - 1) < f.units magnitude := by
  obtain ⟨k, h, steps, rfl⟩ := f.exists_steps positive
  rw [steps.units_eq.1, steps.units_eq.2]
  exact Nat.mul_lt_mul_of_pos_right (Nat.sub_one_lt_of_lt steps.pos) (Nat.two_pow_pos k)

end Format

end CommandConsole
