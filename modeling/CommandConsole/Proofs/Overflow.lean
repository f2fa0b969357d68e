import CommandConsole.Proofs.Nearest

/-!
# Where binary numbers end

Reading and adding binary numbers round once, to the nearest number of the format, and
what is too large for that is refused. The border is that of the standard for such
formats (`Format.limit`): halfway from the largest finite number to the one that would
come next, where the tie already goes up. So the numbers that a literal may spell are
told by the literal's value alone (`Binary.ofScientific_eq_none`).
-/

namespace CommandConsole

/-! ## The border of a format -/

namespace Format

variable {f : Format}

/-- What is at least as large is too large for the format. With `p` bits of precision and
the exponent `e` at most, the largest finite number is `2 ^ e * (2 - 2 / 2 ^ p)`, and the
next one of its kind would be `2 ^ e * 2`. -/
def limit (f : Format) : ℚ :=
  2 ^ (f.overflowExponent - 1) * (2 - 1 / 2 ^ (f.fractionBits + 1))

theorem two_le_overflowExponent (wide : 2 ≤ f.exponentBits) : 2 ≤ f.overflowExponent := by
  have hpow : 2 ^ 1 ≤ 2 ^ (f.exponentBits - 1) := Nat.pow_le_pow_right (by decide) (by omega)
  exact hpow

theorem infinity_eq (wide : 2 ≤ f.exponentBits) :
    f.infinity = (2 * f.overflowExponent - 1) * 2 ^ f.fractionBits := by
  have hpow : 2 ^ f.exponentBits = 2 * 2 ^ (f.exponentBits - 1) := by
    rw [← Nat.pow_succ']
    congr 1
    omega
  show (2 ^ f.exponentBits - 1) * 2 ^ f.fractionBits = _
  rw [hpow]
  rfl

/-- The border in whole numbers, doubled: what rounds to a finite number. -/
theorem nearest_lt_infinity_iff (wide : 2 ≤ f.exponentBits) {num den : Nat} (pos : 0 < den) :
    f.nearest num den < f.infinity ↔
      2 * num < (2 ^ (f.fractionBits + 2) - 1) * (den * 2 ^ (2 * f.overflowExponent - 3)) := by
  have hE := two_le_overflowExponent wide
  -- The last exponent that numbers may have gives up `K` bits.
  obtain ⟨K, hK⟩ : ∃ K, 2 * f.overflowExponent = K + 3 := ⟨2 * f.overflowExponent - 3, by omega⟩
  have hinfinity : f.infinity = (K + 2) * 2 ^ f.fractionBits := by
    rw [infinity_eq wide, hK]
    rfl
  have hhidden := Nat.two_pow_pos f.fractionBits
  have steps : f.Steps K (2 * 2 ^ f.fractionBits) := ⟨by omega, le_rfl, Or.inr (by omega)⟩
  have hmagnitude : (K + 2) * 2 ^ f.fractionBits =
      K * 2 ^ f.fractionBits + 2 * 2 ^ f.fractionBits := Nat.add_mul K 2 _
  have hodd : ¬ 2 * 2 ^ f.fractionBits % 2 = 1 := by omega
  have hfour : 2 ^ (f.fractionBits + 2) = 2 * (2 * 2 ^ f.fractionBits) := by ring
  have hone : den * 2 ^ K ≤ 2 * (2 * 2 ^ f.fractionBits) * (den * 2 ^ K) :=
    Nat.le_mul_of_pos_left _ (by omega)
  rw [hinfinity, hK, Nat.add_sub_cancel, hmagnitude, steps.nearest_lt_iff pos, hfour, Nat.sub_mul,
    Nat.one_mul]
  simp only [hodd, and_false, or_false]
  omega

theorem two_pow_le_limit (f : Format) : 2 ^ (f.overflowExponent - 1) ≤ f.limit := by
  have hle : (1 : ℚ) / 2 ^ (f.fractionBits + 1) ≤ 1 := by
    rw [div_le_one (by positivity)]
    exact one_le_pow₀ (by norm_num)
  exact le_mul_of_one_le_right (by positivity) (by linarith)

theorem one_lt_limit (wide : 2 ≤ f.exponentBits) : 1 < f.limit := by
  have hE := two_le_overflowExponent wide
  have hpow : (2 : ℚ) ^ 1 ≤ 2 ^ (f.overflowExponent - 1) :=
    pow_le_pow_right₀ (by norm_num) (by omega)
  have hlimit := f.two_pow_le_limit
  linarith

theorem limit_lt (f : Format) : f.limit < 2 ^ f.overflowExponent := by
  obtain ⟨E, hE⟩ : ∃ E, f.overflowExponent = E + 1 :=
    Nat.exists_eq_add_one.mpr (Nat.two_pow_pos _)
  have hpos : (0 : ℚ) < 1 / 2 ^ (f.fractionBits + 1) := by positivity
  unfold limit
  rw [hE, Nat.add_sub_cancel]
  calc (2 : ℚ) ^ E * (2 - 1 / 2 ^ (f.fractionBits + 1)) < 2 ^ E * 2 :=
        mul_lt_mul_of_pos_left (by linarith) (by positivity)
    _ = 2 ^ (E + 1) := (pow_succ 2 E).symm

theorem limit_units (wide : 2 ≤ f.exponentBits) :
    f.limit * 2 ^ f.unitPlaces * 2 =
      (2 ^ (f.fractionBits + 2) - 1) * 2 ^ (2 * f.overflowExponent - 3) := by
  have hE := two_le_overflowExponent wide
  obtain ⟨E, hE⟩ : ∃ E, f.overflowExponent = E + 2 := ⟨f.overflowExponent - 2, by omega⟩
  have hpow : 2 * (E + 2) - 3 = 2 * E + 1 := by omega
  unfold limit unitPlaces
  rw [hE, hpow, Nat.add_sub_cancel, show E + 2 - 1 = E + 1 from rfl]
  field_simp
  ring

theorem nearest_lt_infinity_iff_limit (wide : 2 ≤ f.exponentBits) {num den : Nat}
    (pos : 0 < den) :
    f.nearest num den < f.infinity ↔ (num : ℚ) / den < f.limit * 2 ^ f.unitPlaces := by
  have hden : (0 : ℚ) < den := by exact_mod_cast pos
  have hone : 1 ≤ 2 ^ (f.fractionBits + 2) := Nat.one_le_two_pow
  rw [nearest_lt_infinity_iff wide pos, div_lt_iff₀ hden]
  have hcast : ((2 * num : Nat) : ℚ) <
      ((2 ^ (f.fractionBits + 2) - 1) * (den * 2 ^ (2 * f.overflowExponent - 3)) : Nat) ↔
      (num : ℚ) < f.limit * 2 ^ f.unitPlaces * den := by
    have hlimit := limit_units wide
    push_cast [Nat.cast_sub hone]
    constructor <;> intro h <;> nlinarith
  rw [← hcast, Nat.cast_lt]

end Format

namespace Binary

variable {f : Format}

theorem round_finite {negative : Bool} {num den : Nat}
    (h : f.nearest num den < f.infinity) :
    round f negative num den = .finite ⟨negative, f.nearest num den, h⟩ := dif_pos h

theorem round_infinite {negative : Bool} {num den : Nat}
    (h : ¬ f.nearest num den < f.infinity) :
    round f negative num den = .infinite negative := dif_neg h

/-! ## Reading digits with an exponent -/

theorem tiny_lt_limit (wide : 2 ≤ f.exponentBits) {digits : Nat} {exponent : Int}
    (h : digits = 0 ∨ exponent + Nat.log2 digits + f.unitPlaces + 2 ≤ 0) :
    (digits : ℚ) * 10 ^ exponent < f.limit := by
  have hone := Format.one_lt_limit wide
  rcases h with rfl | h
  · rw [Nat.cast_zero, zero_mul]
    linarith
  · have hdigits : (digits : ℚ) < 2 ^ (Nat.log2 digits + 1) := by
      exact_mod_cast Nat.lt_log2_self
    obtain ⟨n, rfl⟩ : ∃ n : Nat, exponent = -(n : Int) := ⟨(-exponent).toNat, by omega⟩
    have hpow : (2 : ℚ) ^ (Nat.log2 digits + 1) ≤ 10 ^ n := by
      calc (2 : ℚ) ^ (Nat.log2 digits + 1) ≤ 2 ^ n := pow_le_pow_right₀ (by norm_num) (by omega)
        _ ≤ 10 ^ n := pow_le_pow_left₀ (by norm_num) (by norm_num) n
    rw [zpow_neg, zpow_natCast, ← div_eq_mul_inv, div_lt_iff₀ (by positivity)]
    nlinarith

theorem limit_le_huge {digits : Nat} {exponent : Int} (nonzero : digits ≠ 0)
    (h : f.overflowExponent ≤ exponent) : f.limit ≤ (digits : ℚ) * 10 ^ exponent := by
  obtain ⟨n, rfl⟩ : ∃ n : Nat, exponent = n := ⟨exponent.toNat, by omega⟩
  have hdigits : (1 : ℚ) ≤ digits := by exact_mod_cast Nat.one_le_iff_ne_zero.mpr nonzero
  have hpow : (2 : ℚ) ^ f.overflowExponent ≤ 10 ^ n := by
    calc (2 : ℚ) ^ f.overflowExponent ≤ 2 ^ n := pow_le_pow_right₀ (by norm_num) (by omega)
      _ ≤ 10 ^ n := pow_le_pow_left₀ (by norm_num) (by norm_num) n
  rw [zpow_natCast]
  calc f.limit ≤ 2 ^ f.overflowExponent := f.limit_lt.le
    _ ≤ 10 ^ n := hpow
    _ ≤ digits * 10 ^ n := le_mul_of_one_le_left (by positivity) hdigits

theorem ten_zpow (exponent : Int) :
    (10 : ℚ) ^ exponent = 10 ^ exponent.toNat / 10 ^ (-exponent).toNat := by
  cases exponent with
  | ofNat n => simp
  | negSucc n => simp [zpow_negSucc]

/-- **The reach of a binary format.** Digits with an exponent are read exactly if their
value is below the border. -/
theorem ofScientific_eq_none (wide : 2 ≤ f.exponentBits) {negative : Bool} {digits : Nat}
    {exponent : Int} :
    ofScientific f negative digits exponent = none ↔
      f.limit ≤ (digits : ℚ) * 10 ^ exponent := by
  unfold ofScientific
  by_cases htiny : digits = 0 ∨ exponent + Nat.log2 digits + f.unitPlaces + 2 ≤ 0
  · have hzero : f.nearest 0 1 < f.infinity := by
      rw [Format.nearest_lt_infinity_iff_limit wide Nat.one_pos]
      have hone := Format.one_lt_limit wide
      have hpos : 0 < f.limit := by linarith
      simp only [Nat.cast_zero, zero_div]
      positivity
    simp only [if_pos htiny, round_finite hzero]
    exact iff_of_false (by simp) (not_le.mpr (tiny_lt_limit wide htiny))
  · by_cases hhuge : f.overflowExponent ≤ exponent
    · simp only [if_neg htiny, if_pos hhuge]
      exact iff_of_true trivial (limit_le_huge (not_or.mp htiny).1 hhuge)
    · simp only [if_neg htiny, if_neg hhuge, Nat.pow_eq]
      have hden : 0 < 10 ^ (-exponent).toNat := Nat.pow_pos (by decide)
      have hvalue : ((digits * 10 ^ exponent.toNat * 2 ^ f.unitPlaces : Nat) : ℚ) /
          (10 ^ (-exponent).toNat : Nat) = digits * 10 ^ exponent * 2 ^ f.unitPlaces := by
        rw [ten_zpow]
        push_cast
        ring
      have hborder : f.nearest (digits * 10 ^ exponent.toNat * 2 ^ f.unitPlaces)
          (10 ^ (-exponent).toNat) < f.infinity ↔ digits * 10 ^ exponent < f.limit := by
        rw [Format.nearest_lt_infinity_iff_limit wide hden, hvalue,
          mul_lt_mul_iff_left₀ (by positivity)]
      by_cases hfinite : f.nearest (digits * 10 ^ exponent.toNat * 2 ^ f.unitPlaces)
          (10 ^ (-exponent).toNat) < f.infinity
      · simp only [round_finite hfinite]
        exact iff_of_false (by simp) (not_le.mpr (hborder.mp hfinite))
      · simp only [round_infinite hfinite]
        exact iff_of_true trivial (not_lt.mp (mt hborder.mpr hfinite))

end Binary

end CommandConsole
