import CommandConsole.Proofs.DecimalReading
import CommandConsole.Proofs.ShortestText

/-!
# Sums within reach

A sum is exact and then rounded, so whether there is one is told by the value of the exact sum
alone: it must lie within the reach of the precision (`Binary.add_cases`,
`Decimal.add?_eq_none`). The text of a sum that is within reach is read as the sum again
(`Number.read?_text`, `Number.IsSum.proper`).
-/

namespace CommandConsole

namespace Binary

variable {f : Format}

def value (x : Binary f) : ℚ := x.signedUnits / 2 ^ f.unitPlaces

/-- A sum is finite iff its value is below the border of the format. -/
theorem add_cases (wide : 2 ≤ f.exponentBits) (x y : Binary f) :
    |x.value + y.value| < f.limit ∧ (∃ sum, x.add y = .finite sum) ∨
      f.limit ≤ |x.value + y.value| ∧
        x.add y = .infinite (decide (x.value + y.value < 0)) := by
  have hpow : (0 : ℚ) < 2 ^ f.unitPlaces := by positivity
  have hvalue : x.value + y.value =
      ((x.signedUnits + y.signedUnits : Int) : ℚ) / 2 ^ f.unitPlaces := by
    unfold value
    push_cast
    ring
  unfold add
  rw [hvalue]
  generalize x.signedUnits + y.signedUnits = sum
  have hborder : f.nearest sum.natAbs 1 < f.infinity ↔ |(sum : ℚ) / 2 ^ f.unitPlaces| < f.limit := by
    rw [Format.nearest_lt_infinity_iff_limit wide Nat.one_pos, abs_div, abs_of_pos hpow,
      div_lt_iff₀ hpow, Nat.cast_natAbs, Nat.cast_one, div_one, Int.cast_abs]
  by_cases hfinite : f.nearest sum.natAbs 1 < f.infinity
  · exact Or.inl ⟨hborder.mp hfinite, _, round_finite hfinite⟩
  · have hlimit := not_lt.mp (mt hborder.mpr hfinite)
    have hnonzero : sum ≠ 0 := by
      rintro rfl
      have hone := Format.one_lt_limit wide
      rw [Int.cast_zero, zero_div, abs_zero] at hlimit
      linarith
    refine Or.inr ⟨hlimit, ?_⟩
    have hsign : ((sum : ℚ) / 2 ^ f.unitPlaces < 0) ↔ sum < 0 := by
      rw [div_lt_iff₀ hpow, zero_mul, Int.cast_lt_zero]
    rw [round_infinite hfinite]
    simp only [if_neg hnonzero, hsign]

end Binary

/-! ## Decimal sums -/

namespace Decimal

def value (x : Decimal) : ℚ :=
  (if x.negative then -(x.mantissa : ℚ) else x.mantissa) / 10 ^ x.scale

/-- What is at least as large has no decimal near it. -/
def reach : ℚ := mantissaBound - 1 / 2

theorem roundHalfEven_lt_mantissaBound (exact dropped : Nat) :
    roundHalfEven exact (10 ^ dropped) < mantissaBound ↔
      2 * exact < (2 * mantissaBound - 1) * 10 ^ dropped := by
  have hodd : ¬ mantissaBound % 2 = 1 := by decide
  have hpos : 0 < 10 ^ dropped := Nat.pow_pos (by decide)
  have hone : 10 ^ dropped ≤ 2 * mantissaBound * 10 ^ dropped :=
    Nat.le_mul_of_pos_left _ (by decide)
  rw [roundHalfEven_lt_iff hpos, Nat.sub_mul, Nat.one_mul]
  simp only [hodd, and_false, or_false]
  omega

/-- Giving up places does not help a mantissa that is out of bounds without any. -/
theorem fit_eq_none {exact dropped scale : Nat} :
    fit exact dropped scale = none ↔
      (2 * mantissaBound - 1) * 10 ^ (dropped + scale) ≤ 2 * exact := by
  induction scale generalizing dropped with
  | zero =>
      rw [fit, Nat.add_zero, ← Nat.not_lt, ← roundHalfEven_lt_mantissaBound]
      simp only [Nat.pow_eq]
      split <;> simp_all
  | succ scale ih =>
      have hplaces : dropped + 1 + scale = dropped + (scale + 1) := by omega
      rw [fit]
      simp only [Nat.pow_eq]
      split
      · rename_i hfits
        have hless := (roundHalfEven_lt_mantissaBound exact dropped).mp hfits
        have hpow : (2 * mantissaBound - 1) * 10 ^ dropped ≤
            (2 * mantissaBound - 1) * 10 ^ (dropped + (scale + 1)) :=
          Nat.mul_le_mul_left _ (Nat.pow_le_pow_right (by decide) (by omega))
        exact iff_of_false (by simp) (by omega)
      · rw [ih, hplaces]

theorem bounds_of_fit {exact dropped scale mantissa places : Nat}
    (h : fit exact dropped scale = some (mantissa, places)) :
    mantissa < mantissaBound ∧ places ≤ scale := by
  induction scale generalizing dropped with
  | zero =>
      rw [fit] at h
      split at h
      · obtain ⟨rfl, rfl⟩ := Prod.mk.inj (Option.some.inj h)
        exact ⟨‹_›, le_rfl⟩
      · exact absurd h (by simp)
  | succ scale ih =>
      rw [fit] at h
      split at h
      · obtain ⟨rfl, rfl⟩ := Prod.mk.inj (Option.some.inj h)
        exact ⟨‹_›, le_rfl⟩
      · obtain ⟨hmantissa, hplaces⟩ := ih h
        exact ⟨hmantissa, Nat.le_succ_of_le hplaces⟩

theorem abs_value_lt_reach (x : Decimal) : |x.value| < reach := by
  have hmantissa : (x.mantissa : ℚ) ≤ mantissaBound - 1 := by
    have hle : x.mantissa + 1 ≤ mantissaBound := x.mantissa_lt
    have hcast : ((x.mantissa + 1 : Nat) : ℚ) ≤ mantissaBound := by exact_mod_cast hle
    push_cast at hcast
    linarith
  have hpow : (1 : ℚ) ≤ 10 ^ x.scale := one_le_pow₀ (by norm_num)
  have habs : |x.value| = x.mantissa / 10 ^ x.scale := by
    unfold value
    rw [abs_div, abs_of_pos (by positivity : (0 : ℚ) < 10 ^ x.scale)]
    split <;> simp
  have hle : (x.mantissa : ℚ) / 10 ^ x.scale ≤ x.mantissa := div_le_self (by positivity) hpow
  rw [habs, reach]
  linarith

theorem shifted_value (x : Decimal) {scale : Nat} (h : x.scale ≤ scale) :
    (x.shifted (scale - x.scale) : ℚ) / 10 ^ scale = x.value := by
  obtain ⟨places, rfl⟩ := Nat.exists_eq_add_of_le h
  unfold shifted value
  rw [Nat.add_sub_cancel_left, pow_add]
  simp only [Nat.pow_eq]
  split
  · push_cast
    field_simp
  · push_cast
    field_simp

/-- The sum of two decimals that are not zero, before it is put into bounds. -/
theorem add?_of_nonzero {x y : Decimal} (hx : x.mantissa ≠ 0) (hy : y.mantissa ≠ 0) :
    ∃ sum : Int, ∃ scale ≤ maxScale, (sum : ℚ) / 10 ^ scale = x.value + y.value ∧
      x.add? y = (fit sum.natAbs 0 scale).bind fun (mantissa, places) =>
        ofParts? (decide (sum < 0)) mantissa places := by
  refine ⟨_, max x.scale y.scale, Nat.max_le.mpr ⟨x.scale_le, y.scale_le⟩, ?_,
    (if_neg hx).trans (if_neg hy)⟩
  rw [← x.shifted_value (Nat.le_max_left x.scale y.scale),
    ← y.shifted_value (Nat.le_max_right x.scale y.scale), Int.cast_add, add_div]

theorem add?_eq_none (x y : Decimal) : x.add? y = none ↔ reach ≤ |x.value + y.value| := by
  by_cases hx : x.mantissa = 0
  · have hvalue : x.value = 0 := by simp [value, hx]
    rw [hvalue, zero_add, add?, if_pos hx]
    exact iff_of_false (by simp) (not_le.mpr y.abs_value_lt_reach)
  by_cases hy : y.mantissa = 0
  · have hvalue : y.value = 0 := by simp [value, hy]
    rw [hvalue, add_zero, add?, if_neg hx, if_pos hy]
    exact iff_of_false (by simp) (not_le.mpr x.abs_value_lt_reach)
  obtain ⟨sum, scale, hscale, hvalue, hadd⟩ := add?_of_nonzero hx hy
  have hborder : fit sum.natAbs 0 scale = none ↔ reach ≤ |x.value + y.value| := by
    have hpow : (0 : ℚ) < 10 ^ scale := by positivity
    have habs : |(sum : ℚ)| = (sum.natAbs : ℚ) := by rw [Nat.cast_natAbs, Int.cast_abs]
    have hcast : ((2 * mantissaBound - 1) * 10 ^ scale : Nat) ≤ ((2 * sum.natAbs : Nat) : ℚ) ↔
        reach * 10 ^ scale ≤ (sum.natAbs : ℚ) := by
      have hone : 1 ≤ 2 * mantissaBound := by decide
      unfold reach
      push_cast [Nat.cast_sub hone]
      constructor <;> intro h <;> linarith
    rw [fit_eq_none, Nat.zero_add, ← hvalue, abs_div, abs_of_pos hpow, le_div_iff₀ hpow, habs,
      ← hcast, Nat.cast_le]
  rw [hadd, ← hborder]
  cases hfit : fit sum.natAbs 0 scale with
  | none => simp
  | some parts =>
      obtain ⟨mantissa, places⟩ := parts
      obtain ⟨hmantissa, hplaces⟩ := bounds_of_fit hfit
      rw [Option.bind_some]
      show ofParts? _ mantissa places = none ↔ _
      rw [ofParts?_eq_some hmantissa (hplaces.trans hscale)]
      simp

/-- A sum is no zero with a minus sign, unless an operand was one. -/
theorem sign_of_add? {x y sum : Decimal} (hx : x.negative = true → x.mantissa ≠ 0)
    (hy : y.negative = true → y.mantissa ≠ 0) (h : x.add? y = some sum) :
    sum.negative = true → sum.mantissa ≠ 0 := by
  by_cases hxzero : x.mantissa = 0
  · rw [add?, if_pos hxzero] at h
    obtain rfl := Option.some.inj h
    exact hy
  by_cases hyzero : y.mantissa = 0
  · rw [add?, if_neg hxzero, if_pos hyzero] at h
    obtain rfl := Option.some.inj h
    exact hx
  obtain ⟨exact, scale, -, -, hadd⟩ := add?_of_nonzero hxzero hyzero
  rw [hadd] at h
  obtain ⟨⟨mantissa, places⟩, -, hparts⟩ := Option.bind_eq_some_iff.mp h
  exact sign_of_ofParts? hparts

end Decimal

/-! ## Sums of numbers -/

/-- How far a precision reaches: what is at least as large is no number in it. -/
def Precision.reach : Precision → ℚ
  | .single => Format.single.limit
  | .double => Format.double.limit
  | .decimal => Decimal.reach

namespace Number

def value : Number → ℚ
  | .single x | .double x => x.value
  | .decimal x => x.value

/-- `x.IsSum y sum`: the sum of two numbers of one precision, where it has one. -/
inductive IsSum : Number → Number → Number → Prop where
  | single {x y sum : Binary .single} (h : x.add y = .finite sum) :
      IsSum (.single x) (.single y) (.single sum)
  | double {x y sum : Binary .double} (h : x.add y = .finite sum) :
      IsSum (.double x) (.double y) (.double sum)
  | decimal {x y sum : Decimal} (h : x.add? y = some sum) :
      IsSum (.decimal x) (.decimal y) (.decimal sum)

inductive Akin : Number → Number → Prop where
  | single (x y : Binary .single) : Akin (.single x) (.single y)
  | double (x y : Binary .double) : Akin (.double x) (.double y)
  | decimal (x y : Decimal) : Akin (.decimal x) (.decimal y)

theorem akin_of_precision : ∀ {x y : Number}, x.precision = y.precision → x.Akin y
  | .single x, .single y, _ => .single x y
  | .double x, .double y, _ => .double x y
  | .decimal x, .decimal y, _ => .decimal x y

theorem IsSum.precision_eq {x y sum : Number} (h : x.IsSum y sum) : sum.precision = x.precision := by
  cases h <;> rfl

/-- Not a zero with a minus sign, if it is a decimal. -/
def Proper : Number → Prop
  | .single _ | .double _ => True
  | .decimal x => x.negative = true → x.mantissa ≠ 0

theorem proper_of_read? {precision : Precision} {text : List Char} {x : Number}
    (h : IsNumeral text) (hread : read? precision text = some x) : x.Proper := by
  cases precision with
  | single | double =>
      obtain ⟨y, -, rfl⟩ := Option.map_eq_some_iff.mp hread
      exact trivial
  | decimal =>
      obtain ⟨y, hy, rfl⟩ := Option.map_eq_some_iff.mp hread
      exact Decimal.sign_of_read? h hy

/-- **A proper number is read back from its text.** -/
theorem read?_text {x : Number} (h : x.Proper) : read? x.precision x.text.toList = some x := by
  cases x with
  | single x => exact congrArg (Option.map single) (Binary.read?_text (by decide) x)
  | double x => exact congrArg (Option.map double) (Binary.read?_text (by decide) x)
  | decimal x => exact congrArg (Option.map decimal) (Decimal.read?_text h)

theorem IsSum.proper {x y sum : Number} (h : x.IsSum y sum) (hx : x.Proper) (hy : y.Proper) :
    sum.Proper := by
  cases h with
  | single _ | double _ => exact trivial
  | decimal h => exact Decimal.sign_of_add? hx hy h

end Number

end CommandConsole
