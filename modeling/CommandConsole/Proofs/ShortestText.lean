import CommandConsole.Number
import CommandConsole.Proofs.Literals

/-!
# Binary numbers and their texts

The text of a binary number spells a point of the interval that rounds to it
(`Interval.contains_shortest`), and whatever is spelled in that interval is read as the number
(`Binary.ofScientific_of_contains`): the ends of the interval are the middles between the number
and its neighbours, and that is where rounding changes from one number to the next.

Main result: `Binary.read?_text`.
-/

namespace CommandConsole

namespace Positional

theorem fixed_plain (places n : Nat) :
    ∃ whole fraction, whole ≠ [] ∧ (∀ c ∈ whole ++ fraction, c.isDigit = true) ∧
      fraction.length = places ∧ spelledBy (whole ++ fraction) = n ∧
      fixed places n = Literal.plain false whole fraction := by
  obtain ⟨whole, fraction, nonempty, length, digits, value, heq⟩ := fixed_split places n
  refine ⟨whole, fraction, nonempty, digits, length, value, ?_⟩
  rw [heq, ← length]
  show _ = whole ++ if fraction = [] then [] else '.' :: fraction
  by_cases hfraction : fraction = []
  · rw [if_pos (by rw [hfraction, List.length_nil]), if_pos hfraction, List.append_nil]
  · rw [if_neg (mt List.length_eq_zero_iff.mp hfraction), if_neg hfraction]

/-- So is the spelling without zeros at the end, of the same value. -/
theorem trimmed_plain (places n : Nat) :
    ∃ whole fraction, whole ≠ [] ∧ (∀ c ∈ whole ++ fraction, c.isDigit = true) ∧
      spelledBy (whole ++ fraction) * 10 ^ places = n * 10 ^ fraction.length ∧
      trimmed places n = Literal.plain false whole fraction := by
  induction places generalizing n with
  | zero =>
      obtain ⟨whole, fraction, nonempty, digits, length, value, heq⟩ := fixed_plain 0 n
      exact ⟨whole, fraction, nonempty, digits, by rw [value, length], heq⟩
  | succ places ih =>
      rw [trimmed]
      split
      · rename_i hzero
        obtain ⟨whole, fraction, nonempty, digits, value, heq⟩ := ih (n / 10)
        refine ⟨whole, fraction, nonempty, digits, ?_, heq⟩
        calc spelledBy (whole ++ fraction) * 10 ^ (places + 1)
            = 10 * (spelledBy (whole ++ fraction) * 10 ^ places) := by ring
          _ = 10 * (n / 10) * 10 ^ fraction.length := by rw [value, Nat.mul_assoc]
          _ = n * 10 ^ fraction.length := by rw [Nat.mul_div_cancel' (Nat.dvd_of_mod_eq_zero hzero)]
      · obtain ⟨whole, fraction, nonempty, digits, length, value, heq⟩ := fixed_plain (places + 1) n
        exact ⟨whole, fraction, nonempty, digits, by rw [value, length], heq⟩

end Positional

namespace Binary

variable {f : Format}

/-! ## The interval of a number -/

namespace Interval

variable {i : Interval} {x : Nat}

theorem contains_iff : i.contains x = true ↔
    (i.low < x ∨ x = i.low ∧ i.closed = true) ∧ (x < i.high ∨ x = i.high ∧ i.closed = true) := by
  unfold contains
  cases i.closed with
  | true =>
      simp only [if_true, Bool.and_eq_true, decide_eq_true_eq, and_true]
      omega
  | false => simp

theorem contains_of_onGrid? {step : Nat} (h : i.onGrid? step = some x) : i.contains x = true := by
  unfold onGrid? at h
  simp only at h
  split at h
  · rename_i hbelow
    obtain rfl := Option.some.inj h
    exact ((Bool.and_eq_true _ _).mp hbelow).1
  · split at h
    · rename_i habove
      obtain rfl := Option.some.inj h
      exact habove
    · exact absurd h (by simp)

/-- The search ends in the interval, on a grid or at its centre. -/
theorem contains_shortest (centre : i.contains i.centre = true) (k : Nat) :
    i.contains (i.shortest k) = true := by
  induction k with
  | zero => exact centre
  | succ k ih =>
      rw [shortest]
      cases hgrid : i.onGrid? (Nat.pow 10 (k + 1)) with
      | none => exact ih
      | some x => exact contains_of_onGrid? hgrid

end Interval

theorem interval_eq (x : Binary f) :
    x.interval = ⟨(f.units (x.magnitude - 1) + f.units x.magnitude) * 5 ^ places f,
      2 * f.units x.magnitude * 5 ^ places f,
      (f.units x.magnitude + f.units (x.magnitude + 1)) * 5 ^ places f, x.magnitude % 2 == 0⟩ := by
  simp only [interval, Nat.pow_eq]

theorem contains_centre {x : Binary f} (nonzero : x.magnitude ≠ 0) :
    x.interval.contains x.interval.centre = true := by
  have hbelow := f.units_lt (Nat.pos_of_ne_zero nonzero)
  have habove := f.units_lt (Nat.add_one_pos x.magnitude)
  rw [Nat.add_sub_cancel] at habove
  rw [Interval.contains_iff, interval_eq]
  exact ⟨Or.inl (Nat.mul_lt_mul_of_pos_right (by omega) (Nat.pow_pos (by decide))),
    Or.inl (Nat.mul_lt_mul_of_pos_right (by omega) (Nat.pow_pos (by decide)))⟩

theorem le_of_contains {x : Binary f} (nonzero : x.magnitude ≠ 0) {v : Nat}
    (h : x.interval.contains v = true) : 5 ^ places f ≤ v := by
  have hbelow := f.units_lt (Nat.pos_of_ne_zero nonzero)
  rw [Interval.contains_iff, interval_eq] at h
  have hlow : 1 * 5 ^ places f ≤ (f.units (x.magnitude - 1) + f.units x.magnitude) * 5 ^ places f :=
    Nat.mul_le_mul_right _ (by omega)
  obtain ⟨hlow' | ⟨hlow', -⟩, -⟩ := h
  · dsimp only at hlow'
    omega
  · dsimp only at hlow'
    omega

/-! ## Reading back -/

/-- **What rounds to a number.** A quotient in the interval of a number is nearest to it. -/
theorem nearest_of_contains (fraction : 0 < f.fractionBits) {x : Binary f}
    (nonzero : x.magnitude ≠ 0) {v num den : Nat} (pos : 0 < den)
    (value : 2 * num * 5 ^ places f = v * den) (h : x.interval.contains v = true) :
    f.nearest num den = x.magnitude := by
  have hfive : 0 < 5 ^ places f := Nat.pow_pos (by decide)
  -- Both sides of a comparison with the middle of two numbers, in the scale of the interval.
  have hscale : ∀ middle, middle * den * 5 ^ places f = middle * 5 ^ places f * den :=
    fun middle => by ring
  have hlt : ∀ middle, 2 * num < middle * den ↔ v < middle * 5 ^ places f := fun middle => by
    rw [← Nat.mul_lt_mul_right hfive, value, hscale, Nat.mul_lt_mul_right pos]
  have heq : ∀ middle, 2 * num = middle * den ↔ v = middle * 5 ^ places f := fun middle => by
    rw [← Nat.mul_left_inj hfive.ne', value, hscale, Nat.mul_left_inj pos.ne']
  rw [Interval.contains_iff, interval_eq] at h
  simp only [beq_iff_eq] at h
  have hbelow : f.nearest num den < x.magnitude ↔ _ :=
    Format.nearest_lt_iff fraction (Nat.pos_of_ne_zero nonzero) pos
  have habove : f.nearest num den < x.magnitude + 1 ↔ _ :=
    Format.nearest_lt_iff fraction (Nat.add_one_pos _) pos
  rw [hlt, heq] at hbelow habove
  rw [Nat.add_sub_cancel] at habove
  omega

theorem round_of_nearest {x : Binary f} {num den : Nat} (h : f.nearest num den = x.magnitude) :
    round f x.negative num den = .finite x := by
  have hfinite : f.nearest num den < f.infinity := h ▸ x.magnitude_lt
  rw [round_finite hfinite]
  obtain ⟨negative, magnitude, hmagnitude⟩ := x
  simp only at h
  simp only [h]

theorem ofScientific_zero (x : Binary f) (zero : x.magnitude = 0) (exponent : Int) :
    ofScientific f x.negative 0 exponent = some x := by
  have hnearest : f.nearest 0 1 = x.magnitude := by
    rw [zero, Format.nearest_eq]
    simp [roundHalfEven]
  unfold ofScientific
  simp only [true_or, if_true, round_of_nearest hnearest]

/-- What is spelled in the interval of a number is read as the number. -/
theorem ofScientific_of_contains (fraction : 0 < f.fractionBits) {x : Binary f}
    (nonzero : x.magnitude ≠ 0) {v digits n : Nat}
    (value : digits * 10 ^ places f = v * 10 ^ n) (h : x.interval.contains v = true) :
    ofScientific f x.negative digits (-n) = some x := by
  have hlow := le_of_contains nonzero h
  have hfive : 0 < 5 ^ places f := Nat.pow_pos (by decide)
  have hten : 0 < 10 ^ n := Nat.pow_pos (by decide)
  have hpos : 0 < digits := by
    refine Nat.pos_of_ne_zero fun hzero => ?_
    rw [hzero, Nat.zero_mul] at value
    have : 0 < v * 10 ^ n := Nat.mul_pos (by omega) hten
    omega
  have htiny : ¬ (digits = 0 ∨ -(n : Int) + Nat.log2 digits + f.unitPlaces + 2 ≤ 0) := by
    rintro (hzero | htiny)
    · omega
    have hdigits : digits * 2 ^ places f < 10 ^ n := by
      calc digits * 2 ^ places f < 2 ^ (Nat.log2 digits + 1) * 2 ^ places f :=
            Nat.mul_lt_mul_of_pos_right Nat.lt_log2_self (Nat.two_pow_pos _)
        _ = 2 ^ (Nat.log2 digits + 1 + places f) := (Nat.pow_add 2 _ _).symm
        _ ≤ 2 ^ n := Nat.pow_le_pow_right (by decide) (by unfold places; omega)
        _ ≤ 10 ^ n := Nat.pow_le_pow_left (by decide) n
    have hhalf : 5 ^ places f * 10 ^ n ≤ 5 ^ places f * (digits * 2 ^ places f) := by
      calc 5 ^ places f * 10 ^ n ≤ v * 10 ^ n := Nat.mul_le_mul_right _ hlow
        _ = digits * 10 ^ places f := value.symm
        _ = 5 ^ places f * (digits * 2 ^ places f) := by
          rw [show 10 = 2 * 5 from rfl, Nat.mul_pow]
          ring
    exact absurd (Nat.le_of_mul_le_mul_left hhalf hfive) (Nat.not_le.mpr hdigits)
  have hhuge : ¬ (f.overflowExponent : Int) ≤ -(n : Int) := by
    have : 0 < f.overflowExponent := Nat.two_pow_pos _
    omega
  have hnearest : f.nearest (digits * 10 ^ (-(n : Int)).toNat * 2 ^ f.unitPlaces)
      (10 ^ (-(-(n : Int))).toNat) = x.magnitude := by
    have hwhole : (-(n : Int)).toNat = 0 := by omega
    have hplaces : (-(-(n : Int))).toNat = n := by omega
    rw [hwhole, hplaces, Nat.pow_zero, Nat.mul_one]
    refine nearest_of_contains fraction nonzero hten ?_ h
    rw [← value, places, show 10 = 2 * 5 from rfl, Nat.mul_pow]
    ring
  unfold ofScientific
  simp only [if_neg htiny, if_neg hhuge, Nat.pow_eq, round_of_nearest hnearest]

/-- The text of a number is a plain literal, and spells zero or a point of its interval. -/
theorem text_plain (x : Binary f) :
    ∃ whole fraction, whole ≠ [] ∧ (∀ c ∈ whole ++ fraction, c.isDigit = true) ∧
      x.text.toList = Literal.plain x.negative whole fraction ∧
      (x.magnitude = 0 → spelledBy (whole ++ fraction) = 0) ∧
      (x.magnitude ≠ 0 → ∃ v, x.interval.contains v = true ∧
        spelledBy (whole ++ fraction) * 10 ^ places f = v * 10 ^ fraction.length) := by
  rw [text, String.toList_ofList, magnitudeText]
  by_cases hzero : x.magnitude = 0
  · rw [if_pos hzero]
    exact ⟨['0'], [], by simp, by simp, rfl, fun _ => rfl, fun h => absurd hzero h⟩
  · rw [if_neg hzero]
    obtain ⟨whole, fraction, nonempty, digits, value, heq⟩ := Positional.trimmed_plain (places f)
      (x.interval.shortest ((Nat.toDigits 10 x.interval.centre).length - 1))
    refine ⟨whole, fraction, nonempty, digits, ?_, fun h => absurd h hzero, fun _ => ?_⟩
    · simp only [heq]
      rfl
    · exact ⟨_, Interval.contains_shortest (contains_centre hzero) _, value⟩

/-- **The text of a number is read as the number.** -/
theorem read?_text (fraction : 0 < f.fractionBits) (x : Binary f) :
    read? f (Number.normalize x.text.toList) = some x := by
  obtain ⟨whole, digits, nonempty, hdigits, htext, hzero, hnonzero⟩ := x.text_plain
  have hne : whole ++ digits ≠ [] := fun h => nonempty (List.append_eq_nil_iff.mp h).1
  have hwhole : Literal.wholeOrZero whole = whole := if_neg nonempty
  rw [htext, (Literal.spelled_plain hdigits).normalize_eq hne, hwhole,
    read?_plain nonempty hdigits]
  by_cases h : x.magnitude = 0
  · rw [hzero h]
    exact ofScientific_zero x h _
  · obtain ⟨v, hv, value⟩ := hnonzero h
    exact ofScientific_of_contains fraction h value hv

end Binary

end CommandConsole
