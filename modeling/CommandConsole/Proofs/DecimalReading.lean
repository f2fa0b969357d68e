import CommandConsole.CommandLine
import CommandConsole.Proofs.Literals
import CommandConsole.Proofs.Scanning

/-!
# How decimals are read

The digits of a literal are taken one by one into a mantissa that has two limits, its own
and that of the scale, and the first digit that meets one of them is rounded away. So a
decimal is at most half a unit of its last place away from the literal (`Decimal.Near`,
`readMantissa_near`), and the only literals out of range are those whose whole part is, or
is the largest mantissa and rounds up (`readMantissa_eq_none`). With the border of the
binary formats this tells what becomes of the number tokens of a line
(`number_tokens_read`).
-/

namespace CommandConsole

namespace Decimal

/-! ## One digit -/

/-- A mantissa and a scale within bounds, and at most half a unit of the last place away from
`x`. -/
structure Near (x : ℚ) (mantissa scale : Nat) : Prop where
  mantissa_lt : mantissa < mantissaBound
  scale_le : scale ≤ maxScale
  close : |(mantissa : ℚ) / 10 ^ scale - x| ≤ 1 / 2 / 10 ^ scale

theorem near_of_scaled {x : ℚ} {m s : Nat} (hm : m < mantissaBound) (hs : s ≤ maxScale)
    (h : |(m : ℚ) - x * 10 ^ s| ≤ 1 / 2) : Near x m s where
  mantissa_lt := hm
  scale_le := hs
  close := by
    have hpow : (0 : ℚ) < 10 ^ s := by positivity
    have hscaled : (m : ℚ) / 10 ^ s - x = (m - x * 10 ^ s) / 10 ^ s := by
      field_simp
    rw [hscaled, abs_div, abs_of_pos hpow]
    exact div_le_div_of_nonneg_right h hpow.le

variable {m s d : Nat}

theorem roundOff_eq_none (hm : m < mantissaBound) :
    roundOff d m s = none ↔ s = 0 ∧ m + 1 = mantissaBound ∧ 5 ≤ d := by
  unfold roundOff
  split
  · exact iff_of_false (by simp) (by omega)
  · split
    · exact iff_of_false (by simp) (by omega)
    · split
      · exact iff_of_true rfl (by omega)
      · exact iff_of_false (by simp) (by omega)

/-- The digit `d` and what follows it, `x`, are rounded away together. -/
theorem roundOff_near {x : ℚ} {parts : Nat × Nat} (hm : m < mantissaBound) (hs : s ≤ maxScale)
    (hx : 0 ≤ x) (hx' : x < 1) (hd : d ≤ 9) (h : roundOff d m s = some parts) :
    Near ((m + (d + x) / 10) / 10 ^ s) parts.1 parts.2 := by
  have hpow : (10 : ℚ) ^ s ≠ 0 := by positivity
  unfold roundOff at h
  split at h
  · obtain rfl := Option.some.inj h
    have hd4 : (d : ℚ) ≤ 4 := by exact_mod_cast Nat.le_of_lt_succ ‹_›
    refine near_of_scaled hm hs ?_
    rw [div_mul_cancel₀ _ hpow, abs_le]
    constructor <;> linarith
  · have hd5 : (5 : ℚ) ≤ d := by exact_mod_cast Nat.le_of_not_lt ‹_›
    have hd9 : (d : ℚ) ≤ 9 := by exact_mod_cast hd
    split at h
    · obtain rfl := Option.some.inj h
      refine near_of_scaled ‹_› hs ?_
      push_cast
      rw [div_mul_cancel₀ _ hpow, abs_le]
      constructor <;> linarith
    · split at h
      · exact absurd h (by simp)
      · -- The largest mantissa ends in a five, so the carry is a whole number of tens.
        obtain rfl := Option.some.inj h
        obtain ⟨s, rfl⟩ := Nat.exists_eq_succ_of_ne_zero ‹s ≠ 0›
        have hcarry : m + 5 = 10 * ((m + 5) / 10) := by
          have hbound : mantissaBound = 79228162514264337593543950336 := rfl
          omega
        have hcast : (m : ℚ) + 5 = 10 * ((m + 5) / 10 : Nat) := by exact_mod_cast hcarry
        have hshift : ((m : ℚ) + (d + x) / 10) / 10 ^ (s + 1) * 10 ^ s =
            (m + (d + x) / 10) / 10 := by
          rw [pow_succ]
          field_simp
        refine near_of_scaled ?_ (Nat.le_of_succ_le hs) ?_
        · show (m + 5) / 10 < mantissaBound
          omega
        · show |(((m + 5) / 10 : Nat) : ℚ) - _ / 10 ^ (s + 1) * 10 ^ s| ≤ _
          rw [hshift, abs_le]
          constructor <;> linarith

/-! ## The fraction -/

variable {ds : List Char}

/-- A fraction digit is taken, or rounded away with all that follow it. -/
theorem readMantissa_digit {c : Char} (hs : s ≤ maxScale) (hc : c.isDigit = true)
    (hds : ∀ d ∈ ds, d.isDigit = true) :
    readMantissa true true m s (c :: ds) =
      if s < maxScale ∧ 10 * m + (c.toNat - '0'.toNat) < mantissaBound then
        readMantissa true true (10 * m + (c.toNat - '0'.toNat)) (s + 1) ds
      else roundOff (c.toNat - '0'.toNat) m s := by
  have hignored : ds.all isIgnorable = true := by
    refine List.all_eq_true.mpr fun d hd => ?_
    rw [isIgnorable, hds d hd, Bool.true_or]
  rw [readMantissa]
  by_cases hfull : s = maxScale
  · subst hfull
    simp [hc, hignored]
  · have hroom : s < maxScale := by omega
    simp [hfull, hroom, hc, hignored]

/-- **Rounding.** Reading the fraction ends near the literal. -/
theorem readMantissa_near {parts : Nat × Nat} (hm : m < mantissaBound) (hs : s ≤ maxScale)
    (hds : ∀ d ∈ ds, d.isDigit = true) (h : readMantissa true true m s ds = some parts) :
    Near ((m + spelledBehind ds) / 10 ^ s) parts.1 parts.2 := by
  induction ds generalizing m s with
  | nil =>
      obtain rfl := Option.some.inj h
      refine near_of_scaled hm hs ?_
      rw [spelledBehind_nil, add_zero, div_mul_cancel₀ _ (by positivity), sub_self, abs_zero]
      norm_num
  | cons c ds ih =>
      obtain ⟨hc, hds⟩ := List.forall_mem_cons.mp hds
      rw [readMantissa_digit hs hc hds] at h
      split at h
      · have htaken := ih (by omega) (by omega) hds h
        have hvalue : ((10 * m + (c.toNat - '0'.toNat) : Nat) + spelledBehind ds) / 10 ^ (s + 1) =
            (m + spelledBehind (c :: ds)) / 10 ^ s := by
          rw [spelledBehind_cons, pow_succ]
          push_cast
          field_simp
          ring
        rwa [hvalue] at htaken
      · rw [spelledBehind_cons]
        exact roundOff_near hm hs (spelledBehind_nonneg ds) (spelledBehind_lt_one hds)
          (digit_le_nine hc) h

/-- **Overflow in the fraction.** Only the largest mantissa rounds out of range, and only
where there is no place to give up. -/
theorem readMantissa_eq_none (hm : m < mantissaBound) (hs : s ≤ maxScale)
    (hds : ∀ d ∈ ds, d.isDigit = true) :
    readMantissa true true m s ds = none ↔
      s = 0 ∧ m + 1 = mantissaBound ∧ ∃ c ∈ ds.head?, 5 ≤ c.toNat - '0'.toNat := by
  induction ds generalizing m s with
  | nil => exact iff_of_false (by simp [readMantissa]) (by simp)
  | cons c ds ih =>
      obtain ⟨hc, hds⟩ := List.forall_mem_cons.mp hds
      have hhead : (∃ d ∈ (c :: ds).head?, 5 ≤ d.toNat - '0'.toNat) ↔
          5 ≤ c.toNat - '0'.toNat := by simp
      rw [readMantissa_digit hs hc hds, hhead]
      split
      · rw [ih (by omega) (by omega) hds]
        have hbound : mantissaBound = 79228162514264337593543950336 := rfl
        exact iff_of_false (by omega) (by omega)
      · exact roundOff_eq_none hm

theorem readMantissa_overflow {seen : Bool} {rest : List Char} (hm : m < mantissaBound)
    (hds : ∀ d ∈ ds, d.isDigit = true) (h : mantissaBound ≤ Nat.ofDigitChars 10 ds m) :
    readMantissa false seen m s (ds ++ rest) = none := by
  induction ds generalizing seen m with
  | nil =>
      rw [Nat.ofDigitChars_nil] at h
      omega
  | cons c ds ih =>
      obtain ⟨hc, hds⟩ := List.forall_mem_cons.mp hds
      rw [Nat.ofDigitChars_cons] at h
      rw [List.cons_append, readMantissa]
      simp only [Bool.false_and, Bool.false_eq_true, if_false, hc, if_true]
      split
      · exact ih ‹_› hds h
      · rfl

/-- A normal literal is read in two steps, its whole part and its fraction. -/
theorem readMantissa_plain {w f : List Char} (hne : w ≠ []) (hw : ∀ c ∈ w, c.isDigit = true) :
    readMantissa false false 0 0 (w ++ if f = [] then [] else '.' :: f) =
      if spelledBy w < mantissaBound then readMantissa true true (spelledBy w) 0 f else none := by
  by_cases hfit : spelledBy w < mantissaBound
  · have hseen : w.isEmpty = false := by simpa using hne
    rw [if_pos hfit, readMantissa_digits false false 0 0 hw hfit Bool.noConfusion, hseen]
    show readMantissa false true (spelledBy w) 0 _ = _
    split
    · subst f
      rfl
    · rw [readMantissa_point]
  · rw [if_neg hfit]
    exact readMantissa_overflow (by decide) hw (Nat.le_of_not_lt hfit)

/-! ## Literals -/

variable {text w f : List Char} {negative : Bool}

theorem read?_spelled (h : IsNumeral text) (hs : Literal.Spelled text negative w f)
    (hne : w ++ f ≠ []) :
    read? (Number.normalize text) =
      if spelledBy w < mantissaBound then
        (readMantissa true true (spelledBy w) 0 f).bind fun parts =>
          ofParts? negative parts.1 parts.2
      else none := by
  have hwhole := Literal.wholeOrZero_ne_nil w
  have hdigits := Literal.wholeOrZero_digits hs.whole_digits
  have hvalue : spelledBy (Literal.wholeOrZero w) = spelledBy w := by
    simpa using Literal.spelledBy_wholeOrZero_append w []
  rw [read?_plain (normalize_chars h), hs.normalize_eq hne, readPlain?,
    Literal.readSign_plain hwhole hdigits]
  dsimp only
  rw [readMantissa_plain hwhole hdigits, hvalue]
  split
  · rfl
  · rfl

theorem ofParts?_eq_some {mantissa scale : Nat} (hm : mantissa < mantissaBound)
    (hs : scale ≤ maxScale) :
    ofParts? negative mantissa scale =
      some ⟨negative && mantissa != 0, mantissa, scale, hm, hs⟩ := dif_pos ⟨hm, hs⟩

/-- What reading a literal as a decimal may make of it: the sign of the literal on a
mantissa near its value, and all its digits where there is room for them. -/
structure Represents (x : Decimal) (text : List Char) : Prop where
  near : Near (Literal.magnitude text) x.mantissa x.scale
  sign : x.negative = true ↔ Literal.value text < 0 ∧ x.mantissa ≠ 0
  exact : (Literal.fraction text).length ≤ maxScale →
    spelledBy (Literal.whole text ++ Literal.fraction text) < mantissaBound →
    (x.mantissa : ℚ) / 10 ^ x.scale = Literal.magnitude text ∧
      x.scale = (Literal.fraction text).length

theorem Near.pos {x : ℚ} (h : Near x m s) (nonzero : m ≠ 0) : 0 < x := by
  have hclose := (abs_le.mp h.close).2
  have hpow : (0 : ℚ) < 10 ^ s := by positivity
  have hone : 1 / (10 : ℚ) ^ s ≤ m / 10 ^ s := by
    refine div_le_div_of_nonneg_right ?_ hpow.le
    exact_mod_cast Nat.one_le_iff_ne_zero.mpr nonzero
  have hhalf : 1 / 2 / (10 : ℚ) ^ s < 1 / 10 ^ s := div_lt_div_of_pos_right (by norm_num) hpow
  linarith

theorem represents_of_spelled (hs : Literal.Spelled text negative w f)
    {parts : Nat × Nat} (hfit : spelledBy w < mantissaBound)
    (hread : readMantissa true true (spelledBy w) 0 f = some parts) :
    ∃ x, ofParts? negative parts.1 parts.2 = some x ∧ Represents x text := by
  have hnear : Near (Literal.magnitude text) parts.1 parts.2 := by
    have h := readMantissa_near hfit (Nat.zero_le _) hs.fraction_digits hread
    rwa [pow_zero, div_one, ← hs.magnitude_eq] at h
  refine ⟨_, ofParts?_eq_some hnear.mantissa_lt hnear.scale_le, hnear, ?_, ?_⟩
  · show (negative && parts.1 != 0) = true ↔ Literal.value text < 0 ∧ parts.1 ≠ 0
    rw [Bool.and_eq_true, bne_iff_ne, and_congr_left_iff]
    intro hnonzero
    have hpos := hnear.pos hnonzero
    rw [hs.value_eq]
    cases negative with
    | true => exact iff_of_true rfl (by simpa using hpos)
    | false => exact iff_of_false Bool.noConfusion (by simpa using hpos.le)
  · intro hroom hall
    rw [hs.whole_eq, hs.fraction_eq] at hall
    rw [hs.fraction_eq] at hroom ⊢
    rw [spelledBy_append, ← ofDigitChars_eq] at hall
    have hexact := readMantissa_digits true true (spelledBy w) 0 hs.fraction_digits hall
      (fun _ => by omega) []
    rw [List.append_nil, hread] at hexact
    obtain rfl := Option.some.inj hexact
    refine ⟨?_, Nat.zero_add _⟩
    show ((Nat.ofDigitChars 10 f (spelledBy w) : Nat) : ℚ) / 10 ^ (0 + f.length) = _
    rw [Nat.zero_add, ofDigitChars_eq, ← spelledBy_append, ← hs.magnitude_mul]
    field_simp

end Decimal

/-! ## Number tokens -/

namespace Literal

/-- What a precision has no number for. In a binary format it is what rounds beyond the
largest number; in a decimal, a whole part above the largest mantissa, or the largest
mantissa and a fraction that rounds up. -/
def OutOfRange (text : List Char) : Precision → Prop
  | .single => Format.single.limit ≤ magnitude text
  | .double => Format.double.limit ≤ magnitude text
  | .decimal =>
      Decimal.mantissaBound ≤ spelledBy (whole text) ∨
        spelledBy (whole text) + 1 = Decimal.mantissaBound ∧
          ∃ c ∈ (fraction text).head?, 5 ≤ c.toNat - '0'.toNat

end Literal

namespace Decimal

variable {text : List Char}

theorem read?_eq_none (h : IsNumeral text) :
    read? (Number.normalize text) = none ↔ Literal.OutOfRange text .decimal := by
  obtain ⟨negative, w, f, hs, hne⟩ := Literal.spelled_of_isNumeral h
  rw [read?_spelled h hs hne, Literal.OutOfRange, hs.whole_eq, hs.fraction_eq]
  by_cases hfit : spelledBy w < mantissaBound
  · rw [if_pos hfit]
    have hfraction := readMantissa_eq_none hfit (Nat.zero_le _) hs.fraction_digits
    cases hread : readMantissa true true (spelledBy w) 0 f with
    | none => exact iff_of_true rfl (Or.inr (hfraction.mp hread).2)
    | some parts =>
        obtain ⟨x, hx, -⟩ := represents_of_spelled hs hfit hread
        rw [Option.bind_some, hx]
        refine iff_of_false (Option.some_ne_none x) ?_
        rintro (hover | hround)
        · omega
        · exact Option.some_ne_none parts (hread ▸ hfraction.mpr ⟨rfl, hround⟩)
  · rw [if_neg hfit]
    exact iff_of_true rfl (Or.inl (Nat.le_of_not_lt hfit))

theorem represents_of_read? {x : Decimal} (h : IsNumeral text)
    (hread : read? (Number.normalize text) = some x) : x.Represents text := by
  obtain ⟨negative, w, f, hs, hne⟩ := Literal.spelled_of_isNumeral h
  rw [read?_spelled h hs hne] at hread
  split at hread
  · obtain ⟨parts, hparts, hx⟩ := Option.bind_eq_some_iff.mp hread
    obtain ⟨y, hy, hrep⟩ := represents_of_spelled hs ‹_› hparts
    obtain rfl := Option.some.inj (hy.symm.trans hx)
    exact hrep
  · exact absurd hread (by simp)

end Decimal

theorem Number.read?_eq_none {text : List Char} (h : IsNumeral text) (precision : Precision) :
    read? precision text = none ↔ Literal.OutOfRange text precision := by
  cases precision with
  | single =>
      rw [read?, Option.map_eq_none_iff]
      exact Binary.read?_eq_none (by decide) h
  | double =>
      rw [read?, Option.map_eq_none_iff]
      exact Binary.read?_eq_none (by decide) h
  | decimal =>
      rw [read?, Option.map_eq_none_iff]
      exact Decimal.read?_eq_none h

theorem readNumber_error_iff {literal : String} (h : IsNumeral literal.toList)
    (precision : Precision) :
    readNumber precision literal = .error (.numberOutOfRange literal precision) ↔
      Literal.OutOfRange literal.toList precision := by
  rw [← Number.read?_eq_none h]
  unfold readNumber
  split
  · exact iff_of_false (by simp) (by simp [*])
  · exact iff_of_true rfl ‹_›

theorem isNumeral_of_mem_tokens {line : String} {toks : List Token} (h : tokens line = .ok toks)
    {token : Token} (mem : token ∈ toks) (kind : token.kind = .number) :
    IsNumeral token.text.toList := by
  have hlex := isLexeme_of_mem_tokens h token mem
  rw [kind] at hlex
  exact hlex.resolve_left (by simp)

/-- **How the numbers of a line are read.** The text of a number token has a normal form of
the same value, and each precision refuses it for its value alone, as out of range. A decimal
is rounded once, by the first digit that has no room, and is exact where all have. -/
theorem number_tokens_read {line : String} {toks : List Token} (h : tokens line = .ok toks)
    {token : Token} (mem : token ∈ toks) (kind : token.kind = .number) :
    Literal.IsNormal (Number.normalize token.text.toList) ∧
      Literal.value (Number.normalize token.text.toList) = Literal.value token.text.toList ∧
      (∀ precision,
        readNumber precision token.text = .error (.numberOutOfRange token.text precision) ↔
          Literal.OutOfRange token.text.toList precision) ∧
      (¬ Literal.OutOfRange token.text.toList .decimal →
        ∃ x : Decimal, readNumber .decimal token.text = .ok (.decimal x) ∧
          x.Represents token.text.toList) := by
  have hnumeral := isNumeral_of_mem_tokens h mem kind
  refine ⟨Literal.isNormal_normalize hnumeral, Literal.value_normalize hnumeral,
    readNumber_error_iff hnumeral, fun hrange => ?_⟩
  rw [← Decimal.read?_eq_none hnumeral] at hrange
  obtain ⟨x, hx⟩ := Option.ne_none_iff_exists'.mp hrange
  refine ⟨x, ?_, Decimal.represents_of_read? hnumeral hx⟩
  rw [readNumber, Number.read?, hx]
  rfl

theorem number_tokens_read_sample :
    ∃ x : Decimal, readNumber .decimal "-12.50" = .ok (.decimal x) ∧
      x.Represents "-12.50".toList := by
  have htokens : tokens "n -1_2.50" =
      .ok [⟨.identifier, "n", ⟨1, 1⟩⟩, ⟨.number, "-12.50", ⟨1, 3⟩⟩, ⟨.endOfInput, "", ⟨1, 10⟩⟩] := by
    decide +kernel
  have hrange : ¬ Literal.OutOfRange "-12.50".toList .decimal := by
    rintro (hwhole | ⟨hwhole, -⟩)
    · revert hwhole
      decide +kernel
    · revert hwhole
      decide +kernel
  exact (number_tokens_read htokens (List.mem_cons_of_mem _ List.mem_cons_self) rfl).2.2.2 hrange

/-- Rounding the largest mantissa up costs a place. -/
example : (Decimal.read? "7.92281625142643375935439503355".toList).map (·.text) =
    some "7.922816251426433759354395034" := by decide +kernel

end CommandConsole
