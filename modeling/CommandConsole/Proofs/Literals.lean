import CommandConsole.Proofs.Decimals
import CommandConsole.Proofs.Overflow

/-!
# What a literal spells

A number lexeme is digits with a sign and a point, and its value is that of positional
notation (`Literal.value`), which says nothing of how it is read. Putting it in normal
form keeps the value (`Literal.value_normalize`), and a normal literal has the syntax of
every precision: in a binary format it is refused for its value alone
(`Binary.read?_numeral`).
-/

namespace CommandConsole

def spelledBy (digits : List Char) : Nat := Nat.ofDigitChars 10 digits 0

theorem ofDigitChars_eq (digits : List Char) (m : Nat) :
    Nat.ofDigitChars 10 digits m = m * 10 ^ digits.length + spelledBy digits := by
  rw [Nat.ofDigitChars_eq_ofDigitChars_zero, Nat.mul_comm]
  rfl

theorem spelledBy_append (front back : List Char) :
    spelledBy (front ++ back) = spelledBy front * 10 ^ back.length + spelledBy back := by
  rw [spelledBy, Nat.ofDigitChars_append, ofDigitChars_eq]
  rfl

theorem spelledBy_cons (c : Char) (digits : List Char) :
    spelledBy (c :: digits) =
      (c.toNat - '0'.toNat) * 10 ^ digits.length + spelledBy digits := by
  rw [spelledBy, Nat.ofDigitChars_cons, ofDigitChars_eq, Nat.mul_zero, Nat.zero_add]

theorem digit_le_nine {c : Char} (h : c.isDigit = true) : c.toNat - '0'.toNat ≤ 9 := by
  have hbounds := Char.isDigit_iff_toNat.mp h
  exact Nat.sub_le_sub_right hbounds.2 '0'.toNat

/-- The number that digits spell behind a point. -/
def spelledBehind (digits : List Char) : ℚ := spelledBy digits / 10 ^ digits.length

theorem spelledBehind_nil : spelledBehind [] = 0 := by
  simp [spelledBehind, spelledBy]

theorem spelledBehind_cons (c : Char) (digits : List Char) :
    spelledBehind (c :: digits) =
      (((c.toNat - '0'.toNat : Nat) : ℚ) + spelledBehind digits) / 10 := by
  rw [spelledBehind, spelledBehind, spelledBy_cons, List.length_cons]
  push_cast
  field_simp
  ring

theorem spelledBehind_nonneg (digits : List Char) : 0 ≤ spelledBehind digits := by
  unfold spelledBehind
  positivity

theorem spelledBehind_lt_one {digits : List Char} (h : ∀ c ∈ digits, c.isDigit = true) :
    spelledBehind digits < 1 := by
  induction digits with
  | nil =>
      rw [spelledBehind_nil]
      exact one_pos
  | cons c digits ih =>
      obtain ⟨hc, hdigits⟩ := List.forall_mem_cons.mp h
      have hnine : ((c.toNat - '0'.toNat : Nat) : ℚ) ≤ 9 := by exact_mod_cast digit_le_nine hc
      have hrest := ih hdigits
      rw [spelledBehind_cons, div_lt_one (by norm_num)]
      linarith

/-! ## Literals and their parts -/

namespace Literal

def whole (s : List Char) : List Char := (s.filter (· ≠ '-')).takeWhile (· ≠ '.')

def fraction (s : List Char) : List Char := (s.dropWhile (· ≠ '.')).tail

def magnitude (s : List Char) : ℚ := spelledBy (whole s) + spelledBehind (fraction s)

def value (s : List Char) : ℚ := if s.head? = some '-' then -magnitude s else magnitude s

/-- A literal with its point only where digits follow it. -/
def plain (negative : Bool) (whole fraction : List Char) : List Char :=
  Positional.signed negative (whole ++ if fraction = [] then [] else '.' :: fraction)

/-- A minus sign or none, digits, and perhaps a point and more digits. -/
def IsNormal (s : List Char) : Prop :=
  ∃ negative whole fraction, whole ≠ [] ∧ (∀ c ∈ whole ++ fraction, c.isDigit = true) ∧
    s = plain negative whole fraction

/-- `Spelled s negative w f`: the literal is written with these parts, and the point may be
missing where nothing follows it. -/
structure Spelled (s : List Char) (negative : Bool) (w f : List Char) : Prop where
  digits : ∀ c ∈ w ++ f, c.isDigit = true
  text : ∃ tail, s = Positional.signed negative (w ++ tail) ∧
    (tail = '.' :: f ∨ tail = [] ∧ f = [])

variable {s w f : List Char} {negative : Bool}

theorem spelled_plain (digits : ∀ c ∈ w ++ f, c.isDigit = true) :
    Spelled (plain negative w f) negative w f where
  digits := digits
  text := by
    refine ⟨_, rfl, ?_⟩
    by_cases hf : f = []
    · exact Or.inr ⟨if_pos hf, hf⟩
    · exact Or.inl (if_neg hf)

namespace Spelled

theorem whole_digits (h : Spelled s negative w f) : ∀ c ∈ w, c.isDigit = true :=
  fun c hc => h.digits c (List.mem_append_left f hc)

theorem fraction_digits (h : Spelled s negative w f) : ∀ c ∈ f, c.isDigit = true :=
  fun c hc => h.digits c (List.mem_append_right w hc)

theorem whole_eq (h : Spelled s negative w f) : whole s = w := by
  obtain ⟨tail, rfl, htail⟩ := h.text
  have hsign : ∀ c ∈ w ++ tail, c ≠ '-' := by
    intro c hc
    rcases List.mem_append.mp hc with hc | hc
    · exact ne_of_isDigit (h.whole_digits c hc) rfl
    · rcases htail with rfl | ⟨rfl, -⟩
      · rcases List.mem_cons.mp hc with rfl | hc
        · decide
        · exact ne_of_isDigit (h.fraction_digits c hc) rfl
      · exact absurd hc List.not_mem_nil
  have hfilter : (w ++ tail).filter (· ≠ '-') = w ++ tail :=
    List.filter_eq_self.mpr fun c hc => by simpa using hsign c hc
  have hunsigned : (Positional.signed negative (w ++ tail)).filter (· ≠ '-') = w ++ tail := by
    unfold Positional.signed
    split
    · rw [List.filter_cons_of_neg (by simp), hfilter]
    · exact hfilter
  have hpoint : ∀ c ∈ w, decide (c ≠ '.') = true := fun c hc => by
    simpa using ne_of_isDigit (h.whole_digits c hc) rfl
  rw [whole, hunsigned, List.takeWhile_append_of_pos hpoint]
  rcases htail with rfl | ⟨rfl, -⟩
  · rw [List.takeWhile_cons_of_neg (by simp), List.append_nil]
  · rw [List.takeWhile_nil, List.append_nil]

theorem fraction_eq (h : Spelled s negative w f) : fraction s = f := by
  obtain ⟨tail, rfl, htail⟩ := h.text
  have hpoint : ∀ c ∈ w, decide (c ≠ '.') = true := fun c hc => by
    simpa using ne_of_isDigit (h.whole_digits c hc) rfl
  have hdrop : (Positional.signed negative (w ++ tail)).dropWhile (· ≠ '.') =
      tail.dropWhile (· ≠ '.') := by
    unfold Positional.signed
    split
    · rw [List.dropWhile_cons_of_pos (by simp), List.dropWhile_append_of_pos hpoint]
    · rw [List.dropWhile_append_of_pos hpoint]
  rw [fraction, hdrop]
  rcases htail with rfl | ⟨rfl, rfl⟩
  · rw [List.dropWhile_cons_of_neg (by simp)]
    rfl
  · rfl

theorem head_eq (h : Spelled s negative w f) : s.head? = some '-' ↔ negative = true := by
  obtain ⟨tail, rfl, htail⟩ := h.text
  cases negative with
  | true => exact iff_of_true rfl rfl
  | false =>
      refine iff_of_false ?_ Bool.noConfusion
      show (w ++ tail).head? ≠ some '-'
      cases w with
      | cons c w =>
          have hc : c ≠ '-' := ne_of_isDigit (h.digits c List.mem_cons_self) rfl
          simpa using hc
      | nil =>
          rcases htail with rfl | ⟨rfl, -⟩
          · simp
          · simp

theorem magnitude_eq (h : Spelled s negative w f) :
    magnitude s = spelledBy w + spelledBehind f := by
  rw [magnitude, h.whole_eq, h.fraction_eq]

theorem value_eq (h : Spelled s negative w f) :
    value s = if negative = true then -magnitude s else magnitude s := by
  rw [value]
  simp only [h.head_eq]

/-- All digits, read as one number, are the magnitude without its point. -/
theorem magnitude_mul (h : Spelled s negative w f) :
    magnitude s * 10 ^ f.length = spelledBy (w ++ f) := by
  rw [h.magnitude_eq, spelledBy_append, spelledBehind]
  push_cast
  field_simp

end Spelled

theorem spelled_of_isNumeral (h : IsNumeral s) :
    ∃ negative w f, Spelled s negative w f ∧ w ++ f ≠ [] := by
  obtain ⟨body, hbody, hchars, hpoints⟩ := h.split
  obtain ⟨digit, hdigit, hd⟩ := h.digit
  have hmem : digit ∈ body := by
    rcases hbody with rfl | rfl
    · exact hdigit
    · rcases List.mem_cons.mp hdigit with rfl | hmem
      · exact Bool.noConfusion hd
      · exact hmem
  obtain ⟨negative, rfl⟩ : ∃ negative, s = Positional.signed negative body := by
    rcases hbody with rfl | rfl
    · exact ⟨false, rfl⟩
    · exact ⟨true, rfl⟩
  by_cases hpoint : '.' ∈ body
  · obtain ⟨w, f, rfl⟩ := List.append_of_mem hpoint
    rw [List.count_append, List.count_cons_self] at hpoints
    have hnone : ∀ part : List Char, part.count '.' = 0 → part ⊆ w ++ '.' :: f →
        ∀ c ∈ part, c.isDigit = true := by
      intro part hcount hsub c hc
      refine (hchars c (hsub hc)).resolve_right ?_
      rintro rfl
      exact List.count_eq_zero.mp hcount hc
    refine ⟨negative, w, f, ⟨?_, '.' :: f, rfl, Or.inl rfl⟩, ?_⟩
    · intro c hc
      rcases List.mem_append.mp hc with hc | hc
      · exact hnone w (by omega) (by simp) c hc
      · exact hnone f (by omega) (by intro d hd; simp [hd]) c hc
    · rintro hnil
      obtain ⟨rfl, rfl⟩ := List.append_eq_nil_iff.mp hnil
      obtain rfl := List.mem_singleton.mp hmem
      exact Bool.noConfusion hd
  · refine ⟨negative, body, [], ⟨?_, [], by simp, Or.inr ⟨rfl, rfl⟩⟩, ?_⟩
    · intro c hc
      rw [List.append_nil] at hc
      refine (hchars c hc).resolve_right ?_
      rintro rfl
      exact hpoint hc
    · rw [List.append_nil]
      exact List.ne_nil_of_mem hmem

/-! ## Normal form -/

/-- The digits in front of the point in normal form: at least a zero. -/
def wholeOrZero (w : List Char) : List Char := if w = [] then ['0'] else w

theorem wholeOrZero_ne_nil (w : List Char) : wholeOrZero w ≠ [] := by
  unfold wholeOrZero
  split
  · exact List.cons_ne_nil _ _
  · assumption

theorem spelledBy_wholeOrZero_append (w f : List Char) :
    spelledBy (wholeOrZero w ++ f) = spelledBy (w ++ f) := by
  unfold wholeOrZero
  split
  · subst w
    rfl
  · rfl

theorem wholeOrZero_digits (h : ∀ c ∈ w, c.isDigit = true) :
    ∀ c ∈ wholeOrZero w, c.isDigit = true := by
  unfold wholeOrZero
  split
  · simp
  · exact h

theorem Spelled.head_ne_minus (h : Spelled s false w f) : s.head? ≠ some '-' := by
  rw [Ne, h.head_eq]
  exact Bool.noConfusion

/-- Without its sign, a literal loses a point that no digit follows. -/
theorem Spelled.closed_eq (h : Spelled s false w f) (hne : w ++ f ≠ []) :
    (if s.getLast? = some '.' then s.dropLast else s) =
      w ++ if f = [] then [] else '.' :: f := by
  obtain ⟨tail, rfl, htail⟩ := h.text
  show (if (w ++ tail).getLast? = some '.' then (w ++ tail).dropLast else w ++ tail) = _
  by_cases hf : f = []
  · subst hf
    rw [if_pos rfl, List.append_nil]
    rcases htail with rfl | ⟨rfl, -⟩
    · rw [if_pos (by simp), List.dropLast_concat]
    · rw [List.append_nil] at hne ⊢
      refine if_neg ?_
      rw [List.getLast?_eq_getLast_of_ne_nil hne, Option.some_inj]
      exact ne_of_isDigit (h.whole_digits _ (List.getLast_mem hne)) rfl
  · obtain rfl : tail = '.' :: f := htail.resolve_right fun h => hf h.2
    rw [if_neg hf]
    refine if_neg ?_
    rw [List.getLast?_append_of_ne_nil _ (List.cons_ne_nil _ _), List.getLast?_cons_of_ne_nil hf,
      List.getLast?_eq_getLast_of_ne_nil hf, Option.some_inj]
    exact ne_of_isDigit (h.fraction_digits _ (List.getLast_mem hf)) rfl

/-- The point goes where no digit follows it, and a digit comes in front of it. -/
theorem Spelled.normalize_eq (h : Spelled s negative w f) (hne : w ++ f ≠ []) :
    Number.normalize s = plain negative (wholeOrZero w) f := by
  obtain ⟨tail, rfl, htail⟩ := h.text
  have hunsigned : Spelled (w ++ tail) false w f := ⟨h.digits, tail, rfl, htail⟩
  have hminus := hunsigned.head_ne_minus
  rw [Number.normalize_signed hminus, Number.normalize_unsigned hminus, plain]
  congr 1
  dsimp only
  rw [hunsigned.closed_eq hne]
  cases w with
  | nil =>
      have hf : f ≠ [] := hne
      rw [if_neg hf]
      rfl
  | cons c w =>
      have hc : c ≠ '.' := ne_of_isDigit (h.digits c List.mem_cons_self) rfl
      refine if_neg ?_
      rw [List.cons_append, List.head?_cons, Option.some_inj]
      exact hc

theorem Spelled.normalize (h : Spelled s negative w f) (hne : w ++ f ≠ []) :
    Spelled (Number.normalize s) negative (wholeOrZero w) f := by
  rw [h.normalize_eq hne]
  refine spelled_plain fun c hc => ?_
  rcases List.mem_append.mp hc with hc | hc
  · exact wholeOrZero_digits h.whole_digits c hc
  · exact h.fraction_digits c hc

theorem magnitude_normalize (h : IsNumeral s) : magnitude (Number.normalize s) = magnitude s := by
  obtain ⟨negative, w, f, hs, hne⟩ := spelled_of_isNumeral h
  have hpow : (10 : ℚ) ^ f.length ≠ 0 := by positivity
  apply mul_right_cancel₀ hpow
  rw [(hs.normalize hne).magnitude_mul, hs.magnitude_mul, spelledBy_wholeOrZero_append]

theorem value_normalize (h : IsNumeral s) : value (Number.normalize s) = value s := by
  obtain ⟨negative, w, f, hs, hne⟩ := spelled_of_isNumeral h
  rw [(hs.normalize hne).value_eq, hs.value_eq, magnitude_normalize h]

theorem isNormal_normalize (h : IsNumeral s) : IsNormal (Number.normalize s) := by
  obtain ⟨negative, w, f, hs, hne⟩ := spelled_of_isNumeral h
  exact ⟨negative, wholeOrZero w, f, wholeOrZero_ne_nil w, (hs.normalize hne).digits,
    hs.normalize_eq hne⟩

theorem readSign_plain (hne : w ≠ []) (hw : ∀ c ∈ w, c.isDigit = true) :
    readSign (plain negative w f) = (negative, w ++ if f = [] then [] else '.' :: f) := by
  obtain ⟨c, rest, rfl⟩ := List.exists_cons_of_ne_nil hne
  exact Decimal.readSign_signed ⟨c, rfl, hw c List.mem_cons_self⟩

end Literal

/-! ## Literals in a binary format -/

namespace Binary

variable {f : Format} {s : List Char}

theorem splitDigits_append {ds rest : List Char} (hds : ∀ c ∈ ds, c.isDigit = true)
    (hrest : ∀ c ∈ rest.head?, c.isDigit = false) : splitDigits (ds ++ rest) = (ds, rest) := by
  have hstop : rest.takeWhile Char.isDigit = [] ∧ rest.dropWhile Char.isDigit = rest := by
    cases rest with
    | nil => exact ⟨rfl, rfl⟩
    | cons c rest =>
        have hc : ¬ c.isDigit = true := by simpa using hrest c rfl
        exact ⟨List.takeWhile_cons_of_neg hc, List.dropWhile_cons_of_neg hc⟩
  rw [splitDigits, List.takeWhile_append_of_pos hds, List.dropWhile_append_of_pos hds,
    hstop.1, hstop.2, List.append_nil]

theorem read?_plain {negative : Bool} {whole fraction : List Char} (nonempty : whole ≠ [])
    (digits : ∀ c ∈ whole ++ fraction, c.isDigit = true) :
    read? f (Literal.plain negative whole fraction) =
      ofScientific f negative (spelledBy (whole ++ fraction)) (-fraction.length) := by
  have hwhole : ∀ c ∈ whole, c.isDigit = true :=
    fun c hc => digits c (List.mem_append_left fraction hc)
  have hfraction : ∀ c ∈ fraction, c.isDigit = true :=
    fun c hc => digits c (List.mem_append_right whole hc)
  have hsplit : splitDigits (whole ++ if fraction = [] then [] else '.' :: fraction) =
      (whole, if fraction = [] then [] else '.' :: fraction) := by
    refine splitDigits_append hwhole ?_
    split
    · simp
    · rintro c ⟨⟩
      rfl
  have htail : splitFraction (if fraction = [] then [] else '.' :: fraction) = (fraction, []) := by
    split
    · subst fraction
      rfl
    · have hall : splitDigits (fraction ++ []) = (fraction, []) :=
        splitDigits_append hfraction (by simp)
      rwa [List.append_nil] at hall
  have hsome : whole.isEmpty = false := by simpa using nonempty
  unfold read?
  rw [Literal.readSign_plain nonempty hwhole]
  simp only [hsplit, htail, hsome, Bool.false_and, Bool.false_eq_true, if_false, readExponent,
    Option.bind_some, zero_sub]
  rfl

/-- **What a binary format refuses.** A literal is refused for its value alone. -/
theorem read?_eq_none (wide : 2 ≤ f.exponentBits) (h : IsNumeral s) :
    read? f (Number.normalize s) = none ↔ f.limit ≤ Literal.magnitude s := by
  obtain ⟨negative, w, g, hs, hne⟩ := Literal.spelled_of_isNumeral h
  have hvalue : (spelledBy (w ++ g) : ℚ) * 10 ^ (-(g.length : Int)) = Literal.magnitude s := by
    rw [← hs.magnitude_mul, zpow_neg, zpow_natCast]
    field_simp
  rw [hs.normalize_eq hne, read?_plain (Literal.wholeOrZero_ne_nil w) (hs.normalize hne).digits,
    Literal.spelledBy_wholeOrZero_append, ofScientific_eq_none wide, hvalue]

end Binary

end CommandConsole
