import CommandConsole.Proofs.DecimalReading
import CommandConsole.Proofs.Parsing

/-!
# One line under several settings

Settings decide how numbers are held and whether nulls are arguments, and nothing else:
two readings of one line are alike (`CommandLine.parse_alike`). Of the precisions, decimal
reaches less far than single, and single less far than double, although the first has more
digits than the others; so a line that is read in one of them is read in those after it
(`CommandLine.parse_nested`).
-/

namespace CommandConsole

/-! ## Readings of one line -/

/-- Equal but for what is held in a number. -/
inductive Value.Alike : Value → Value → Prop where
  | number (m n : Number) : Alike (.number m) (.number n)
  | same {value : Value} (other : ∀ n, value ≠ .number n) : Alike value value

/-- Equal but for what is held in the numbers: arguments at the same place are alike. -/
structure CommandLine.Alike (line other : CommandLine) : Prop where
  command : line.command = other.command
  arguments : List.Forall₂ Value.Alike line.arguments other.arguments

variable {settings settings' : ParserSettings}

theorem Token.argument_alike {token : Token} {value value' : Value}
    (h : token.argument settings = .ok value) (h' : token.argument settings' = .ok value') :
    value.Alike value' := by
  obtain ⟨kind, text, position⟩ := token
  unfold Token.argument at h h'
  cases kind with
  | number =>
      obtain ⟨m, -, rfl⟩ := map_eq_ok.mp h
      obtain ⟨n, -, rfl⟩ := map_eq_ok.mp h'
      exact .number m n
  | string =>
      obtain rfl : value = value' := Except.ok.inj (h.symm.trans h')
      refine .same ?_
      rintro n rfl
      simp only at h
      split at h <;> exact absurd h (by simp)
  | nullWord =>
      simp only at h h'
      split at h
      · split at h'
        · obtain rfl := Except.ok.inj h
          obtain rfl := Except.ok.inj h'
          exact .same (by simp)
        · exact absurd h' (by simp)
      · exact absurd h (by simp)
  | identifier | trueWord | falseWord =>
      obtain rfl := Except.ok.inj h
      obtain rfl := Except.ok.inj h'
      exact .same (by simp)
  | endOfInput => exact absurd h (by simp)

theorem readArguments_alike {toks : List Token} {arguments arguments' : List Value}
    (h : readArguments settings toks = .ok arguments)
    (h' : readArguments settings' toks = .ok arguments') :
    List.Forall₂ Value.Alike arguments arguments' := by
  induction toks generalizing arguments arguments' with
  | nil =>
      obtain rfl := Except.ok.inj h
      obtain rfl := Except.ok.inj h'
      exact .nil
  | cons token toks ih =>
      by_cases hkind : token.kind = .endOfInput
      · rw [readArguments, if_pos hkind] at h h'
        obtain rfl := Except.ok.inj h
        obtain rfl := Except.ok.inj h'
        exact .nil
      · obtain ⟨value, rest, hvalue, hrest, rfl⟩ := (readArguments_cons_eq_ok hkind).mp h
        obtain ⟨value', rest', hvalue', hrest', rfl⟩ := (readArguments_cons_eq_ok hkind).mp h'
        exact .cons (Token.argument_alike hvalue hvalue') (ih hrest hrest')

theorem CommandLine.parse_alike {line : String} {parsed parsed' : CommandLine}
    (h : parse settings line = .ok parsed) (h' : parse settings' line = .ok parsed') :
    parsed.Alike parsed' := by
  obtain ⟨first, rest, htoks, -, hcommand, hread⟩ := tokens_of_parse h
  obtain ⟨first', rest', htoks', -, hcommand', hread'⟩ := tokens_of_parse h'
  obtain ⟨rfl, rfl⟩ := List.cons.inj (Except.ok.inj (htoks.symm.trans htoks'))
  exact ⟨hcommand.symm.trans hcommand', readArguments_alike hread hread'⟩

/-! ## Nested precisions -/

/-- `p` reaches no further than `q`: what it reads, `q` reads too. -/
def Precision.Within (p q : Precision) : Prop :=
  ∀ text, IsNumeral text → Literal.OutOfRange text q → Literal.OutOfRange text p

/-- A literal that no decimal is near is 2 ^ 96 or more, or next to it. -/
theorem Precision.decimal_within_single : Within .decimal .single := by
  intro text h hrange
  left
  have hborder : (2 : ℚ) ^ 127 ≤ Literal.magnitude text :=
    (Format.two_pow_le_limit .single).trans hrange
  obtain ⟨negative, w, f, hs, -⟩ := Literal.spelled_of_isNumeral h
  have hfraction := spelledBehind_lt_one hs.fraction_digits
  rw [hs.magnitude_eq] at hborder
  rw [hs.whole_eq]
  have hwhole : (2 : ℚ) ^ 127 < ((spelledBy w + 1 : Nat) : ℚ) := by
    push_cast
    linarith
  have hpow : 2 ^ 127 < spelledBy w + 1 := by exact_mod_cast hwhole
  have hbound : Decimal.mantissaBound ≤ 2 ^ 127 := by decide
  omega

theorem Precision.single_within_double : Within .single .double := by
  intro text _ hrange
  calc Format.single.limit ≤ 2 ^ Format.single.overflowExponent := Format.single.limit_lt.le
    _ ≤ 2 ^ (Format.double.overflowExponent - 1) := pow_le_pow_right₀ (by norm_num) (by decide)
    _ ≤ Format.double.limit := Format.double.two_pow_le_limit
    _ ≤ Literal.magnitude text := hrange

variable {p q : Precision} {allowNull : Bool}

theorem Token.argument_widen (within : p.Within q) {token : Token} {value : Value}
    (hlex : token.kind = .endOfInput ∨ IsLexeme token.kind token.text.toList)
    (h : token.argument ⟨p, allowNull⟩ = .ok value) :
    ∃ wide, token.argument ⟨q, allowNull⟩ = .ok wide := by
  obtain ⟨kind, text, position⟩ := token
  cases kind with
  | number =>
      have hnumeral : IsNumeral text.toList := hlex.resolve_left (by simp)
      obtain ⟨number, hread, -⟩ := map_eq_ok.mp h
      have hrange : ¬ Literal.OutOfRange text.toList q := by
        intro hrange
        rw [(readNumber_error_iff hnumeral p).mpr (within _ hnumeral hrange)] at hread
        exact absurd hread (by simp)
      rw [← Number.read?_eq_none hnumeral] at hrange
      obtain ⟨wide, hwide⟩ := Option.ne_none_iff_exists'.mp hrange
      refine ⟨.number wide, ?_⟩
      show (readNumber q text).map Value.number = _
      rw [readNumber, hwide]
      rfl
  | identifier | string | trueWord | falseWord | nullWord | endOfInput => exact ⟨value, h⟩

theorem readArguments_widen (within : p.Within q) {toks : List Token} {arguments : List Value}
    (hlex : ∀ token ∈ toks, token.kind = .endOfInput ∨ IsLexeme token.kind token.text.toList)
    (h : readArguments ⟨p, allowNull⟩ toks = .ok arguments) :
    ∃ wide, readArguments ⟨q, allowNull⟩ toks = .ok wide := by
  induction toks generalizing arguments with
  | nil => exact ⟨[], rfl⟩
  | cons token toks ih =>
      obtain ⟨htoken, htoks⟩ := List.forall_mem_cons.mp hlex
      by_cases hkind : token.kind = .endOfInput
      · exact ⟨[], if_pos hkind⟩
      · obtain ⟨value, rest, hvalue, hrest, -⟩ := (readArguments_cons_eq_ok hkind).mp h
        obtain ⟨wide, hwide⟩ := Token.argument_widen within htoken hvalue
        obtain ⟨wider, hwider⟩ := ih htoks hrest
        exact ⟨wide :: wider, (readArguments_cons_eq_ok hkind).mpr
          ⟨wide, wider, hwide, hwider, rfl⟩⟩

namespace CommandLine

theorem parse_widen (within : p.Within q) {line : String} {parsed : CommandLine}
    (h : parse ⟨p, allowNull⟩ line = .ok parsed) :
    ∃ wide, parse ⟨q, allowNull⟩ line = .ok wide := by
  obtain ⟨first, rest, htoks, hkind, -, hread⟩ := tokens_of_parse h
  have hlex := (List.forall_mem_cons.mp (isLexeme_of_mem_tokens htoks)).2
  obtain ⟨wide, hwide⟩ := readArguments_widen within hlex hread
  exact ⟨_, parse_of_tokens htoks hkind hwide⟩

/-- **Precisions are nested.** A line that is read with decimals is read in single
precision, and one that is read in single precision is read in double precision; and all
readings of a line are alike. -/
theorem parse_nested (allowNull : Bool) (line : String) :
    (∀ parsed, parse ⟨.decimal, allowNull⟩ line = .ok parsed →
      ∃ wide, parse ⟨.single, allowNull⟩ line = .ok wide) ∧
    (∀ parsed, parse ⟨.single, allowNull⟩ line = .ok parsed →
      ∃ wide, parse ⟨.double, allowNull⟩ line = .ok wide) ∧
    ∀ p q parsed parsed', parse ⟨p, allowNull⟩ line = .ok parsed →
      parse ⟨q, allowNull⟩ line = .ok parsed' → parsed.Alike parsed' := by
  refine ⟨?_, ?_, ?_⟩
  · intro parsed h
    exact parse_widen Precision.decimal_within_single h
  · intro parsed h
    exact parse_widen Precision.single_within_double h
  · intro p q parsed parsed' h h'
    exact parse_alike h h'

theorem parse_nested_sample :
    parse ⟨.decimal, true⟩ "a .5 null" =
        .ok ⟨"a", [.number (.decimal ⟨false, 5, 1, by decide, by decide⟩), .null]⟩ ∧
      ∃ wide wider, parse ⟨.single, true⟩ "a .5 null" = .ok wide ∧
        parse ⟨.double, true⟩ "a .5 null" = .ok wider ∧ wide.Alike wider := by
  obtain ⟨single_of_decimal, double_of_single, alike⟩ := parse_nested true "a .5 null"
  have hdecimal : parse ⟨.decimal, true⟩ "a .5 null" =
      .ok ⟨"a", [.number (.decimal ⟨false, 5, 1, by decide, by decide⟩), .null]⟩ := by
    decide +kernel
  obtain ⟨wide, hwide⟩ := single_of_decimal _ hdecimal
  obtain ⟨wider, hwider⟩ := double_of_single _ hwide
  exact ⟨hdecimal, wide, wider, hwide, hwider, alike _ _ _ _ hwide hwider⟩

/-- The converse fails at the largest mantissa. -/
example :
    parse ⟨.decimal, false⟩ "a 79228162514264337593543950335.5" =
        .error (.numberOutOfRange "79228162514264337593543950335.5" .decimal) ∧
      parse ⟨.single, false⟩ "a 79228162514264337593543950335.5" =
        .ok ⟨"a", [.number (.single ⟨false, 0x6f800000, by decide⟩)]⟩ := by
  decide +kernel

end CommandLine

end CommandConsole
