import CommandConsole.Demo
import CommandConsole.Proofs.Concatenation
import CommandConsole.Proofs.Parsing
import CommandConsole.Proofs.Sessions
import CommandConsole.Proofs.Sums

/-!
# The demonstration of adding

The line that adds two literals always calls the handler of the configured precision, and what the
handler prints is the sum wherever there is one. A sum that is out of reach is called an overflow
only where decimals are added; the binary precisions print it as an infinity, which is no number
that could be read.

Main result: `Demo.add_line`.
-/

namespace CommandConsole

/-! ## Lines of literals -/

/-- Behind a blank, a text has the tokens that it has on its own, but for their places. -/
theorem tokens_spaced {first second : String} {front toks : List Token} {last : Token}
    (hfirst : tokens first = .ok (front ++ [last])) (hsecond : tokens second = .ok toks) :
    ∃ later, tokens (first ++ " " ++ second) = .ok (front ++ later) ∧
      later.map Token.content = toks.map Token.content := by
  have apart : Apart (' ' :: second.toList) := by
    rintro c ⟨⟩
    exact isBlank_space
  obtain ⟨start, final, hsplit, -, hrun⟩ :=
    (scan_tokensFrom .start first.toList).resume apart hfirst
  obtain ⟨rfl, -⟩ := List.append_inj' hsplit rfl
  -- The first text is scanned as before, and the second one as it would be further on.
  have hshift := (scan_tokensFrom .start second.toList).shift (first.toList ++ [' ']) (Nat.le_refl 1)
  have hsame : tokensFrom .start 0 second.toList = .ok toks := hsecond
  rw [hsame, Position.shift_start, Position.advanceBy_append, Position.advanceBy_cons,
    Position.advanceBy_nil] at hshift
  have hline : (first ++ " " ++ second).toList = first.toList ++ ' ' :: second.toList := by simp
  refine ⟨toks.map (Token.shift (first.toList ++ [' '])), ?_, ?_⟩
  · rw [tokens, hline, hrun, tokensFrom_blank isBlank_space, hshift]
    rfl
  · rw [List.map_map]
    rfl

/-- `ReadsAs precision literal x`: the text is a number literal, and is read as the number. -/
def ReadsAs (precision : Precision) (literal : String) (x : Number) : Prop :=
  ∃ text start stop, tokens literal = .ok [⟨.number, text, start⟩, ⟨.endOfInput, "", stop⟩] ∧
    readNumber precision text = .ok x

namespace ReadsAs

variable {precision : Precision} {literal : String} {x : Number}

theorem read? (h : ReadsAs precision literal x) :
    ∃ text, IsNumeral text ∧ Number.read? precision text = some x := by
  obtain ⟨text, start, stop, htokens, hread⟩ := h
  refine ⟨text.toList, isNumeral_of_mem_tokens htokens List.mem_cons_self rfl, ?_⟩
  unfold readNumber at hread
  split at hread
  · obtain rfl := Except.ok.inj hread
    assumption
  · exact absurd hread (by simp)

theorem precision_eq (h : ReadsAs precision literal x) : x.precision = precision := by
  obtain ⟨text, -, hread⟩ := h.read?
  exact Number.precision_of_read? hread

theorem proper (h : ReadsAs precision literal x) : x.Proper := by
  obtain ⟨text, hnumeral, hread⟩ := h.read?
  exact Number.proper_of_read? hnumeral hread

/-- Behind a line, a literal gives one more token of its kind and text. -/
theorem tokens_behind (h : ReadsAs precision literal x) {line : String} {front : List Token}
    {last : Token} (hline : tokens line = .ok (front ++ [last])) :
    ∃ text start stop, tokens (line ++ " " ++ literal) =
        .ok (front ++ [⟨.number, text, start⟩] ++ [⟨.endOfInput, "", stop⟩]) ∧
      readNumber precision text = .ok x := by
  obtain ⟨text, start, stop, htokens, hread⟩ := h
  obtain ⟨later, hlater, hcontent⟩ := tokens_spaced hline htokens
  obtain ⟨number, rest, rfl, hnumber, hrest⟩ := List.map_eq_cons_iff.mp hcontent
  obtain ⟨ending, rest, rfl, hending, hrest⟩ := List.map_eq_cons_iff.mp hrest
  obtain rfl := List.map_eq_nil_iff.mp hrest
  obtain ⟨_, content, _⟩ := number
  obtain ⟨_, nothing, _⟩ := ending
  obtain ⟨rfl, htext⟩ := Prod.mk.inj hnumber
  obtain ⟨rfl, hnothing⟩ := Prod.mk.inj hending
  obtain rfl : content = text := String.toList_inj.mp htext
  obtain rfl : nothing = "" := String.toList_inj.mp hnothing
  exact ⟨content, _, _, by rw [hlater, List.append_assoc]; rfl, hread⟩

end ReadsAs

/-- A name with two literals behind it is read as the name with two numbers. -/
theorem parse_of_literals {settings : ParserSettings} {a b : String} {x y : Number}
    (hx : ReadsAs settings.precision a x) (hy : ReadsAs settings.precision b y) :
    CommandLine.parse settings ("add " ++ a ++ " " ++ b) = .ok ⟨"add", [.number x, .number y]⟩ := by
  have hadd : tokens "add" =
      .ok ([⟨.identifier, "add", ⟨1, 1⟩⟩] ++ [⟨.endOfInput, "", ⟨1, 4⟩⟩]) := by decide +kernel
  obtain ⟨first, _, _, hfirst, hread⟩ := hx.tokens_behind hadd
  obtain ⟨second, _, _, hsecond, hread'⟩ := hy.tokens_behind hfirst
  have hnumber : ∀ text start (z : Number), readNumber settings.precision text = .ok z →
      Token.argument settings ⟨.number, text, start⟩ = .ok (.number z) := fun text start z h =>
    map_eq_ok.mpr ⟨z, h, rfl⟩
  refine CommandLine.parse_of_tokens hsecond rfl ?_
  refine (readArguments_cons_eq_ok TokenKind.noConfusion).mpr
    ⟨_, _, hnumber _ _ x hread, ?_, rfl⟩
  exact (readArguments_cons_eq_ok TokenKind.noConfusion).mpr
    ⟨_, [], hnumber _ _ y hread', if_pos rfl, rfl⟩

namespace Demo

/-- What is printed for the sum of two numbers of one precision. -/
def sumText : Number → Number → String
  | .single x, .single y => (x.add y).text
  | .double x, .double y => (x.add y).text
  | .decimal x, .decimal y => decimalSum x y
  | _, _ => ""

def typeOf : Precision → ValueType
  | .single => .single
  | .double => .double
  | .decimal => .decimal

def adder (precision : Precision) : Command Host where
  name := "add"
  aliases := ["sum"]
  parameters := List.replicate 2 ⟨⟨typeOf precision, false⟩, false⟩
  helpText := some "Adds two numbers using the configured precision."
  handler := some (addHandler precision)

theorem exists_registry (rule : CaseRule) (precision : Precision) :
    ∃ registry, (Registry.empty rule precision).declareAll (declarations precision) = .ok registry ∧
      registry.position? "add" = some 2 ∧ registry.commands[2]? = some (adder precision) := by
  cases precision with
  | single | double | decimal =>
      cases rule with
      | sensitive | insensitive =>
          refine ⟨_, rfl, ?_, ?_⟩
          · decide +kernel
          · rfl

theorem adder_invocation {x y : Number} (h : x.Akin y) :
    ∃ invocation, (adder x.precision).invocation ⟨"add", [.number x, .number y]⟩ = .ok invocation ∧
      ∀ host, invocation.perform host = host.print (sumText x y) := by
  cases h with
  | single _ _ | double _ _ | decimal _ _ => exact ⟨_, rfl, fun _ => rfl⟩

/-- Executing a line that is read as two numbers to be added prints their sum. -/
theorem execute_add {settings : Settings} {line : String} {x y : Number} (h : x.Akin y)
    (hx : x.precision = settings.parser.precision)
    (hparse : CommandLine.parse settings.parser line = .ok ⟨"add", [.number x, .number y]⟩) :
    ∃ console, Demo.console settings = .ok console ∧
      execute console line = (.ok (), ⟨.capture console, sumText x y ++ "\n"⟩) := by
  obtain ⟨registry, hbuilt, hplace, hcommand⟩ :=
    exists_registry settings.caseRule settings.parser.precision
  obtain ⟨invocation, hcalls, hprints⟩ := adder_invocation h
  have hfind : registry.find? "add" = some (adder x.precision) := by
    rw [Registry.find?_eq_position?, hplace, hx]
    exact hcommand
  refine ⟨⟨settings.parser, registry⟩, map_eq_ok.mpr ⟨registry, hbuilt, rfl⟩, ?_⟩
  · refine Console.execute_eq_ok.mpr ⟨_, invocation, hparse, ?_, ?_⟩
    · rw [Registry.resolve_of_find? hfind]
      exact hcalls
    · rw [hprints]
      simp only [Host.print, String.empty_append]

/-! ## What is printed -/

/-- What stands for a sum that is out of reach: decimals have a word for it, and the binary
precisions an infinity. -/
def beyond (precision : Precision) (value : ℚ) : String :=
  if precision = .decimal then "overflow" else if value < 0 then "-inf" else "inf"

theorem add_text_cases {f : Format} (wide : 2 ≤ f.exponentBits) (x y : Binary f) :
    |x.value + y.value| < f.limit ∧
        (∃ sum, x.add y = .finite sum ∧ (x.add y).text = sum.text) ∨
      f.limit ≤ |x.value + y.value| ∧
        (x.add y).text = if x.value + y.value < 0 then "-inf" else "inf" := by
  rcases x.add_cases wide y with ⟨hless, sum, hsum⟩ | ⟨hle, hsum⟩
  · exact Or.inl ⟨hless, sum, hsum, congrArg Rounded.text hsum⟩
  · refine Or.inr ⟨hle, ?_⟩
    rw [hsum]
    by_cases hnegative : x.value + y.value < 0
    · rw [if_pos hnegative, decide_eq_true hnegative]
      rfl
    · rw [if_neg hnegative, decide_eq_false hnegative]
      rfl

theorem decimalSum_cases (x y : Decimal) :
    |x.value + y.value| < Decimal.reach ∧
        (∃ sum, x.add? y = some sum ∧ decimalSum x y = sum.text) ∨
      Decimal.reach ≤ |x.value + y.value| ∧ decimalSum x y = "overflow" := by
  have hreach := Decimal.add?_eq_none x y
  unfold decimalSum
  cases hsum : x.add? y with
  | none => exact Or.inr ⟨hreach.mp hsum, rfl⟩
  | some sum => exact Or.inl ⟨not_le.mp (mt hreach.mpr (by simp [hsum])), sum, rfl, rfl⟩

theorem sumText_cases {x y : Number} (h : x.Akin y) :
    |x.value + y.value| < x.precision.reach ∧ (∃ sum, x.IsSum y sum ∧ sumText x y = sum.text) ∨
      x.precision.reach ≤ |x.value + y.value| ∧
        sumText x y = beyond x.precision (x.value + y.value) := by
  cases h with
  | single x y =>
      rcases add_text_cases (by decide) x y with ⟨hless, sum, hsum, htext⟩ | hbeyond
      · exact Or.inl ⟨hless, _, .single hsum, htext⟩
      · exact Or.inr hbeyond
  | double x y =>
      rcases add_text_cases (by decide) x y with ⟨hless, sum, hsum, htext⟩ | hbeyond
      · exact Or.inl ⟨hless, _, .double hsum, htext⟩
      · exact Or.inr hbeyond
  | decimal x y =>
      rcases decimalSum_cases x y with ⟨hless, sum, hsum, htext⟩ | hbeyond
      · exact Or.inl ⟨hless, _, .decimal hsum, htext⟩
      · exact Or.inr hbeyond

theorem readNumber_sum {x y sum : Number} (h : x.IsSum y sum) (hx : x.Proper) (hy : y.Proper) :
    readNumber x.precision sum.text = .ok sum := by
  have hread := Number.read?_text (h.proper hx hy)
  rw [h.precision_eq] at hread
  simp only [readNumber, hread]

/-- What stands for a sum of a binary precision is no number of it, and not the word either. -/
theorem readNumber_beyond {precision : Precision} (binary : precision ≠ .decimal) (value : ℚ) :
    beyond precision value ≠ "overflow" ∧
      readNumber precision (beyond precision value) =
        .error (.numberOutOfRange (beyond precision value) precision) := by
  unfold beyond
  rw [if_neg binary]
  cases precision with
  | single | double => split <;> decide +kernel
  | decimal => exact absurd rfl binary

/-- **What adding two literals prints.** The line always calls the handler. A sum within the reach of
the precision is printed as a text that is read as the sum again. One that is out of reach is
called an overflow by the decimals alone: so what is printed is that word or a number for every
sum of decimals, and otherwise for the sums within reach and no others. -/
theorem add_line {settings : Settings} {a b : String} {x y : Number}
    (hx : ReadsAs settings.parser.precision a x) (hy : ReadsAs settings.parser.precision b y) :
    ∃ console printed, Demo.console settings = .ok console ∧
      execute console ("add " ++ a ++ " " ++ b) =
        (.ok (), ⟨.capture console, printed ++ "\n"⟩) ∧
      (|x.value + y.value| < settings.parser.precision.reach →
        ∃ sum, x.IsSum y sum ∧ printed = sum.text ∧
          readNumber settings.parser.precision printed = .ok sum) ∧
      (settings.parser.precision.reach ≤ |x.value + y.value| →
        printed = beyond settings.parser.precision (x.value + y.value)) ∧
      ((printed = "overflow" ∨
          ∃ number, readNumber settings.parser.precision printed = .ok number) ↔
        settings.parser.precision = .decimal ∨
          |x.value + y.value| < settings.parser.precision.reach) := by
  have akin := Number.akin_of_precision (hx.precision_eq.trans hy.precision_eq.symm)
  obtain ⟨console, hconsole, hexecute⟩ :=
    execute_add akin hx.precision_eq (parse_of_literals hx hy)
  refine ⟨console, sumText x y, hconsole, hexecute, ?_⟩
  rw [← hx.precision_eq]
  rcases sumText_cases akin with ⟨hless, sum, hsum, htext⟩ | ⟨hle, htext⟩
  · have hread : readNumber x.precision (sumText x y) = .ok sum := by
      rw [htext]
      exact readNumber_sum hsum hx.proper hy.proper
    refine ⟨fun _ => ⟨sum, hsum, htext, hread⟩, fun h => absurd hless (not_lt.mpr h), ?_⟩
    exact iff_of_true (Or.inr ⟨sum, hread⟩) (Or.inr hless)
  · refine ⟨fun h => absurd hle (not_le.mpr h), fun _ => htext, ?_⟩
    by_cases hdecimal : x.precision = .decimal
    · exact iff_of_true (Or.inl (htext.trans (if_pos hdecimal))) (Or.inl hdecimal)
    · obtain ⟨hword, hrefused⟩ := readNumber_beyond hdecimal (x.value + y.value)
      rw [← htext] at hword hrefused
      refine iff_of_false ?_ ?_
      · rintro (h | ⟨number, hnumber⟩)
        · exact hword h
        · rw [hrefused] at hnumber
          exact absurd hnumber (by simp)
      · rintro (h | h)
        · exact hdecimal h
        · exact absurd h (not_lt.mpr hle)

theorem add_line_three_halves :
    (∃ x, ReadsAs .single "1.5" x) ∧ (∃ y, ReadsAs .single "2" y) ∧
      (∃ console, Demo.console .default = .ok console ∧
        execute console "add 1.5 2" = (.ok (), ⟨.capture console, "3.5\n"⟩)) ∧
      ∃ sum, readNumber .single "3.5" = .ok sum := by
  let x : Binary .single := ⟨false, 0x3fc00000, by decide⟩
  let y : Binary .single := ⟨false, 0x40000000, by decide⟩
  have hx : ReadsAs .single "1.5" (.single x) :=
    ⟨"1.5", ⟨1, 1⟩, ⟨1, 4⟩, by decide +kernel, by decide +kernel⟩
  have hy : ReadsAs .single "2" (.single y) :=
    ⟨"2", ⟨1, 1⟩, ⟨1, 2⟩, by decide +kernel, by decide +kernel⟩
  have hless : |x.value + y.value| < Format.single.limit := by decide +kernel
  obtain ⟨console, printed, hconsole, hexecute, hwithin, -, -⟩ :=
    @add_line .default _ _ _ _ hx hy
  obtain ⟨sum, hsum, rfl, hread⟩ := hwithin hless
  have htext : sum.text = "3.5" := by
    cases hsum with
    | single h => exact (congrArg Rounded.text h).symm.trans (by decide +kernel)
  rw [htext] at hexecute hread
  exact ⟨⟨_, hx⟩, ⟨_, hy⟩, ⟨console, hconsole, hexecute⟩, sum, hread⟩

/-- Twice the largest single is printed as an infinity, which is neither the word for a sum that is
out of reach nor a number. -/
theorem infinity_printed :
    let largest := "340282346638528859811704183484516925440"
    (∃ x, ReadsAs .single largest x) ∧
      (∃ console, Demo.console .default = .ok console ∧
        execute console ("add " ++ largest ++ " " ++ largest) =
          (.ok (), ⟨.capture console, "inf\n"⟩)) ∧
      "inf" ≠ "overflow" ∧ readNumber .single "inf" = .error (.numberOutOfRange "inf" .single) := by
  intro largest
  let x : Binary .single := ⟨false, 0x7f7fffff, by decide⟩
  have hx : ReadsAs .single largest (.single x) :=
    ⟨largest, ⟨1, 1⟩, ⟨1, 40⟩, by decide +kernel, by decide +kernel⟩
  have hprinted : sumText (.single x) (.single x) = "inf" := by decide +kernel
  obtain ⟨console, hconsole, hexecute⟩ :=
    @execute_add .default _ _ _ (.single x x) rfl (parse_of_literals hx hx)
  rw [hprinted] at hexecute
  exact ⟨⟨_, hx⟩, ⟨console, hconsole, hexecute⟩, by decide, by decide +kernel⟩

end Demo

end CommandConsole
