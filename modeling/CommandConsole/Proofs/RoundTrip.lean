import CommandConsole.Proofs.Decimals
import CommandConsole.Proofs.Parsing
import CommandConsole.Proofs.Scanning
import CommandConsole.Proofs.StringLiterals

/-!
# Command lines and their texts

With decimal numbers a command line can be written down so that it is read
back, scales of numbers included. The lines for which this holds
(`CommandLine.WellFormed`) are exactly those that reading gives.

Main result: `CommandLine.round_trip`.
-/

namespace CommandConsole

/-- The arguments that reading gives with decimal numbers. That a mantissa has
96 bits and a scale 28 places is part of `Decimal`. -/
inductive Value.WellFormed (allowNull : Bool) : Value → Prop where
  | string {text : String} (quote : '"' ∉ text.toList) : WellFormed allowNull (.string text)
  | number {x : Decimal} (sign : x.negative = true → x.mantissa ≠ 0) :
      WellFormed allowNull (.number (.decimal x))
  | bool (value : Bool) : WellFormed allowNull (.bool value)
  | null (allowed : allowNull = true) : WellFormed allowNull .null
  | identifier {text : String} (name : IsIdentifier text.toList) :
      WellFormed allowNull (.identifier text)

structure CommandLine.WellFormed (allowNull : Bool) (line : CommandLine) : Prop where
  command : IsIdentifier line.command.toList
  arguments : ∀ value ∈ line.arguments, value.WellFormed allowNull

def Value.kind : Value → TokenKind
  | .string _ => .string
  | .number _ => .number
  | .bool true => .trueWord
  | .bool false => .falseWord
  | .null => .nullWord
  | .identifier _ => .identifier

def Value.spelling : Value → String
  | .string text => StringLiteral.quote text
  | .number value => value.text
  | .bool true => "true"
  | .bool false => "false"
  | .null => "null"
  | .identifier text => text

def renderArguments (arguments : List Value) : List Char :=
  arguments.flatMap fun value => ' ' :: value.spelling.toList

/-- A command line as text: the command, then one space and the spelling of
each argument. -/
def CommandLine.render (line : CommandLine) : String :=
  String.ofList (line.command.toList ++ renderArguments line.arguments)

/-! ## One argument -/

theorem readNumber_decimal {literal : String} {number : Number} :
    readNumber .decimal literal = .ok number ↔
      ∃ x, Decimal.read? (Number.normalize literal.toList) = some x ∧ .decimal x = number := by
  unfold readNumber Number.read?
  cases Decimal.read? (Number.normalize literal.toList) <;> simp

theorem Value.WellFormed.isLexeme {allowNull : Bool} {value : Value}
    (h : value.WellFormed allowNull) : IsLexeme value.kind value.spelling.toList := by
  cases h with
  | string hquote => exact StringLiteral.isQuotation_quote hquote
  | @number x _ => exact x.isNumeral_text
  | bool b => cases b <;> simp [Value.kind, Value.spelling, IsLexeme]
  | null _ => simp [Value.kind, Value.spelling, IsLexeme]
  | identifier hname => exact hname

theorem Value.WellFormed.argument {allowNull : Bool} {value : Value}
    (h : value.WellFormed allowNull) (p : Position) :
    Token.argument ⟨.decimal, allowNull⟩ ⟨value.kind, value.spelling, p⟩ = .ok value := by
  cases h with
  | @string text _ =>
      simp only [Value.kind, Value.spelling, Token.argument, StringLiteral.decode_quote]
  | @number x hsign =>
      have hread : readNumber .decimal x.text = .ok (.decimal x) :=
        readNumber_decimal.mpr ⟨x, Decimal.read?_text hsign, rfl⟩
      simp only [Value.kind, Value.spelling, Number.text, Token.argument, hread]
      rfl
  | bool b => cases b <;> rfl
  | null allowed =>
      subst allowed
      rfl
  | identifier _ => rfl

theorem wellFormed_of_argument {allowNull : Bool} {token : Token} {value : Value}
    (hlex : IsLexeme token.kind token.text.toList)
    (h : token.argument ⟨.decimal, allowNull⟩ = .ok value) : value.WellFormed allowNull := by
  obtain ⟨kind, text, position⟩ := token
  unfold Token.argument at h
  cases kind with
  | identifier =>
      obtain rfl := Except.ok.inj h
      exact .identifier hlex
  | string =>
      obtain ⟨decoded, hdecode, hquote⟩ := StringLiteral.decode_quotation hlex
      simp only [hdecode] at h
      obtain rfl := Except.ok.inj h
      exact .string hquote
  | number =>
      obtain ⟨number, hnumber, rfl⟩ := map_eq_ok.mp h
      obtain ⟨x, hread, rfl⟩ := readNumber_decimal.mp hnumber
      exact .number (Decimal.sign_of_read? hlex hread)
  | trueWord =>
      obtain rfl := Except.ok.inj h
      exact .bool true
  | falseWord =>
      obtain rfl := Except.ok.inj h
      exact .bool false
  | nullWord =>
      simp only at h
      split at h
      · obtain rfl := Except.ok.inj h
        exact .null ‹_›
      · exact absurd h (by simp)
  | endOfInput => exact absurd h (by simp)

/-! ## All arguments -/

theorem readArguments_wellFormed {allowNull : Bool} {toks : List Token} {arguments : List Value}
    (hlex : ∀ token ∈ toks, token.kind = .endOfInput ∨ IsLexeme token.kind token.text.toList)
    (h : readArguments ⟨.decimal, allowNull⟩ toks = .ok arguments) :
    ∀ value ∈ arguments, value.WellFormed allowNull := by
  intro value hvalue
  obtain ⟨token, htoken, hkind, hargument⟩ := mem_of_readArguments h value hvalue
  exact wellFormed_of_argument ((hlex token htoken).resolve_left hkind) hargument

/-- Texts with one space in front of each stand apart from what is before them. -/
theorem apart_spaced {α : Type} (text : α → List Char) (values : List α) :
    Apart (values.flatMap fun value => ' ' :: text value) := by
  intro c hc
  cases values with
  | nil => exact absurd hc (by simp)
  | cons value values =>
      obtain rfl : ' ' = c := by simpa using hc
      exact isBlank_space

theorem renderArguments_apart (arguments : List Value) : Apart (renderArguments arguments) :=
  apart_spaced _ arguments

theorem readArguments_render {allowNull : Bool} {arguments : List Value}
    (h : ∀ value ∈ arguments, value.WellFormed allowNull) (p : Position) :
    ∃ toks, tokensFrom p 0 (renderArguments arguments) = .ok toks ∧
      readArguments ⟨.decimal, allowNull⟩ toks = .ok arguments := by
  induction arguments generalizing p with
  | nil => exact ⟨[⟨.endOfInput, "", p⟩], rfl, rfl⟩
  | cons value arguments ih =>
      obtain ⟨hvalue, harguments⟩ := List.forall_mem_cons.mp h
      let start := p.advance ' '
      obtain ⟨toks, htoks, hread⟩ :=
        ih harguments (start.advanceBy value.spelling.toList)
      refine ⟨⟨value.kind, value.spelling, start⟩ :: toks, ?_, ?_⟩
      · rw [renderArguments, List.flatMap_cons, List.cons_append,
          tokensFrom_blank isBlank_space]
        change tokensFrom start 0 (value.spelling.toList ++ renderArguments arguments) = _
        rw [tokensFrom_text hvalue.isLexeme (renderArguments_apart _), htoks]
        rfl
      · have hkind : value.kind ≠ .endOfInput := by
          intro hend
          have := hvalue.isLexeme
          rw [hend] at this
          exact this
        rw [readArguments, if_neg hkind]
        simp only [hvalue.argument, hread]
        rfl

/-! ## Whole lines -/

namespace CommandLine

theorem wellFormed_of_parse {allowNull : Bool} {line : String} {parsed : CommandLine}
    (h : parse ⟨.decimal, allowNull⟩ line = .ok parsed) : parsed.WellFormed allowNull := by
  obtain ⟨first, rest, htoks, hkind, htext, hread⟩ := tokens_of_parse h
  obtain ⟨hfirst, hrest⟩ := List.forall_mem_cons.mp (isLexeme_of_mem_tokens htoks)
  rw [hkind, htext] at hfirst
  exact ⟨hfirst.resolve_left (by simp), readArguments_wellFormed hrest hread⟩

theorem parse_render {allowNull : Bool} {line : CommandLine} (h : line.WellFormed allowNull) :
    parse ⟨.decimal, allowNull⟩ line.render = .ok line := by
  obtain ⟨toks, htoks, hread⟩ :=
    readArguments_render h.arguments (Position.start.advanceBy line.command.toList)
  have hlex : IsLexeme .identifier line.command.toList := h.command
  have htokens : tokens line.render = .ok (⟨.identifier, line.command, .start⟩ :: toks) := by
    rw [tokens, render, String.toList_ofList, tokensFrom_text hlex (renderArguments_apart _),
      htoks]
    rfl
  exact parse_of_tokens htokens rfl hread

/-- **Reading and writing command lines.** With decimal numbers, and nulls allowed or
not, every line that is read is well-formed, and every well-formed line is read back
from its text. -/
theorem round_trip (allowNull : Bool) :
    (∀ (line : String) (parsed : CommandLine),
      parse ⟨.decimal, allowNull⟩ line = .ok parsed → parsed.WellFormed allowNull) ∧
    ∀ parsed : CommandLine, parsed.WellFormed allowNull →
      parse ⟨.decimal, allowNull⟩ parsed.render = .ok parsed :=
  ⟨fun _ _ h => wellFormed_of_parse h, fun _ h => parse_render h⟩

/-- A line with a backslash and a line feed in a string, a number with a zero at its
end, the smallest positive number, and a null. -/
def cornerCases : CommandLine where
  command := "x1"
  arguments := [.string "\\\n", .number (.decimal ⟨true, 150, 2, by decide, by decide⟩),
    .number (.decimal ⟨false, 1, 28, by decide, by decide⟩), .null]

theorem round_trip_cornerCases :
    parse ⟨.decimal, true⟩ cornerCases.render = .ok cornerCases ∧
      cornerCases.WellFormed true := by
  have hread := (round_trip true).2 cornerCases (by
    constructor
    · refine ⟨by simp [cornerCases], ?_, by simp [cornerCases], ?_⟩
      · simp [cornerCases, isNameChar_of_isAlpha, isNameChar_of_isDigit]
      · simp [cornerCases, IsKeyword, keywords]
    · intro value hvalue
      simp only [cornerCases, List.mem_cons, List.not_mem_nil, or_false] at hvalue
      rcases hvalue with rfl | rfl | rfl | rfl
      · exact .string (by simp)
      · exact .number (by simp)
      · exact .number (by simp)
      · exact .null rfl)
  exact ⟨hread, (round_trip true).1 _ _ hread⟩

end CommandLine

end CommandConsole
