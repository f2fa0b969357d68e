import CommandConsole.Proofs.Precisions
import CommandConsole.Proofs.Refusals

/-!
# What settings decide

A line has tokens and begins with a name, or not, whatever the settings are
(`CommandLine.parse_cases`). Settings come in only where its arguments are read one by
one, and there they can do no more than bar a null or a number (`Token.Barred`). So two
readings of a line fail alike in front of the arguments, or give alike arguments; and a
line with a fault among its arguments has the error of the leftmost one.

Main result: `CommandLine.parse_settings`.
-/

namespace CommandConsole

/-- An error that is about the line as such and not about an argument. -/
def ParseError.OfLine : ParseError → Prop
  | .lexical _ | .emptyLine | .missingCommandName _ => True
  | .nullNotAllowed _ | .stringLiteral _ | .numberOutOfRange _ _ => False

/-- A line is refused as such under all settings, or it begins with a name. -/
theorem CommandLine.parse_cases (line : String) :
    (∃ error : ParseError, error.OfLine ∧ ∀ settings, parse settings line = .error error) ∨
    ∃ first rest, tokens line = .ok (first :: rest) ∧ first.kind = .identifier := by
  unfold parse
  by_cases hblank : line.toList.all Text.isBlank = true
  · exact Or.inl ⟨.emptyLine, trivial, fun settings => if_pos hblank⟩
  · simp only [if_neg hblank]
    cases htoks : tokens line with
    | error failure => exact Or.inl ⟨.lexical failure, trivial, fun settings => rfl⟩
    | ok toks =>
        cases toks with
        | nil => exact Or.inl ⟨.emptyLine, trivial, fun settings => rfl⟩
        | cons first rest =>
            by_cases hname : first.kind = .identifier
            · exact Or.inr ⟨first, rest, rfl, hname⟩
            · exact Or.inl ⟨.missingCommandName first, trivial, fun settings => if_neg hname⟩

/-! ## Nulls -/

variable {settings : ParserSettings} {precision : Precision}

/-- Where nulls are no arguments, a token stands for what it stands for otherwise, but for
a null. -/
theorem Token.argument_strict {token : Token} {value : Value} :
    token.argument ⟨precision, false⟩ = .ok value ↔
      token.argument ⟨precision, true⟩ = .ok value ∧ value ≠ .null := by
  obtain ⟨kind, text, position⟩ := token
  unfold Token.argument
  cases kind with
  | string =>
      simp only
      cases StringLiteral.decode text with
      | ok decoded => simp +contextual [eq_comm]
      | error failure => simp
  | number =>
      simp only [map_eq_ok]
      constructor
      · rintro ⟨number, hread, rfl⟩
        exact ⟨⟨number, hread, rfl⟩, by simp⟩
      · exact And.left
  | nullWord => simp +contextual [eq_comm]
  | identifier | trueWord | falseWord => simp +contextual [eq_comm]
  | endOfInput => simp

theorem readArguments_strict {toks : List Token} {arguments : List Value} :
    readArguments ⟨precision, false⟩ toks = .ok arguments ↔
      readArguments ⟨precision, true⟩ toks = .ok arguments ∧ Value.null ∉ arguments := by
  induction toks generalizing arguments with
  | nil => simp +contextual [readArguments, eq_comm]
  | cons token toks ih =>
      by_cases hkind : token.kind = .endOfInput
      · simp +contextual [readArguments, hkind, eq_comm]
      · rw [readArguments_cons_eq_ok hkind, readArguments_cons_eq_ok hkind]
        constructor
        · rintro ⟨value, values, hvalue, hvalues, rfl⟩
          obtain ⟨hvalue, hne⟩ := Token.argument_strict.mp hvalue
          obtain ⟨hvalues, hnone⟩ := ih.mp hvalues
          exact ⟨⟨value, values, hvalue, hvalues, rfl⟩,
            List.not_mem_cons_of_ne_of_not_mem hne.symm hnone⟩
        · rintro ⟨⟨value, values, hvalue, hvalues, rfl⟩, hnone⟩
          obtain ⟨hne, hnone⟩ := List.ne_and_not_mem_of_not_mem_cons hnone
          exact ⟨value, values, Token.argument_strict.mpr ⟨hvalue, hne.symm⟩,
            ih.mpr ⟨hvalues, hnone⟩, rfl⟩

theorem CommandLine.parse_strict {line : String} {parsed : CommandLine} :
    parse ⟨precision, false⟩ line = .ok parsed ↔
      parse ⟨precision, true⟩ line = .ok parsed ∧ Value.null ∉ parsed.arguments := by
  rcases parse_cases line with ⟨error, -, hall⟩ | ⟨first, rest, htoks, name⟩
  · simp [hall]
  · rw [parse_of_name htoks name, parse_of_name htoks name, map_eq_ok, map_eq_ok]
    constructor
    · rintro ⟨arguments, hread, rfl⟩
      obtain ⟨hread, hnone⟩ := readArguments_strict.mp hread
      exact ⟨⟨arguments, hread, rfl⟩, hnone⟩
    · rintro ⟨⟨arguments, hread, rfl⟩, hnone⟩
      exact ⟨arguments, readArguments_strict.mpr ⟨hread, hnone⟩, rfl⟩

/-! ## The leftmost fault -/

/-- `token.Barred settings error`: the settings keep the token from being an argument, and
the error says why. Either it is a null where none is allowed, or its value is out of the
range of the precision. -/
inductive Token.Barred (settings : ParserSettings) (token : Token) : ParseError → Prop where
  | null (kind : token.kind = .nullWord) (forbidden : settings.allowNull = false) :
      Barred settings token (.nullNotAllowed token)
  | number (kind : token.kind = .number)
      (beyond : Literal.OutOfRange token.text.toList settings.precision) :
      Barred settings token (.numberOutOfRange token.text settings.precision)

theorem Token.Barred.kind_ne {token : Token} {error : ParseError}
    (h : token.Barred settings error) : token.kind ≠ .endOfInput := by
  intro hend
  cases h with
  | null kind _ => exact TokenKind.noConfusion (hend.symm.trans kind)
  | number kind _ => exact TokenKind.noConfusion (hend.symm.trans kind)

theorem Token.Barred.not_ofLine {token : Token} {error : ParseError}
    (h : token.Barred settings error) : ¬ error.OfLine := by
  cases h with
  | null => exact not_false
  | number => exact not_false

theorem IsLexeme.argument_eq_error {token : Token} {error : ParseError}
    (lexeme : IsLexeme token.kind token.text.toList) :
    token.argument settings = .error error ↔ token.Barred settings error := by
  constructor
  · intro h
    cases lexeme.fault_of_argument h with
    | null kind forbidden => exact .null kind forbidden
    | number kind unread =>
        rw [kind] at lexeme
        exact .number kind ((Number.read?_eq_none lexeme _).mp unread)
  · rintro (⟨kind, forbidden⟩ | ⟨kind, beyond⟩)
    · unfold Token.argument
      simp only [kind, forbidden, Bool.false_eq_true, if_false]
    · rw [kind] at lexeme
      unfold Token.argument
      simp only [kind, map_eq_error]
      exact (readNumber_error_iff lexeme _).mpr beyond

/-- `FirstBarred settings toks error`: of the tokens that are barred, the first one is barred
with this error. -/
def Token.FirstBarred (settings : ParserSettings) (toks : List Token) (error : ParseError) : Prop :=
  ∃ before token after, toks = before ++ token :: after ∧
    (∀ earlier ∈ before, ∀ other, ¬ Barred settings earlier other) ∧
    Barred settings token error

theorem Token.firstBarred_cons_of_barred {token : Token} {toks : List Token} {found : ParseError}
    (barred : token.Barred settings found) {error : ParseError} :
    FirstBarred settings (token :: toks) error ↔ token.Barred settings error := by
  constructor
  · rintro ⟨before, other, after, hsplit, hfree, hother⟩
    cases before with
    | nil =>
        obtain ⟨rfl, -⟩ := List.cons.inj hsplit
        exact hother
    | cons first before =>
        obtain ⟨rfl, -⟩ := List.cons.inj hsplit
        exact absurd barred (hfree token List.mem_cons_self found)
  · intro h
    exact ⟨[], token, toks, rfl, by simp, h⟩

theorem Token.firstBarred_cons_of_free {token : Token} {toks : List Token}
    (free : ∀ other, ¬ token.Barred settings other) {error : ParseError} :
    FirstBarred settings (token :: toks) error ↔ FirstBarred settings toks error := by
  constructor
  · rintro ⟨before, other, after, hsplit, hfree, hother⟩
    cases before with
    | nil =>
        obtain ⟨rfl, -⟩ := List.cons.inj hsplit
        exact absurd hother (free error)
    | cons first before =>
        obtain ⟨rfl, rfl⟩ := List.cons.inj hsplit
        exact ⟨before, other, after, rfl, (List.forall_mem_cons.mp hfree).2, hother⟩
  · rintro ⟨before, other, after, rfl, hfree, hother⟩
    exact ⟨token :: before, other, after, rfl, List.forall_mem_cons.mpr ⟨free, hfree⟩, hother⟩

theorem readArguments_eq_error {front : List Token} {last : Token} {error : ParseError}
    (lexemes : ∀ token ∈ front, IsLexeme token.kind token.text.toList)
    (ending : last.kind = .endOfInput) :
    readArguments settings (front ++ [last]) = .error error ↔
      Token.FirstBarred settings (front ++ [last]) error := by
  induction front with
  | nil =>
      have hlast : ∀ other, ¬ last.Barred settings other := fun other h => h.kind_ne ending
      rw [List.nil_append, Token.firstBarred_cons_of_free hlast, readArguments, if_pos ending]
      simp [Token.FirstBarred]
  | cons token front ih =>
      obtain ⟨hlexeme, hfront⟩ := List.forall_mem_cons.mp lexemes
      have hkind : token.kind ≠ .endOfInput := by
        intro hend
        rw [hend] at hlexeme
        exact hlexeme
      rw [List.cons_append, readArguments, if_neg hkind]
      cases hvalue : token.argument settings with
      | error found =>
          have hbarred := hlexeme.argument_eq_error.mp hvalue
          rw [Token.firstBarred_cons_of_barred hbarred, ← hlexeme.argument_eq_error, hvalue]
          show Except.error found = Except.error error ↔ _
          rw [Except.error.injEq, Except.error.injEq]
      | ok value =>
          have hfree : ∀ other, ¬ token.Barred settings other := by
            intro other hother
            rw [hlexeme.argument_eq_error.mpr hother] at hvalue
            exact absurd hvalue (by simp)
          show (readArguments settings (front ++ [last])).map (value :: ·) = _ ↔ _
          rw [map_eq_error, ih hfront, Token.firstBarred_cons_of_free hfree]

namespace CommandLine

/-- Of the arguments of a line, the leftmost barred one is reported. -/
theorem parse_eq_error {line : String} {first : Token} {rest : List Token} {error : ParseError}
    (htoks : tokens line = .ok (first :: rest)) (name : first.kind = .identifier) :
    parse settings line = .error error ↔ Token.FirstBarred settings rest error := by
  obtain ⟨front, last, hsplit, ending, -, hlex⟩ :=
    (scan_tokensFrom .start line.toList).lexemes htoks
  cases front with
  | nil =>
      obtain ⟨rfl, -⟩ := List.cons.inj hsplit
      exact TokenKind.noConfusion (name.symm.trans ending)
  | cons start front =>
      obtain ⟨rfl, rfl⟩ := List.cons.inj hsplit
      rw [parse_of_name htoks name, map_eq_error]
      exact readArguments_eq_error (List.forall_mem_cons.mp hlex).2 ending

/-- What is wrong with a line as such does not hang on the settings. -/
theorem parse_ofLine {line : String} {error : ParseError} (ofLine : error.OfLine)
    (settings settings' : ParserSettings) :
    parse settings line = .error error ↔ parse settings' line = .error error := by
  rcases parse_cases line with ⟨other, -, hall⟩ | ⟨first, rest, htoks, name⟩
  · rw [hall, hall]
  · have harguments : ∀ settings, ¬ Token.FirstBarred settings rest error := by
      rintro settings ⟨_, token, _, -, -, hbarred⟩
      exact hbarred.not_ofLine ofLine
    rw [parse_eq_error htoks name, parse_eq_error htoks name]
    exact iff_of_false (harguments settings) (harguments settings')

/-- **Settings decide on nulls and numbers, and on nothing else.** What is wrong with a line
as such is so under all settings; and if a line is read under two of them, the readings are
alike. Where nulls are no arguments, a line is read exactly if it is read otherwise and has
none. A line that begins with a name is refused for the leftmost token that the settings
keep from being an argument, and only then. -/
theorem parse_settings (line : String) :
    (∀ (settings settings' : ParserSettings) (error : ParseError), error.OfLine →
      (parse settings line = .error error ↔ parse settings' line = .error error)) ∧
    (∀ settings settings' parsed parsed', parse settings line = .ok parsed →
      parse settings' line = .ok parsed' → parsed.Alike parsed') ∧
    (∀ precision parsed, parse ⟨precision, false⟩ line = .ok parsed ↔
      parse ⟨precision, true⟩ line = .ok parsed ∧ Value.null ∉ parsed.arguments) ∧
    ∀ first rest, tokens line = .ok (first :: rest) → first.kind = .identifier →
      ∀ settings error, parse settings line = .error error ↔
        Token.FirstBarred settings rest error := by
  refine ⟨?_, ?_, ?_, ?_⟩
  · intro settings settings' error ofLine
    exact parse_ofLine ofLine settings settings'
  · intro settings settings' parsed parsed' h h'
    exact parse_alike h h'
  · intro precision parsed
    exact parse_strict
  · intro first rest htoks name settings error
    exact parse_eq_error htoks name

theorem parse_settings_sample :
    parse ⟨.decimal, true⟩ "1 null" = .error (.missingCommandName ⟨.number, "1", .start⟩) ∧
    parse ⟨.decimal, false⟩ "a null 79228162514264337593543950336" =
      .error (.nullNotAllowed ⟨.nullWord, "null", ⟨1, 3⟩⟩) ∧
    parse ⟨.decimal, true⟩ "a null 79228162514264337593543950336" =
      .error (.numberOutOfRange "79228162514264337593543950336" .decimal) ∧
    ∃ single double, parse ⟨.single, true⟩ "a null 79228162514264337593543950336" = .ok single ∧
      parse ⟨.double, true⟩ "a null 79228162514264337593543950336" = .ok double ∧
      single.Alike double ∧
      parse ⟨.single, false⟩ "a null 79228162514264337593543950336" ≠ .ok single := by
  obtain ⟨ofLine, -, -, -⟩ := parse_settings "1 null"
  obtain ⟨-, alike, strict, leftmost⟩ := parse_settings "a null 79228162514264337593543950336"
  have htoks : tokens "a null 79228162514264337593543950336" =
      .ok [⟨.identifier, "a", ⟨1, 1⟩⟩, ⟨.nullWord, "null", ⟨1, 3⟩⟩,
        ⟨.number, "79228162514264337593543950336", ⟨1, 8⟩⟩, ⟨.endOfInput, "", ⟨1, 37⟩⟩] := by
    decide +kernel
  refine ⟨?_, ?_, ?_, ?_⟩
  · have hsingle : parse ⟨.single, false⟩ "1 null" =
        .error (.missingCommandName ⟨.number, "1", .start⟩) := by decide +kernel
    refine (ofLine _ _ _ ?_).mp hsingle
    exact trivial
  · exact (leftmost _ _ htoks rfl _ _).mpr ⟨[], _, _, rfl, by simp, .null rfl rfl⟩
  · refine (leftmost _ _ htoks rfl _ _).mpr ⟨[_], _, _, rfl, ?_, .number rfl ?_⟩
    · intro earlier hearlier other hbarred
      rw [List.mem_singleton.mp hearlier] at hbarred
      cases hbarred with
      | null _ forbidden => exact Bool.noConfusion forbidden
      | number kind _ => exact TokenKind.noConfusion kind
    · left
      decide +kernel
  · have hsingle : parse ⟨.single, true⟩ "a null 79228162514264337593543950336" =
        .ok ⟨"a", [.null, .number (.single ⟨false, 0x6f800000, by decide⟩)]⟩ := by
      decide +kernel
    have hdouble : parse ⟨.double, true⟩ "a null 79228162514264337593543950336" =
        .ok ⟨"a", [.null, .number (.double ⟨false, 0x45f0000000000000, by decide⟩)]⟩ := by
      decide +kernel
    refine ⟨_, _, hsingle, hdouble, alike _ _ _ _ hsingle hdouble, fun hstrict => ?_⟩
    exact ((strict _ _).mp hstrict).2 List.mem_cons_self

end CommandLine

end CommandConsole
