import CommandConsole.Proofs.Parsing
import CommandConsole.Proofs.StringLiterals
import CommandConsole.Proofs.Tiling

/-!
# Refused lines

All that can be wrong with a line (`CommandLine.Refusal`). The lexer takes a string
only if it can be decoded, and any string that can (`StringLiteral.isQuotation_iff`),
so that no argument is refused for how it is quoted: what is left is a null where
none is allowed, and a number that its precision does not reach.

Main result: `CommandLine.quoting_screened`.
-/

namespace CommandConsole

theorem blank_of_tokens {line : String} {first : Token} {rest : List Token}
    (h : tokens line = .ok (first :: rest)) (ending : first.kind = .endOfInput) :
    ∀ c ∈ line.toList, Text.isBlank c = true := by
  obtain ⟨lead, pieces, hline, hlead, hpieces, htoks⟩ :=
    (scan_tokensFrom .start line.toList).tiles h
  cases pieces with
  | nil =>
      rw [hline]
      simpa [layout] using hlead
  | cons piece pieces =>
      obtain ⟨rfl, -⟩ := List.cons.inj htoks
      exact absurd ending (hpieces piece List.mem_cons_self).kind

theorem tokens_quotation {literal : String} (h : IsQuotation literal.toList) :
    tokens literal = .ok [⟨.string, literal, .start⟩,
      ⟨.endOfInput, "", .behind literal.toList⟩] := by
  have hlex : IsLexeme .string literal.toList := h
  exact tokens_lexeme hlex

/-- What is wrong with a token that stands for no argument. -/
inductive Token.Fault (settings : ParserSettings) (token : Token) : ParseError → Prop where
  | null (kind : token.kind = .nullWord) (forbidden : settings.allowNull = false) :
      Fault settings token (.nullNotAllowed token)
  | number (kind : token.kind = .number)
      (unread : Number.read? settings.precision token.text.toList = none) :
      Fault settings token (.numberOutOfRange token.text settings.precision)

/-- A lexeme is no argument if it is a null where none is allowed, or a number that is not
represented. -/
theorem IsLexeme.fault_of_argument {settings : ParserSettings} {token : Token}
    {error : ParseError} (lexeme : IsLexeme token.kind token.text.toList)
    (h : token.argument settings = .error error) : token.Fault settings error := by
  obtain ⟨kind, text, position⟩ := token
  unfold Token.argument at h
  cases kind with
  | nullWord =>
      simp only at h
      split at h
      · exact absurd h (by simp)
      · rename_i hnull
        obtain rfl := Except.error.inj h
        exact .null rfl (by simpa using hnull)
  | number =>
      have hread := map_eq_error.mp h
      unfold readNumber at hread
      split at hread
      · exact absurd hread (by simp)
      · obtain rfl := Except.error.inj hread
        exact .number rfl ‹_›
  | string =>
      obtain ⟨decoded, hdecode, -⟩ := StringLiteral.decode_quotation lexeme
      simp only [hdecode] at h
      exact absurd h (by simp)
  | endOfInput => exact lexeme.elim
  | identifier | trueWord | falseWord => exact absurd h (by simp)

/-! ## Refused lines -/

namespace CommandLine

/-- `Refusal settings line error`: what is wrong with the line, if it is refused with the
error. Of its arguments the first one that is refused counts. -/
inductive Refusal (settings : ParserSettings) (line : String) : ParseError → Prop where
  | empty (blank : ∀ c ∈ line.toList, Text.isBlank c = true) :
      Refusal settings line .emptyLine
  | lexical {error : LexError} (failed : tokens line = .error error) :
      Refusal settings line (.lexical error)
  | name {first : Token} {rest : List Token} (read : tokens line = .ok (first :: rest))
      (lexeme : IsLexeme first.kind first.text.toList) (other : first.kind ≠ .identifier) :
      Refusal settings line (.missingCommandName first)
  | argument {first token : Token} {before after : List Token} {error : ParseError}
      (read : tokens line = .ok (first :: (before ++ token :: after)))
      (name : first.kind = .identifier)
      (accepted : ∀ earlier ∈ before, ∃ value, earlier.argument settings = .ok value)
      (refused : token.Fault settings error) : Refusal settings line error

theorem refusal_of_parse {settings : ParserSettings} {line : String} {error : ParseError}
    (h : parse settings line = .error error) : Refusal settings line error := by
  unfold parse at h
  split at h
  · rename_i hblank
    obtain rfl := Except.error.inj h
    exact .empty (List.all_eq_true.mp hblank)
  · rename_i hblank
    split at h
    · rename_i failure hfailed
      obtain rfl := Except.error.inj h
      exact .lexical hfailed
    · rename_i toks htoks
      have hlex := isLexeme_of_mem_tokens htoks
      cases toks with
      | nil =>
          obtain ⟨front, last, hnil, -⟩ := (scan_tokensFrom .start line.toList).lexemes htoks
          exact absurd hnil (by simp)
      | cons first rest =>
          obtain ⟨hfirst, hrest⟩ := List.forall_mem_cons.mp hlex
          rw [ofTokens] at h
          split at h
          · rename_i hname
            obtain ⟨before, token, after, rfl, hbefore, hkind, hrefused⟩ :=
              first_of_readArguments (map_eq_error.mp h)
            have hlexeme := (hrest token (by simp)).resolve_left hkind
            exact .argument htoks hname (fun earlier hmem => (hbefore earlier hmem).2)
              (hlexeme.fault_of_argument hrefused)
          · rename_i hother
            obtain rfl := Except.error.inj h
            refine .name htoks (hfirst.resolve_left fun hend => hblank ?_) hother
            exact List.all_eq_true.mpr (blank_of_tokens htoks hend)

/-- **Quoting is screened.** A text is one string for the lexer exactly if it is a literal
for a text without quotes. So no line is refused for how an argument is quoted; none is said
to lack a name at its end; and it is said to be empty exactly if it is blank. -/
theorem quoting_screened :
    (∀ literal : String,
      tokens literal = .ok [⟨.string, literal, .start⟩,
        ⟨.endOfInput, "", .behind literal.toList⟩] ↔
      ∃ text, StringLiteral.decode literal = .ok text ∧ '"' ∉ text.toList) ∧
    ∀ (settings : ParserSettings) (line : String),
      (∀ error, parse settings line ≠ .error (.stringLiteral error)) ∧
      (∀ token, parse settings line = .error (.missingCommandName token) →
        token.kind ≠ .endOfInput) ∧
      (parse settings line = .error .emptyLine ↔
        ∀ c ∈ line.toList, Text.isBlank c = true) := by
  refine ⟨fun literal => ?_, fun settings line => ⟨?_, ?_, ?_, ?_⟩⟩
  · rw [← StringLiteral.isQuotation_iff]
    refine ⟨fun h => ?_, tokens_quotation⟩
    exact (isLexeme_of_mem_tokens h _ List.mem_cons_self).resolve_left (by simp)
  · intro error h
    cases refusal_of_parse h with
    | argument _ _ _ hfault => cases hfault
  · intro token h
    cases refusal_of_parse h with
    | name _ hlex _ =>
        intro hend
        rw [hend] at hlex
        exact hlex
    | argument _ _ _ hfault => cases hfault
  · intro h
    cases refusal_of_parse h with
    | empty hblank => exact hblank
    | argument _ _ _ hfault => cases hfault
  · intro hblank
    rw [parse, if_pos (List.all_eq_true.mpr hblank)]

/-- A quote that stands alone is decoded, but not read as one string. -/
theorem quoting_screened_sample :
    tokens "\"\\\\\\n\"" = .ok [⟨.string, "\"\\\\\\n\"", .start⟩, ⟨.endOfInput, "", ⟨1, 7⟩⟩] ∧
    tokens "\"a\"b\"" ≠ .ok [⟨.string, "\"a\"b\"", .start⟩, ⟨.endOfInput, "", ⟨1, 6⟩⟩] ∧
    parse .default " \t" = .error .emptyLine := by
  obtain ⟨hliteral, hparse⟩ := quoting_screened
  refine ⟨(hliteral _).mpr ⟨"\\\n", rfl, by decide⟩, fun h => ?_, ?_⟩
  · obtain ⟨text, hdecode, hquote⟩ := (hliteral "\"a\"b\"").mp h
    obtain rfl : text = "a\"b" := (Except.ok.inj hdecode).symm
    exact hquote (by decide)
  · exact (hparse .default " \t").2.2.mpr (List.all_eq_true.mp rfl)

end CommandLine

end CommandConsole
