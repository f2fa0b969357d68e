import CommandConsole.CommandLine
import CommandConsole.Proofs.Results
import CommandConsole.Proofs.Scanning

/-!
# What a command line is read from

A line that is read begins with the token of its name, and each of its arguments
is what some further token stands for. In particular all of its numbers are held
in the precision of the settings.
-/

namespace CommandConsole

theorem readArguments_cons_eq_ok {settings : ParserSettings} {token : Token} {toks : List Token}
    {arguments : List Value} (hkind : token.kind ≠ .endOfInput) :
    readArguments settings (token :: toks) = .ok arguments ↔
      ∃ value values, token.argument settings = .ok value ∧
        readArguments settings toks = .ok values ∧ arguments = value :: values := by
  rw [readArguments, if_neg hkind]
  cases token.argument settings with
  | error error => simp
  | ok value =>
      show (readArguments settings toks).map (value :: ·) = .ok arguments ↔ _
      rw [map_eq_ok]
      simp [eq_comm]

theorem mem_of_readArguments {settings : ParserSettings} {toks : List Token}
    {arguments : List Value} (h : readArguments settings toks = .ok arguments) :
    ∀ value ∈ arguments, ∃ token ∈ toks, token.kind ≠ .endOfInput ∧
      token.argument settings = .ok value := by
  induction toks generalizing arguments with
  | nil =>
      obtain rfl := Except.ok.inj h
      simp
  | cons token toks ih =>
      intro value hmem
      by_cases hkind : token.kind = .endOfInput
      · rw [readArguments, if_pos hkind] at h
        obtain rfl := Except.ok.inj h
        exact absurd hmem List.not_mem_nil
      · obtain ⟨first, rest, hfirst, hrest, rfl⟩ := (readArguments_cons_eq_ok hkind).mp h
        rcases List.mem_cons.mp hmem with rfl | hmem
        · exact ⟨token, List.mem_cons_self, hkind, hfirst⟩
        · obtain ⟨later, hlater, hargument⟩ := ih hrest value hmem
          exact ⟨later, List.mem_cons_of_mem _ hlater, hargument⟩

/-- Arguments that are refused have the error of the first token that stands for none. -/
theorem first_of_readArguments {settings : ParserSettings} {toks : List Token}
    {error : ParseError} (h : readArguments settings toks = .error error) :
    ∃ before token after, toks = before ++ token :: after ∧
      (∀ earlier ∈ before, earlier.kind ≠ .endOfInput ∧
        ∃ value, earlier.argument settings = .ok value) ∧
      token.kind ≠ .endOfInput ∧ token.argument settings = .error error := by
  induction toks with
  | nil => exact absurd h (by simp [readArguments])
  | cons token toks ih =>
      rw [readArguments] at h
      split at h
      · exact absurd h (by simp)
      · rename_i hkind
        split at h
        · rename_i hargument
          obtain rfl := Except.error.inj h
          exact ⟨[], token, toks, rfl, by simp, hkind, hargument⟩
        · rename_i value hvalue
          obtain ⟨before, refused, after, rfl, hbefore, hrefused⟩ := ih (map_eq_error.mp h)
          exact ⟨token :: before, refused, after, rfl,
            List.forall_mem_cons.mpr ⟨⟨hkind, value, hvalue⟩, hbefore⟩, hrefused⟩

theorem CommandLine.tokens_of_parse {settings : ParserSettings} {line : String}
    {parsed : CommandLine} (h : CommandLine.parse settings line = .ok parsed) :
    ∃ first rest, tokens line = .ok (first :: rest) ∧ first.kind = .identifier ∧
      first.text = parsed.command ∧ readArguments settings rest = .ok parsed.arguments := by
  unfold parse at h
  split at h
  · exact absurd h (by simp)
  · split at h
    · exact absurd h (by simp)
    · rename_i toks htoks
      cases toks with
      | nil => exact absurd h (by simp [ofTokens])
      | cons first rest =>
          rw [ofTokens] at h
          split at h
          · rename_i hkind
            obtain ⟨arguments, hread, rfl⟩ := map_eq_ok.mp h
            exact ⟨first, rest, htoks, hkind, rfl, hread⟩
          · exact absurd h (by simp)

theorem tokens_of_blank {line : String} (h : line.toList.all Text.isBlank = true) :
    ∃ last, tokens line = .ok [last] ∧ last.kind = .endOfInput := by
  have hrun := tokensFrom_blanks (List.all_eq_true.mp h) .start []
  rw [List.append_nil] at hrun
  exact ⟨_, hrun, rfl⟩

/-- A line that begins with an identifier is what its arguments are. -/
theorem CommandLine.parse_of_name {line : String} {first : Token} {rest : List Token}
    (htoks : tokens line = .ok (first :: rest)) (hkind : first.kind = .identifier)
    (settings : ParserSettings) :
    CommandLine.parse settings line =
      (readArguments settings rest).map fun arguments => ⟨first.text, arguments⟩ := by
  have hblank : ¬ line.toList.all Text.isBlank = true := by
    intro hblank
    obtain ⟨last, hlast, hend⟩ := tokens_of_blank hblank
    obtain ⟨rfl, -⟩ := List.cons.inj (Except.ok.inj (htoks.symm.trans hlast))
    exact TokenKind.noConfusion (hkind.symm.trans hend)
  rw [parse, if_neg hblank, htoks]
  show ofTokens settings (first :: rest) = _
  rw [ofTokens, if_pos hkind]

theorem CommandLine.parse_of_tokens {settings : ParserSettings} {line : String} {first : Token}
    {rest : List Token} {arguments : List Value} (htoks : tokens line = .ok (first :: rest))
    (hkind : first.kind = .identifier) (hread : readArguments settings rest = .ok arguments) :
    CommandLine.parse settings line = .ok ⟨first.text, arguments⟩ := by
  rw [parse_of_name htoks hkind, hread]
  rfl

theorem CommandLine.parse_of_tokens_error {settings : ParserSettings} {line : String}
    {error : LexError} (h : tokens line = .error error) :
    CommandLine.parse settings line = .error (.lexical error) := by
  have hblank : ¬ line.toList.all Text.isBlank = true := by
    intro hblank
    obtain ⟨last, hlast, -⟩ := tokens_of_blank hblank
    exact absurd (hlast.symm.trans h) (by simp)
  rw [parse, if_neg hblank, h]

/-! ## The precision of numbers -/

/-- A number is held in `precision`; other values are free. -/
def Value.Precise (precision : Precision) (value : Value) : Prop :=
  ∀ number, value = .number number → number.precision = precision

theorem Number.precision_of_read? {precision : Precision} {literal : List Char}
    {number : Number} (h : Number.read? precision literal = some number) :
    number.precision = precision := by
  cases precision with
  | single | double | decimal =>
      obtain ⟨value, -, rfl⟩ := Option.map_eq_some_iff.mp h
      rfl

theorem Token.precise_of_argument {settings : ParserSettings} {token : Token} {value : Value}
    (h : token.argument settings = .ok value) : value.Precise settings.precision := by
  intro number hnumber
  subst hnumber
  obtain ⟨kind, text, position⟩ := token
  unfold Token.argument at h
  cases kind with
  | number =>
      obtain ⟨read, hread, hsame⟩ := map_eq_ok.mp h
      obtain rfl := Value.number.inj hsame
      unfold readNumber at hread
      split at hread
      · rename_i found hfound
        obtain rfl := Except.ok.inj hread
        exact Number.precision_of_read? hfound
      · exact absurd hread (by simp)
  | string =>
      simp only at h
      split at h <;> exact absurd h (by simp)
  | nullWord =>
      simp only at h
      split at h <;> exact absurd h (by simp)
  | identifier | trueWord | falseWord | endOfInput => exact absurd h (by simp)

theorem CommandLine.precise_of_parse {settings : ParserSettings} {line : String}
    {parsed : CommandLine} (h : CommandLine.parse settings line = .ok parsed) :
    ∀ value ∈ parsed.arguments, value.Precise settings.precision := by
  intro value hvalue
  obtain ⟨first, rest, -, -, -, hread⟩ := tokens_of_parse h
  obtain ⟨token, -, -, hargument⟩ := mem_of_readArguments hread value hvalue
  exact Token.precise_of_argument hargument

end CommandConsole
