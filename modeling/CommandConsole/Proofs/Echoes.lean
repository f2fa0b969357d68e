import CommandConsole.Proofs.Failures
import CommandConsole.Proofs.RoundTrip

/-!
# Lines as reports show them

A report shows a string with more escapes than a line may have. So a line that was read and
is shown in this form (`CommandLine.echo`) can be read again unless one of its strings has a
character with such an escape (`Text.EscapedForeign`): these are the characters that cannot
be seen, the line feed apart.

Main result (`CommandLine.parse_echo`): what is shown is read again, or the first of these
escapes is refused.
-/

namespace CommandConsole

/-- Shown by an escape that is none in a line, where a backslash is doubled and a line feed
written with the letter. -/
def Text.EscapedForeign (c : Char) : Prop :=
  quotedChar c ≠ [c] ∧ quotedChar c ≠ ['\\', '\\'] ∧ quotedChar c ≠ ['\\', 'n']

instance (c : Char) : Decidable (Text.EscapedForeign c) :=
  inferInstanceAs (Decidable (_ ∧ _ ∧ _))

def Value.Readable (value : Value) : Prop :=
  ∀ text, value = .string text → ∀ c ∈ text.toList, ¬ Text.EscapedForeign c

/-- Arguments as reports show them, with one space in front of each. -/
def showArguments (arguments : List Value) : List Char :=
  arguments.flatMap fun value => ' ' :: value.display.toList

/-- The command and its arguments as reports show them, with single spaces between them. -/
def CommandLine.echo (line : CommandLine) : String :=
  " ".intercalate (line.command :: line.arguments.map Value.display)

/-! ## One character -/

namespace Text

/-- What reports show of a character is what a line has for it, if it can be seen or is a line
feed, and otherwise an escape that a line cannot have. -/
theorem quotedChar_cases {c : Char} (quote : c ≠ '"') :
    ((c ≠ '\n' ∧ isPrintable c = false) ∧
      ∃ e rest, quotedChar c = '\\' :: e :: rest ∧ ¬ (e = '\\' ∨ e = 'n')) ∨
    (¬ (c ≠ '\n' ∧ isPrintable c = false) ∧ quotedChar c = StringLiteral.escapeChar c) := by
  by_cases hnul : c = '\x00'
  · subst hnul
    exact Or.inl ⟨by decide +kernel, '0', [], rfl, by decide⟩
  by_cases htab : c = '\t'
  · subst htab
    exact Or.inl ⟨by decide +kernel, 't', [], rfl, by decide⟩
  by_cases hreturn : c = '\r'
  · subst hreturn
    exact Or.inl ⟨by decide +kernel, 'r', [], rfl, by decide⟩
  by_cases hfeed : c = '\n'
  · subst hfeed
    exact Or.inr ⟨by simp, rfl⟩
  by_cases hback : c = '\\'
  · subst hback
    exact Or.inr ⟨by decide +kernel, rfl⟩
  rw [quotedChar, if_neg hnul, if_neg htab, if_neg hreturn, if_neg hfeed, if_neg quote,
    if_neg hback]
  cases hshown : isPrintable c with
  | true =>
      refine Or.inr ⟨by simp, ?_⟩
      rw [StringLiteral.escapeChar, if_neg hback, if_neg hfeed]
      rfl
  | false => exact Or.inl ⟨⟨hfeed, rfl⟩, 'u', _, rfl, by decide⟩

/-- The characters with an escape of their own are those that cannot be seen. -/
theorem escapedForeign_iff {c : Char} (quote : c ≠ '"') :
    EscapedForeign c ↔ c ≠ '\n' ∧ isPrintable c = false := by
  rcases quotedChar_cases quote with ⟨hhidden, e, rest, hescape, he⟩ | ⟨hshown, hsame⟩
  · refine iff_of_true ?_ hhidden
    rw [EscapedForeign, hescape]
    refine ⟨by simp, fun h => ?_, fun h => ?_⟩
    · exact he (Or.inl (List.cons.inj (List.cons.inj h).2).1)
    · exact he (Or.inr (List.cons.inj (List.cons.inj h).2).1)
  · refine iff_of_false ?_ hshown
    rintro ⟨hself, hback, hfeed⟩
    rw [hsame, StringLiteral.escapeChar] at hself hback hfeed
    split at hself
    · rename_i heq
      exact hback (if_pos heq)
    · rename_i hne
      split at hself
      · rename_i heq
        rw [if_neg hne, if_pos heq] at hfeed
        exact hfeed rfl
      · exact hself rfl

theorem quotedChar_of_readable {c : Char} (quote : c ≠ '"') (h : ¬ EscapedForeign c) :
    quotedChar c = StringLiteral.escapeChar c := by
  rcases quotedChar_cases quote with ⟨hhidden, -⟩ | ⟨-, hsame⟩
  · exact absurd ((escapedForeign_iff quote).mpr hhidden) h
  · exact hsame

theorem quotedChar_of_foreign {c : Char} (quote : c ≠ '"') (h : EscapedForeign c) :
    ∃ e rest, quotedChar c = '\\' :: e :: rest ∧ ¬ (e = '\\' ∨ e = 'n') := by
  rcases quotedChar_cases quote with ⟨-, hescape⟩ | ⟨hshown, -⟩
  · exact hescape
  · exact absurd ((escapedForeign_iff quote).mp h) hshown

theorem quoted_of_readable {text : String} (quote : '"' ∉ text.toList)
    (h : ∀ c ∈ text.toList, ¬ EscapedForeign c) : quoted text = StringLiteral.quote text := by
  have hbody : text.toList.flatMap quotedChar = StringLiteral.escape text.toList :=
    List.flatMap_congr fun c hc =>
      quotedChar_of_readable (fun he => quote (he ▸ hc)) (h c hc)
  rw [quoted, hbody]
  rfl

theorem broken_of_foreign {s : List Char} (quote : '"' ∉ s) (h : ∃ c ∈ s, EscapedForeign c)
    (rest : List Char) :
    ∃ body found, Broken (s.flatMap quotedChar ++ rest) (.invalidEscape body found) := by
  induction s with
  | nil => simp at h
  | cons c s ih =>
      have hne : c ≠ '"' := fun he => quote (he ▸ List.mem_cons_self)
      rw [List.flatMap_cons, List.append_assoc]
      by_cases hc : EscapedForeign c
      · obtain ⟨e, after, hescape, he⟩ := quotedChar_of_foreign hne hc
        rw [hescape]
        exact ⟨[], e, .escape .nil he⟩
      · -- What is in front of the first foreign escape is written as in a line.
        have hlater : ∃ d ∈ s, EscapedForeign d := by simpa [hc] using h
        obtain ⟨body, found, hbroken⟩ := ih (List.not_mem_of_not_mem_cons quote) hlater
        refine ⟨StringLiteral.escapeChar c ++ body, found, ?_⟩
        rw [quotedChar_of_readable hne hc]
        exact hbroken.continued (fun _ => StringLiteral.stringBody_escapeChar hne) rfl

end Text

/-! ## Arguments -/

theorem Value.WellFormed.display_of_readable {allowNull : Bool} {value : Value}
    (h : value.WellFormed allowNull) (readable : value.Readable) :
    value.display = value.spelling := by
  cases h with
  | @string text quote => exact Text.quoted_of_readable quote (readable text rfl)
  | number _ => rfl
  | bool b => cases b <;> rfl
  | null _ => rfl
  | identifier _ => rfl

/-- A string with a foreign escape is refused, whatever follows it. -/
theorem tokensFrom_foreign {text : String} (quote : '"' ∉ text.toList)
    (h : ∃ c ∈ text.toList, Text.EscapedForeign c) (p : Position) (rest : List Char) :
    ∃ found position, tokensFrom p 0 ((Text.quoted text).toList ++ rest) =
      .error (.invalidEscape found position) := by
  obtain ⟨body, found, hbroken⟩ := Text.broken_of_foreign quote h ('"' :: rest)
  have hshown : (Text.quoted text).toList ++ rest =
      '"' :: (text.toList.flatMap Text.quotedChar ++ '"' :: rest) := by
    simp [Text.quoted]
  have hfault : Lexeme.stringTail.continued ['"']
      (Lexeme.stringTail (text.toList.flatMap Text.quotedChar ++ '"' :: rest)) =
        .error (.invalidEscape ('"' :: body) found) := by
    rw [hbroken.stringTail]
    rfl
  rw [hshown]
  exact ⟨found, _, tokensFrom_fault isBlank_quote (read?_eq_error.mpr ⟨rfl, hfault⟩)⟩

theorem showArguments_apart (arguments : List Value) : Apart (showArguments arguments) :=
  apart_spaced _ arguments

theorem showArguments_readable {allowNull : Bool} {arguments : List Value}
    (h : ∀ value ∈ arguments, value.WellFormed allowNull)
    (readable : ∀ value ∈ arguments, value.Readable) :
    showArguments arguments = renderArguments arguments := by
  refine List.flatMap_congr fun value hvalue => ?_
  rw [(h value hvalue).display_of_readable (readable value hvalue)]

/-- The lexer comes to the first argument that is not readable, and fails in it. -/
theorem tokensFrom_showArguments {allowNull : Bool} {arguments : List Value}
    (h : ∀ value ∈ arguments, value.WellFormed allowNull)
    (foreign : ∃ value ∈ arguments, ¬ value.Readable) (p : Position) :
    ∃ found position, tokensFrom p 0 (showArguments arguments) =
      .error (.invalidEscape found position) := by
  induction arguments generalizing p with
  | nil => simp at foreign
  | cons value arguments ih =>
      obtain ⟨hvalue, harguments⟩ := List.forall_mem_cons.mp h
      let start := p.advance ' '
      have hbehind : tokensFrom p 0 (showArguments (value :: arguments)) =
          tokensFrom start 0 (value.display.toList ++ showArguments arguments) :=
        tokensFrom_blank isBlank_space _
      rw [hbehind]
      by_cases hreadable : value.Readable
      · have hlater : ∃ later ∈ arguments, ¬ later.Readable := by simpa [hreadable] using foreign
        obtain ⟨found, position, herror⟩ :=
          ih harguments hlater (start.advanceBy value.spelling.toList)
        refine ⟨found, position, ?_⟩
        rw [hvalue.display_of_readable hreadable,
          tokensFrom_text hvalue.isLexeme (showArguments_apart _), herror]
        rfl
      · rw [Value.Readable] at hreadable
        push Not at hreadable
        obtain ⟨text, rfl, hforeign⟩ := hreadable
        cases hvalue with
        | string quote => exact tokensFrom_foreign quote hforeign start _

/-! ## Whole lines -/

/-- Texts joined by spaces have one in front of each but the first. -/
theorem toList_joined (first : String) (rest : List String) :
    (" ".intercalate (first :: rest)).toList =
      first.toList ++ rest.flatMap fun text => ' ' :: text.toList := by
  induction rest generalizing first with
  | nil => simp
  | cons second rest ih =>
      rw [String.intercalate_cons_cons, String.toList_append, String.toList_append, ih,
        List.flatMap_cons]
      simp

namespace CommandLine

theorem toList_echo (line : CommandLine) :
    line.echo.toList = line.command.toList ++ showArguments line.arguments := by
  rw [echo, toList_joined, List.flatMap_map]
  rfl

theorem WellFormed.parse_echo_of_readable {allowNull : Bool} {line : CommandLine}
    (h : line.WellFormed allowNull) (readable : ∀ value ∈ line.arguments, value.Readable) :
    parse ⟨.decimal, allowNull⟩ line.echo = .ok line := by
  have hsame : line.echo = line.render := by
    rw [← String.toList_inj, toList_echo, showArguments_readable h.arguments readable, render,
      String.toList_ofList]
  rw [hsame]
  exact parse_render h

theorem WellFormed.parse_echo_of_foreign {allowNull : Bool} {line : CommandLine}
    (h : line.WellFormed allowNull) (foreign : ∃ value ∈ line.arguments, ¬ value.Readable) :
    ∃ found position, parse ⟨.decimal, allowNull⟩ line.echo =
      .error (.lexical (.invalidEscape found position)) := by
  have hlex : IsLexeme .identifier line.command.toList := h.command
  obtain ⟨found, position, herror⟩ := tokensFrom_showArguments h.arguments foreign
    (Position.start.advanceBy line.command.toList)
  refine ⟨found, position, parse_of_tokens_error ?_⟩
  rw [tokens, toList_echo, tokensFrom_text hlex (showArguments_apart _), herror]
  rfl

/-- **What can be seen is read again.** With decimal numbers, nulls allowed or not, a line that
was read and is shown as in reports, its arguments behind single spaces, is read as the same line
again exactly if no string in it has a character with an escape that lines do not have. In every
other case the shown line is refused for an escape. The characters in question are those that
cannot be seen, but not the line feed. -/
theorem parse_echo {allowNull : Bool} {line : String} {parsed : CommandLine}
    (h : parse ⟨.decimal, allowNull⟩ line = .ok parsed) :
    (parse ⟨.decimal, allowNull⟩ parsed.echo = .ok parsed ↔
      ∀ text, Value.string text ∈ parsed.arguments →
        ∀ c ∈ text.toList, ¬ Text.EscapedForeign c) ∧
    (parse ⟨.decimal, allowNull⟩ parsed.echo ≠ .ok parsed →
      ∃ found position, parse ⟨.decimal, allowNull⟩ parsed.echo =
        .error (.lexical (.invalidEscape found position))) ∧
    ∀ text, Value.string text ∈ parsed.arguments → ∀ c ∈ text.toList,
      (Text.EscapedForeign c ↔ c ≠ '\n' ∧ Text.isPrintable c = false) := by
  have hwell := wellFormed_of_parse h
  have hall : (∀ text, Value.string text ∈ parsed.arguments →
      ∀ c ∈ text.toList, ¬ Text.EscapedForeign c) ↔
        ∀ value ∈ parsed.arguments, value.Readable :=
    ⟨fun hfree _ hvalue text htext => hfree text (htext ▸ hvalue),
      fun hreadable text htext => hreadable _ htext text rfl⟩
  have hhidden : ∀ text, Value.string text ∈ parsed.arguments → ∀ c ∈ text.toList,
      (Text.EscapedForeign c ↔ c ≠ '\n' ∧ Text.isPrintable c = false) := by
    intro text htext c hc
    cases hwell.arguments _ htext with
    | string quote => exact Text.escapedForeign_iff fun he => quote (he ▸ hc)
  rw [hall]
  by_cases hreadable : ∀ value ∈ parsed.arguments, value.Readable
  · have hread := hwell.parse_echo_of_readable hreadable
    exact ⟨iff_of_true hread hreadable, fun hnot => absurd hread hnot, hhidden⟩
  · have hforeign : ∃ value ∈ parsed.arguments, ¬ value.Readable := by
      push Not at hreadable
      exact hreadable
    obtain ⟨found, position, herror⟩ := hwell.parse_echo_of_foreign hforeign
    refine ⟨iff_of_false ?_ hreadable, fun _ => ⟨found, position, herror⟩, hhidden⟩
    rw [herror]
    simp

/-- A string with a line feed and an accented letter, and one with a tab: the first is shown in
the form that lines have, of the second the escape is refused. -/
theorem parse_echo_sample :
    parse ⟨.decimal, false⟩ "say \"é\nb\" TRUE" = .ok ⟨"say", [.string "é\nb", .bool true]⟩ ∧
    echo ⟨"say", [.string "é\nb", .bool true]⟩ = "say \"é\\nb\" true" ∧
    parse ⟨.decimal, false⟩ (echo ⟨"say", [.string "é\nb", .bool true]⟩) =
      .ok ⟨"say", [.string "é\nb", .bool true]⟩ ∧
    parse ⟨.decimal, false⟩ "say \"\t\"" = .ok ⟨"say", [.string "\t"]⟩ ∧
    ∃ found position, parse ⟨.decimal, false⟩ (echo ⟨"say", [.string "\t"]⟩) =
      .error (.lexical (.invalidEscape found position)) := by
  have hseen : parse ⟨.decimal, false⟩ "say \"é\nb\" TRUE" =
      .ok ⟨"say", [.string "é\nb", .bool true]⟩ := by
    decide +kernel
  have htab : parse ⟨.decimal, false⟩ "say \"\t\"" = .ok ⟨"say", [.string "\t"]⟩ := by
    decide +kernel
  refine ⟨hseen, by decide +kernel, (parse_echo hseen).1.mpr ?_, htab,
    (parse_echo htab).2.1 fun hread => ?_⟩
  · intro text htext c hc
    obtain rfl : text = "é\nb" := by simpa using htext
    obtain rfl | rfl | rfl : c = 'é' ∨ c = '\n' ∨ c = 'b' := by simpa using hc
    · decide +kernel
    · decide +kernel
    · decide +kernel
  · exact (parse_echo htab).1.mp hread "\t" (by simp) '\t' (by simp) (by decide +kernel)

end CommandLine

end CommandConsole
