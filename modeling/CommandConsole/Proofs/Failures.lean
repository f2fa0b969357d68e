import CommandConsole.Proofs.Concatenation

/-!
# Lines without tokens

A line has no tokens because of one place in it. The lexer comes to that place through
blanks and lexemes (`Passed`), and there it finds no lexeme: nothing that a lexeme could
begin with, or a string that is not closed, or an escape in a string that is none
(`LexError.At`). The error says which, and where.

Main result: `tokens_error_iff`.
-/

namespace CommandConsole

/-! ## Strings that are none -/

/-- What keeps a text from closing the string that it is in. -/
inductive Broken : List Char → StringFault → Prop where
  | ended {body : List Char} (escapes : StringBody body) : Broken body .unterminated
  | cut {body : List Char} (escapes : StringBody body) :
      Broken (body ++ ['\\']) .unterminated
  | escape {body after : List Char} {found : Char} (escapes : StringBody body)
      (wrong : ¬ (found = '\\' ∨ found = 'n')) :
      Broken (body ++ '\\' :: found :: after) (.invalidEscape body found)

theorem continued_eq_error {front : List Char} {r : Except StringFault (List Char)}
    {fault : StringFault} :
    Lexeme.stringTail.continued front r = .error fault ↔
      ∃ inner, r = .error inner ∧
        Lexeme.stringTail.continued front (.error inner) = .error fault := by
  cases r with
  | ok text => simp [Lexeme.stringTail.continued]
  | error inner => simp

theorem Broken.continued {front s : List Char} {inner fault : StringFault}
    (h : Broken s inner)
    (escape : ∀ body, StringBody body → StringBody (front ++ body))
    (hfault : Lexeme.stringTail.continued front (.error inner) = .error fault) :
    Broken (front ++ s) fault := by
  cases h with
  | ended escapes =>
      obtain rfl := Except.error.inj hfault
      exact .ended (escape _ escapes)
  | cut escapes =>
      obtain rfl := Except.error.inj hfault
      rw [← List.append_assoc]
      exact .cut (escape _ escapes)
  | escape escapes wrong =>
      obtain rfl := Except.error.inj hfault
      rw [← List.append_assoc]
      exact .escape (escape _ escapes) wrong

theorem broken_of_stringTail {s : List Char} {fault : StringFault}
    (h : Lexeme.stringTail s = .error fault) : Broken s fault := by
  fun_induction Lexeme.stringTail s generalizing fault with
  | case1 =>
      obtain rfl := Except.error.inj h
      exact .ended .nil
  | case2 => exact absurd h (by simp)
  | case3 =>
      obtain rfl := Except.error.inj h
      exact .cut .nil
  | case4 e rest he _ ih =>
      obtain ⟨inner, hinner, hfault⟩ := continued_eq_error.mp h
      have escape : ∀ body, StringBody body → StringBody (['\\', e] ++ body) := by
        intro body hbody
        rcases he with rfl | rfl
        · exact .backslash hbody
        · exact .lineFeed hbody
      exact (ih hinner).continued escape hfault
  | case5 e rest he =>
      obtain rfl := Except.error.inj h
      exact .escape .nil he
  | case6 c rest quote backslash ih =>
      obtain ⟨inner, hinner, hfault⟩ := continued_eq_error.mp h
      exact (ih hinner).continued (fun body hbody => .plain quote backslash hbody) hfault

theorem Broken.stringTail {s : List Char} {fault : StringFault} (h : Broken s fault) :
    Lexeme.stringTail s = .error fault := by
  cases h with
  | ended escapes =>
      have htail := stringTail_body escapes []
      rw [List.append_nil] at htail
      exact htail
  | cut escapes => exact stringTail_body escapes ['\\']
  | @escape body after found escapes wrong =>
      rw [stringTail_body escapes, stringTail_broken wrong, Lexeme.stringTail.continued,
        List.append_nil]

theorem read?_eq_none {c : Char} {rest : List Char} :
    Lexeme.read? (c :: rest) = .ok none ↔
      isNameChar c = false ∧ c ≠ '"' ∧ Lexeme.number? (c :: rest) = none := by
  by_cases hquote : c = '"'
  · subst hquote
    rw [read?_quote, Lexeme.string?, if_pos rfl]
    split <;> simp
  · have hstring : Lexeme.string? (c :: rest) = .ok none :=
      string?_unquoted (by simpa using hquote)
    by_cases hname : isNameChar c = true
    · -- What begins with a name character is a keyword, a number or an identifier.
      have hsome : Lexeme.read? (c :: rest) ≠ .ok none := by
        by_cases hkey : IsKeyword ((c :: rest).takeWhile isNameChar)
        · obtain ⟨kind, hkind, hlex⟩ := isKeyword_iff.mp hkey
          rw [read?_keyword hkind hlex]
          simp
        · rw [read?_of_no_keyword hkey, hstring]
          cases Lexeme.number? (c :: rest) with
          | some number => simp
          | none => simp [Lexeme.identifier?, hname]
      simp [hsome, hname]
    · have hkey : ¬ IsKeyword ((c :: rest).takeWhile isNameChar) := by
        rw [List.takeWhile_cons_of_neg hname]
        decide
      rw [read?_of_no_keyword hkey, hstring]
      cases Lexeme.number? (c :: rest) with
      | some number => simp
      | none => simp [Lexeme.identifier?, hname, hquote]

/-- Only what begins with a quote is refused, for what comes behind the quote. -/
theorem read?_eq_error {c : Char} {rest : List Char} {fault : StringFault} :
    Lexeme.read? (c :: rest) = .error fault ↔
      c = '"' ∧ Lexeme.stringTail.continued ['"'] (Lexeme.stringTail rest) = .error fault := by
  by_cases hquote : c = '"'
  · subst hquote
    rw [read?_quote, Lexeme.string?, if_pos rfl]
    cases Lexeme.stringTail rest with
    | ok text => simp [Lexeme.stringTail.continued]
    | error inner => cases inner <;> simp [Lexeme.stringTail.continued]
  · refine iff_of_false ?_ (fun h => hquote h.1)
    have hstring : Lexeme.string? (c :: rest) = .ok none :=
      string?_unquoted (by simpa using hquote)
    by_cases hkey : IsKeyword ((c :: rest).takeWhile isNameChar)
    · obtain ⟨kind, hkind, hlex⟩ := isKeyword_iff.mp hkey
      rw [read?_keyword hkind hlex]
      simp
    · rw [read?_of_no_keyword hkey, hstring]
      cases Lexeme.number? (c :: rest) <;> simp

/-- `Passed before rest`: in a text that goes on with `rest`, the lexer comes to it through
`before`, which is blanks and the lexemes that it reads there. -/
inductive Passed : (before rest : List Char) → Prop where
  | here (rest : List Char) : Passed [] rest
  | blank {c : Char} {before rest : List Char} (blank : Text.isBlank c = true)
      (next : Passed before rest) : Passed (c :: before) rest
  | lexeme {written before rest : List Char} {lexeme : Lexeme}
      (start : ∀ c ∈ written.head?, Text.isBlank c = false)
      (read : Lexeme.read? (written ++ (before ++ rest)) = .ok (some lexeme))
      (width : lexeme.width = written.length) (next : Passed before rest) :
      Passed (written ++ before) rest

theorem Passed.tokensFrom_error {before rest : List Char} (h : Passed before rest)
    (p : Position) {error : LexError}
    (failed : tokensFrom (p.advanceBy before) 0 rest = .error error) :
    tokensFrom p 0 (before ++ rest) = .error error := by
  induction h generalizing p with
  | here rest => exact failed
  | blank hblank _ ih =>
      rw [List.cons_append, tokensFrom_blank hblank]
      exact ih (p.advance _) failed
  | @lexeme written before rest lexeme hstart hread hwidth _ ih =>
      rw [Position.advanceBy_append] at failed
      rw [List.append_assoc,
        tokensFrom_lexeme (ne_nil_of_read? hread hwidth) hstart hread hwidth,
        ih (p.advanceBy written) failed]
      rfl

/-! ## What is wrong there -/

/-- `error.At before rest`: what is wrong at the beginning of `rest`, with the text `before`
in front of it. Escapes are told apart from the left: a backslash that an escape ends with
begins none. -/
inductive LexError.At (before rest : List Char) : LexError → Prop where
  | unexpected {found after : List Char} (split : rest = found ++ after)
      (nonempty : found ≠ []) (free : ∀ c ∈ found, Text.isBlank c = false)
      (stop : Apart after) (start : ∀ c ∈ rest.head?, isNameChar c = false ∧ c ≠ '"')
      (number : Lexeme.number? rest = none) :
      At before rest (.unexpectedCharacters (String.ofList found) (.behind before))
  | unterminated {body : List Char} (escapes : StringBody body)
      (split : rest = '"' :: body ∨ rest = '"' :: (body ++ ['\\'])) :
      At before rest (.unterminatedString (.behind before))
  | invalidEscape {body after : List Char} {found : Char} (escapes : StringBody body)
      (split : rest = '"' :: (body ++ '\\' :: found :: after))
      (wrong : found ≠ '\\' ∧ found ≠ 'n') :
      At before rest (.invalidEscape found (.behind (before ++ '"' :: body)))

theorem Position.behind_append (front s : List Char) :
    behind (front ++ s) = (behind front).advanceBy s := by
  rw [← advanceBy_start, advanceBy_append, advanceBy_start]

theorem LexError.at_of_unexpected {before rest : List Char} {c : Char}
    (start : Text.isBlank c = false) (read : Lexeme.read? (c :: rest) = .ok none) :
    LexError.At before (c :: rest) (.unexpectedCharacters
      (String.ofList ((c :: rest).takeWhile fun d => !Text.isBlank d)) (.behind before)) := by
  obtain ⟨hname, hquote, hnumber⟩ := read?_eq_none.mp read
  refine .unexpected List.takeWhile_append_dropWhile.symm ?_ ?_ ?_ ?_ hnumber
  · rw [List.takeWhile_cons_of_pos (by simp [start])]
    exact List.cons_ne_nil _ _
  · intro d hd
    simpa using List.mem_takeWhile_imp hd
  · intro d hd
    have hstop := List.head?_dropWhile_not (fun d => !Text.isBlank d) (c :: rest)
    rw [Option.mem_def.mp hd] at hstop
    simpa using hstop
  · intro d hd
    obtain rfl := Option.some.inj hd
    exact ⟨hname, hquote⟩

theorem LexError.at_of_fault {before rest : List Char} {c : Char} {fault : StringFault}
    (read : Lexeme.read? (c :: rest) = .error fault) :
    LexError.At before (c :: rest) (.ofStringFault (.behind before) fault) := by
  obtain ⟨rfl, hstring⟩ := read?_eq_error.mp read
  obtain ⟨inner, htail, hfault⟩ := continued_eq_error.mp hstring
  cases broken_of_stringTail htail with
  | ended escapes =>
      obtain rfl := Except.error.inj hfault
      exact .unterminated escapes (Or.inl rfl)
  | cut escapes =>
      obtain rfl := Except.error.inj hfault
      exact .unterminated escapes (Or.inr rfl)
  | escape escapes wrong =>
      obtain rfl := Except.error.inj hfault
      rw [LexError.ofStringFault, ← Position.behind_append]
      exact .invalidEscape escapes rfl (not_or.mp wrong)

theorem Scan.located {p : Position} {s : List Char} {r : Except LexError (List Token)}
    (h : Scan p s r) : ∀ {front : List Char} {error : LexError}, p = .behind front →
      r = .error error → ∃ before c rest, s = before ++ c :: rest ∧ Passed before (c :: rest) ∧
        Text.isBlank c = false ∧ error.At (front ++ before) (c :: rest) := by
  induction h with
  | done => exact fun _ h => absurd h (by simp)
  | @blank p c tail r hblank _ ih =>
      intro front error hp h
      have hnext : p.advance c = .behind (front ++ [c]) := by
        rw [Position.behind_snoc, hp]
      obtain ⟨before, d, rest, rfl, hpassed, hd, hat⟩ := ih hnext h
      rw [List.append_assoc] at hat
      exact ⟨c :: before, d, rest, rfl, .blank hblank hpassed, hd, hat⟩
  | @lexeme p written tail lexeme r hstart hread hwidth _ ih =>
      intro front error hp h
      have hnext : p.advanceBy written = .behind (front ++ written) := by
        rw [Position.behind_append, hp]
      obtain ⟨before, d, rest, rfl, hpassed, hd, hat⟩ := ih hnext (map_eq_error.mp h)
      rw [List.append_assoc] at hat
      exact ⟨written ++ before, d, rest, by simp, .lexeme hstart hread hwidth hpassed, hd, hat⟩
  | @unexpected p c tail hstart hread =>
      intro front error hp h
      obtain rfl := Except.error.inj h
      subst hp
      refine ⟨[], c, tail, rfl, .here _, hstart, ?_⟩
      rw [List.append_nil]
      exact LexError.at_of_unexpected hstart hread
  | @fault p c tail fault hstart hread =>
      intro front error hp h
      obtain rfl := Except.error.inj h
      subst hp
      refine ⟨[], c, tail, rfl, .here _, hstart, ?_⟩
      rw [List.append_nil]
      exact LexError.at_of_fault hread

theorem LexError.At.tokensFrom {before rest : List Char} {error : LexError} {c : Char}
    (h : error.At before (c :: rest)) (start : Text.isBlank c = false) :
    tokensFrom (.behind before) 0 (c :: rest) = .error error := by
  have hstring : ∀ {inner fault}, Broken rest inner →
      Lexeme.stringTail.continued ['"'] (.error inner) = .error fault → c = '"' →
      CommandConsole.tokensFrom (.behind before) 0 (c :: rest) =
        .error (.ofStringFault (.behind before) fault) := by
    intro inner fault hbroken hfault hquote
    refine tokensFrom_fault start (read?_eq_error.mpr ⟨hquote, ?_⟩)
    rw [hbroken.stringTail, hfault]
  cases h with
  | @unexpected found after split nonempty free stop hstart number =>
      obtain ⟨hname, hquote⟩ := hstart c rfl
      have hfound : found = (c :: rest).takeWhile fun d => !Text.isBlank d := by
        rw [split, takeWhile_append_stop (fun d hd => by rw [stop d hd]; rfl),
          List.takeWhile_eq_self_iff.mpr (fun d hd => by rw [free d hd]; rfl)]
      rw [hfound]
      exact tokensFrom_unexpected start (read?_eq_none.mpr ⟨hname, hquote, number⟩)
  | @unterminated body escapes split =>
      rcases split with split | split
      · obtain ⟨rfl, rfl⟩ := List.cons.inj split
        exact hstring (.ended escapes) rfl rfl
      · obtain ⟨rfl, rfl⟩ := List.cons.inj split
        exact hstring (.cut escapes) rfl rfl
  | @invalidEscape body after found escapes split wrong =>
      obtain ⟨rfl, rfl⟩ := List.cons.inj split
      rw [Position.behind_append]
      exact hstring (.escape escapes (not_or.mpr wrong)) rfl rfl

/-- **Errors are located.** A line fails with an error exactly if blanks and lexemes lead to
a rest, not blank at its start, where that error is found: no lexeme begins so; or a string
begins there and is not closed; or in a string that begins there, before it is closed, stands
a backslash with a character that makes no escape. The place is told by what is in front of
the rest, and for an escape by what is in front of its backslash. -/
theorem tokens_error_iff {line : String} {error : LexError} :
    tokens line = .error error ↔
      ∃ before c rest, line.toList = before ++ c :: rest ∧ Passed before (c :: rest) ∧
        Text.isBlank c = false ∧ error.At before (c :: rest) := by
  constructor
  · intro h
    have hstart : Position.start = .behind [] := rfl
    exact (scan_tokensFrom .start line.toList).located hstart h
  · rintro ⟨before, c, rest, hline, hpassed, hstart, hat⟩
    rw [tokens, hline]
    refine hpassed.tokensFrom_error .start ?_
    rw [Position.advanceBy_start]
    exact hat.tokensFrom hstart

/-- The second backslash of the line belongs to the first, the third stands alone. -/
example : tokens "a \"b\n\\\\c\\d" = .error (.invalidEscape 'd' ⟨2, 4⟩) := by decide +kernel

end CommandConsole
