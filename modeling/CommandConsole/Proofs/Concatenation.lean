import CommandConsole.Proofs.Tiling

/-!
# Lines put together

A blank parts a line for good. The readers look ahead, but never over a blank
(`read?_append`), except for a string that is not closed yet. So the tokens of a
text with a blank behind it stay as they are, and the text behind the blank has
the tokens that it has as a line of its own, moved (`Position.shift`).

Main result: `tokens_compose`.
-/

namespace CommandConsole

/-! ## Readers stop at a blank -/

theorem number?_append {s rest : List Char} (apart : Apart rest) :
    Lexeme.number? (s ++ rest) = Lexeme.number? s := by
  cases s with
  | nil =>
      cases rest with
      | nil => rfl
      | cons c rest =>
          obtain ⟨hdigit, hpoint, -, hminus⟩ := isBlank_stops_number (apart c rfl)
          rw [List.nil_append, number?_none hdigit hminus hpoint]
          rfl
  | cons c s =>
      by_cases hc : c = '-'
      · subst hc
        simp only [List.cons_append, Lexeme.number?, Lexeme.Digits.read?_append_stop apart.stops]
      · have hhead : ∀ t : List Char, (c :: t).head? ≠ some '-' := by simpa using hc
        rw [List.cons_append, number?_unsigned (hhead _), number?_unsigned (hhead _),
          ← List.cons_append, Lexeme.Digits.read?_append_stop apart.stops]

theorem continued_ne_unterminated {front : List Char}
    {r : Except StringFault (List Char)} :
    Lexeme.stringTail.continued front r ≠ .error .unterminated ↔
      r ≠ .error .unterminated := by
  unfold Lexeme.stringTail.continued
  split <;> simp

/-- A string that is closed, or broken, is not changed by what follows. -/
theorem stringTail_append_of_ne {s : List Char}
    (h : Lexeme.stringTail s ≠ .error .unterminated) (rest : List Char) :
    Lexeme.stringTail (s ++ rest) = Lexeme.stringTail s := by
  fun_induction Lexeme.stringTail s with
  | case1 => exact absurd rfl h
  | case2 tail => exact stringTail_quote _
  | case3 => exact absurd rfl h
  | case4 e tail he _ ih =>
      rw [List.cons_append, List.cons_append, stringTail_escape he,
        ih (continued_ne_unterminated.mp h)]
  | case5 e tail he => exact stringTail_broken he _
  | case6 c tail quote backslash ih =>
      rw [List.cons_append, stringTail_plain quote backslash,
        ih (continued_ne_unterminated.mp h)]

theorem string?_append {s rest : List Char} (apart : Apart rest)
    (h : Lexeme.string? s ≠ .error .unterminated) :
    Lexeme.string? (s ++ rest) = Lexeme.string? s := by
  cases s with
  | nil =>
      refine string?_unquoted fun hquote => ?_
      have hblank := apart '"' hquote
      rw [isBlank_quote] at hblank
      exact Bool.noConfusion hblank
  | cons c s =>
      rw [Lexeme.string?] at h
      rw [List.cons_append, Lexeme.string?, Lexeme.string?]
      by_cases hc : c = '"'
      · have htail : Lexeme.stringTail s ≠ .error .unterminated := by
          intro he
          rw [if_pos hc, he] at h
          exact h rfl
        rw [if_pos hc, if_pos hc, stringTail_append_of_ne htail]
      · rw [if_neg hc, if_neg hc]

/-- No reader looks over a blank but that of a string, in search of its end. -/
theorem read?_append {s rest : List Char} (apart : Apart rest)
    (h : Lexeme.read? s ≠ .error .unterminated) :
    Lexeme.read? (s ++ rest) = Lexeme.read? s := by
  have hname := apart.takeWhile_named s
  by_cases hkey : IsKeyword (s.takeWhile isNameChar)
  · obtain ⟨kind, hkind, hlex⟩ := isKeyword_iff.mp hkey
    rw [read?_keyword hkind (by rwa [hname]), read?_keyword hkind hlex, hname]
  · rw [read?_of_no_keyword hkey] at h
    rw [read?_of_no_keyword (by rwa [hname]), read?_of_no_keyword hkey, number?_append apart]
    cases hnumber : Lexeme.number? s with
    | some number => rfl
    | none =>
        have hstring : Lexeme.string? s ≠ .error .unterminated := by
          intro he
          rw [hnumber, he] at h
          exact h rfl
        simp only [string?_append apart hstring, Lexeme.identifier?, hname]

/-! ## Runs go on behind a blank -/

theorem ne_nil_of_read? {written rest : List Char} {lexeme : Lexeme}
    (read : Lexeme.read? (written ++ rest) = .ok (some lexeme))
    (width : lexeme.width = written.length) : written ≠ [] := by
  obtain ⟨_, _, span, _, hspan, hne, rfl, -, -⟩ := written_of_read? read
  obtain ⟨rfl, -⟩ := List.append_inj hspan width.symm
  exact hne

theorem tokensFrom_lexeme_append {p : Position} {written tail rest : List Char}
    {lexeme : Lexeme} (start : ∀ c ∈ written.head?, Text.isBlank c = false)
    (read : Lexeme.read? (written ++ tail) = .ok (some lexeme))
    (width : lexeme.width = written.length) (apart : Apart rest) :
    tokensFrom p 0 (written ++ tail ++ rest) =
      (tokensFrom (p.advanceBy written) 0 (tail ++ rest)).map (lexeme.token p :: ·) := by
  have hsame := read?_append (s := written ++ tail) apart (by rw [read]; simp)
  rw [read, List.append_assoc] at hsame
  rw [List.append_assoc, tokensFrom_lexeme (ne_nil_of_read? read width) start hsame width]

theorem Scan.resume {p : Position} {s : List Char} {r : Except LexError (List Token)}
    (h : Scan p s r) {rest : List Char} (apart : Apart rest) :
    ∀ {toks : List Token}, r = .ok toks →
      ∃ front last, toks = front ++ [last] ∧ last.kind = .endOfInput ∧
        tokensFrom p 0 (s ++ rest) =
          (tokensFrom (p.advanceBy s) 0 rest).map (front ++ ·) := by
  induction h with
  | done p =>
      intro toks h
      obtain rfl := Except.ok.inj h
      refine ⟨[], _, rfl, rfl, ?_⟩
      rw [List.nil_append, Position.advanceBy_nil]
      cases tokensFrom p 0 rest <;> rfl
  | blank hblank _ ih =>
      intro toks h
      obtain ⟨front, last, htoks, hlast, hrun⟩ := ih h
      refine ⟨front, last, htoks, hlast, ?_⟩
      rw [List.cons_append, tokensFrom_blank hblank, hrun]
      rfl
  | @lexeme p written tail lexeme r hstart hread hwidth _ ih =>
      intro toks h
      obtain ⟨later, rfl, rfl⟩ := map_eq_ok.mp h
      obtain ⟨front, last, rfl, hlast, hrun⟩ := ih rfl
      refine ⟨lexeme.token p :: front, last, rfl, hlast, ?_⟩
      rw [tokensFrom_lexeme_append hstart hread hwidth apart, hrun, Position.advanceBy_append]
      cases tokensFrom ((p.advanceBy written).advanceBy tail) 0 rest <;> rfl
  | unexpected => exact fun h => absurd h (by simp)
  | fault => exact fun h => absurd h (by simp)

/-- A run that fails, but not for want of a quote, fails in the same way where a blank
follows. -/
theorem Scan.halt {p : Position} {s : List Char} {r : Except LexError (List Token)}
    (h : Scan p s r) {rest : List Char} (apart : Apart rest) :
    ∀ {error : LexError}, r = .error error → (∀ q, error ≠ .unterminatedString q) →
      tokensFrom p 0 (s ++ rest) = .error error := by
  induction h with
  | done => exact fun h => absurd h (by simp)
  | blank hblank _ ih =>
      intro error h hclosed
      rw [List.cons_append, tokensFrom_blank hblank]
      exact ih h hclosed
  | lexeme hstart hread hwidth _ ih =>
      intro error h hclosed
      rw [tokensFrom_lexeme_append hstart hread hwidth apart, ih (map_eq_error.mp h) hclosed]
      rfl
  | @unexpected p c tail hstart hread =>
      intro error h _
      obtain rfl := Except.error.inj h
      have hsame := read?_append (s := c :: tail) apart (by rw [hread]; simp)
      have hstop : ∀ d ∈ rest.head?, (!Text.isBlank d) = false := fun d hd => by
        rw [apart d hd]
        rfl
      rw [← takeWhile_append_stop (s := c :: tail) hstop]
      exact tokensFrom_unexpected hstart (hsame.trans hread)
  | @fault p c tail fault hstart hread =>
      intro error h hclosed
      obtain rfl := Except.error.inj h
      have hne : fault ≠ .unterminated := by
        rintro rfl
        exact hclosed p rfl
      have hsame := read?_append (s := c :: tail) apart (by rw [hread]; simpa using hne)
      exact tokensFrom_fault hstart (hsame.trans hread)

/-! ## Moved tokens -/

/-- A place in a text, once the text `front` stands before it: lines move by the line feeds
in front, and columns of the first line by the characters behind the last of these. -/
def Position.shift (front : List Char) (p : Position) : Position :=
  ⟨p.line + front.count '\n',
    if p.line = 1 then p.column + (front.reverse.takeWhile (· ≠ '\n')).length else p.column⟩

def Token.shift (front : List Char) (token : Token) : Token :=
  { token with position := token.position.shift front }

def LexError.shift (front : List Char) : LexError → LexError
  | .unexpectedCharacters found position =>
      .unexpectedCharacters found (position.shift front)
  | .invalidEscape found position => .invalidEscape found (position.shift front)
  | .unterminatedString position => .unterminatedString (position.shift front)

namespace Position

theorem shift_start (front : List Char) : start.shift front = start.advanceBy front := by
  rw [advanceBy_start]
  simp [shift, start, behind]

theorem one_le_line_advance {p : Position} (h : 1 ≤ p.line) (c : Char) :
    1 ≤ (p.advance c).line := by
  unfold advance
  split
  · exact Nat.le_add_left 1 p.line
  · exact h

theorem one_le_line_advanceBy {p : Position} (h : 1 ≤ p.line) (s : List Char) :
    1 ≤ (p.advanceBy s).line := by
  induction s generalizing p with
  | nil => exact h
  | cons c s ih => exact ih (one_le_line_advance h c)

theorem advance_shift (front : List Char) {p : Position} (h : 1 ≤ p.line) (c : Char) :
    (p.shift front).advance c = (p.advance c).shift front := by
  unfold advance shift
  by_cases hc : c = '\n'
  · have hline : p.line ≠ 0 := Nat.ne_of_gt h
    simp [hc, hline, Nat.add_right_comm]
  · by_cases hline : p.line = 1
    · simp [hc, hline, Nat.add_right_comm]
    · simp [hc, hline]

theorem advanceBy_shift (front : List Char) {p : Position} (h : 1 ≤ p.line) (s : List Char) :
    (p.shift front).advanceBy s = (p.advanceBy s).shift front := by
  induction s generalizing p with
  | nil => rfl
  | cons c s ih =>
      rw [advanceBy_cons, advance_shift front h, ih (one_le_line_advance h c)]
      rfl

end Position

def moved (front : List Char) (r : Except LexError (List Token)) :
    Except LexError (List Token) :=
  (r.mapError (LexError.shift front)).map (List.map (Token.shift front))

theorem moved_map (front : List Char) (token : Token) (r : Except LexError (List Token)) :
    moved front (r.map (token :: ·)) = (moved front r).map (token.shift front :: ·) := by
  cases r <;> rfl

/-- A text that stands behind another has its own tokens, moved. -/
theorem Scan.shift {p : Position} {s : List Char} {r : Except LexError (List Token)}
    (h : Scan p s r) (front : List Char) (line : 1 ≤ p.line) :
    tokensFrom (p.shift front) 0 s = moved front r := by
  induction h with
  | done p => rfl
  | blank hblank _ ih =>
      rw [tokensFrom_blank hblank, Position.advance_shift front line,
        ih (Position.one_le_line_advance line _)]
  | @lexeme p written tail lexeme r hstart hread hwidth _ ih =>
      rw [tokensFrom_lexeme (ne_nil_of_read? hread hwidth) hstart hread hwidth,
        Position.advanceBy_shift front line, ih (Position.one_le_line_advanceBy line _), moved_map]
      rfl
  | unexpected hstart hread => exact tokensFrom_unexpected hstart hread
  | @fault p c tail fault hstart hread =>
      rw [tokensFrom_fault hstart hread]
      cases fault with
      | invalidEscape before found =>
          rw [LexError.ofStringFault, Position.advanceBy_shift front line]
          rfl
      | unterminated => rfl

/-- **Lines are read piece by piece.** If a text has tokens and blanks follow, the text
behind them is read on its own: the tokens of the whole, or what is wrong with it, are those
of the second text, moved by all that is in front, with the tokens of the first before them.
If the first text has none, and not because a string in it is still open, then no blanks and
no text behind them change the error. -/
theorem tokens_compose {blanks : String} (nonempty : blanks ≠ "")
    (blank : ∀ c ∈ blanks.toList, Text.isBlank c = true) (first second : String) :
    (∀ toks, tokens first = .ok toks →
      ∃ front last, toks = front ++ [last] ∧ last.kind = .endOfInput ∧
        tokens (first ++ blanks ++ second) =
          (moved (first ++ blanks).toList (tokens second)).map (front ++ ·)) ∧
    ∀ error, tokens first = .error error → (∀ p, error ≠ .unterminatedString p) →
      tokens (first ++ blanks ++ second) = .error error := by
  have apart : Apart (blanks.toList ++ second.toList) := by
    have hne : blanks.toList ≠ [] := by simpa using nonempty
    obtain ⟨c, gap, hgap⟩ := List.exists_cons_of_ne_nil hne
    intro d hd
    rw [hgap] at hd
    obtain rfl := Option.some.inj hd
    exact blank c (by simp [hgap])
  have hline : (first ++ blanks ++ second).toList =
      first.toList ++ (blanks.toList ++ second.toList) := by
    simp
  have hscan := scan_tokensFrom .start first.toList
  constructor
  · intro toks htoks
    obtain ⟨front, last, hfront, hlast, hrun⟩ := hscan.resume apart htoks
    refine ⟨front, last, hfront, hlast, ?_⟩
    have hsecond := (scan_tokensFrom .start second.toList).shift (first ++ blanks).toList
      (Nat.le_refl 1)
    rw [Position.shift_start, String.toList_append, Position.advanceBy_append] at hsecond
    rw [tokens, hline, hrun, tokensFrom_blanks blank, hsecond, String.toList_append]
    rfl
  · intro error herror hclosed
    rw [tokens, hline]
    exact hscan.halt apart herror hclosed

/-- A string that goes over a line feed in the first text, and two lines in the second; then
a string in the first text that is broken before it could be closed. -/
theorem tokens_compose_sample :
    tokens "a \"x\ny\"" = .ok [⟨.identifier, "a", ⟨1, 1⟩⟩, ⟨.string, "\"x\ny\"", ⟨1, 3⟩⟩,
      ⟨.endOfInput, "", ⟨2, 3⟩⟩] ∧
    tokens ("a \"x\ny\"" ++ "\n " ++ "1_0\nc") = .ok [⟨.identifier, "a", ⟨1, 1⟩⟩,
      ⟨.string, "\"x\ny\"", ⟨1, 3⟩⟩, ⟨.number, "10", ⟨3, 2⟩⟩, ⟨.identifier, "c", ⟨4, 1⟩⟩,
      ⟨.endOfInput, "", ⟨4, 2⟩⟩] ∧
    tokens ("\"\\t" ++ "\n " ++ "\"") = .error (.invalidEscape 't' ⟨1, 2⟩) := by
  have hblank : ∀ c ∈ ("\n ").toList, Text.isBlank c = true := List.all_eq_true.mp rfl
  have hfirst : tokens "a \"x\ny\"" = .ok [⟨.identifier, "a", ⟨1, 1⟩⟩,
      ⟨.string, "\"x\ny\"", ⟨1, 3⟩⟩, ⟨.endOfInput, "", ⟨2, 3⟩⟩] := by
    decide +kernel
  have hsecond : tokens "1_0\nc" = .ok [⟨.number, "10", ⟨1, 1⟩⟩, ⟨.identifier, "c", ⟨2, 1⟩⟩,
      ⟨.endOfInput, "", ⟨2, 2⟩⟩] := by
    decide +kernel
  have hbroken : tokens "\"\\t" = .error (.invalidEscape 't' ⟨1, 2⟩) := by decide +kernel
  obtain ⟨front, last, hfront, -, hrun⟩ :=
    (tokens_compose (by decide) hblank "a \"x\ny\"" "1_0\nc").1 _ hfirst
  have htokens := congrArg List.dropLast hfront
  rw [List.dropLast_concat] at htokens
  rw [hsecond, ← htokens] at hrun
  refine ⟨hfirst, hrun.trans ?_, ?_⟩
  · decide +kernel
  · exact (tokens_compose (by decide) hblank "\"\\t" "\"").2 _ hbroken (by simp)

end CommandConsole
