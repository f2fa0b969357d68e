import CommandConsole.Proofs.Reading
import CommandConsole.Proofs.Results
import CommandConsole.Token.Lexer

/-!
# Scanning a line

The lexer goes through a line character by character and counts down the ones
that belong to a lexeme it has read. `Scan` is the same run in the pieces that
matter: a blank, a lexeme, the end, or a place where no lexeme begins.
Statements about every line are inductions on it (`scan_tokensFrom`).

Main result (`lexical_language`): the tokens of a line are lexemes, and
lexemes that stand apart, written and spaced in any way, are its tokens.
-/

namespace CommandConsole

/-! ## The pieces of a run -/

def Lexeme.token (lexeme : Lexeme) (position : Position) : Token :=
  ⟨lexeme.kind, String.ofList lexeme.text, position⟩

/-- `Scan p s r`: scanning `s`, which begins at `p`, gives `r`. -/
inductive Scan : Position → List Char → Except LexError (List Token) → Prop where
  | done (p : Position) : Scan p [] (.ok [⟨.endOfInput, "", p⟩])
  | blank {p : Position} {c : Char} {rest : List Char} {r : Except LexError (List Token)}
      (blank : Text.isBlank c = true) (next : Scan (p.advance c) rest r) :
      Scan p (c :: rest) r
  | lexeme {p : Position} {written rest : List Char} {lexeme : Lexeme}
      {r : Except LexError (List Token)}
      (start : ∀ c ∈ written.head?, Text.isBlank c = false)
      (read : Lexeme.read? (written ++ rest) = .ok (some lexeme))
      (width : lexeme.width = written.length)
      (next : Scan (p.advanceBy written) rest r) :
      Scan p (written ++ rest) (r.map (lexeme.token p :: ·))
  | unexpected {p : Position} {c : Char} {rest : List Char}
      (start : Text.isBlank c = false)
      (read : Lexeme.read? (c :: rest) = .ok none) :
      Scan p (c :: rest) (.error (.unexpectedCharacters
        (String.ofList ((c :: rest).takeWhile fun d => !Text.isBlank d)) p))
  | fault {p : Position} {c : Char} {rest : List Char} {fault : StringFault}
      (start : Text.isBlank c = false)
      (read : Lexeme.read? (c :: rest) = .error fault) :
      Scan p (c :: rest) (.error (.ofStringFault p fault))

@[simp] theorem Position.advanceBy_nil (p : Position) : p.advanceBy [] = p := rfl

@[simp] theorem Position.advanceBy_cons (p : Position) (c : Char) (s : List Char) :
    p.advanceBy (c :: s) = (p.advance c).advanceBy s := rfl

theorem Position.advanceBy_append (p : Position) (s t : List Char) :
    p.advanceBy (s ++ t) = (p.advanceBy s).advanceBy t := List.foldl_append

theorem tokensFrom_skip (p : Position) (span rest : List Char) :
    tokensFrom p span.length (span ++ rest) = tokensFrom (p.advanceBy span) 0 rest := by
  induction span generalizing p with
  | nil => rfl
  | cons c span ih => exact ih (p.advance c)

theorem tokensFrom_blank {p : Position} {c : Char} (h : Text.isBlank c = true)
    (rest : List Char) :
    tokensFrom p 0 (c :: rest) = tokensFrom (p.advance c) 0 rest := by
  rw [tokensFrom.eq_def]
  simp only [if_pos h]

theorem tokensFrom_blanks {gap : List Char} (h : ∀ c ∈ gap, Text.isBlank c = true)
    (p : Position) (rest : List Char) :
    tokensFrom p 0 (gap ++ rest) = tokensFrom (p.advanceBy gap) 0 rest := by
  induction gap generalizing p with
  | nil => rfl
  | cons c gap ih =>
      rw [List.cons_append, tokensFrom_blank (h c List.mem_cons_self)]
      exact ih (List.forall_mem_cons.mp h).2 (p.advance c)

theorem tokensFrom_lexeme {p : Position} {written rest : List Char} {lexeme : Lexeme}
    (nonempty : written ≠ []) (start : ∀ c ∈ written.head?, Text.isBlank c = false)
    (read : Lexeme.read? (written ++ rest) = .ok (some lexeme))
    (width : lexeme.width = written.length) :
    tokensFrom p 0 (written ++ rest) =
      (tokensFrom (p.advanceBy written) 0 rest).map (lexeme.token p :: ·) := by
  obtain ⟨c, span, rfl⟩ := List.exists_cons_of_ne_nil nonempty
  have hskip := tokensFrom_skip (p.advance c) span rest
  rw [List.cons_append] at read ⊢
  rw [tokensFrom.eq_def]
  simp only [start c rfl, read, width, List.length_cons, Nat.add_sub_cancel, hskip]
  rfl

theorem tokensFrom_unexpected {p : Position} {c : Char} {rest : List Char}
    (start : Text.isBlank c = false) (read : Lexeme.read? (c :: rest) = .ok none) :
    tokensFrom p 0 (c :: rest) = .error (.unexpectedCharacters
      (String.ofList ((c :: rest).takeWhile fun d => !Text.isBlank d)) p) := by
  rw [tokensFrom.eq_def]
  simp only [start, read]
  rfl

theorem tokensFrom_fault {p : Position} {c : Char} {rest : List Char} {fault : StringFault}
    (start : Text.isBlank c = false) (read : Lexeme.read? (c :: rest) = .error fault) :
    tokensFrom p 0 (c :: rest) = .error (.ofStringFault p fault) := by
  rw [tokensFrom.eq_def]
  simp only [start, read]
  rfl

theorem scan_tokensFrom (p : Position) (s : List Char) : Scan p s (tokensFrom p 0 s) := by
  -- A lexeme takes any number of characters, so the induction is on the length.
  induction hn : s.length using Nat.strong_induction_on generalizing p s with
  | _ n ih =>
      cases s with
      | nil => exact .done p
      | cons c rest =>
          cases hc : Text.isBlank c with
          | true =>
              rw [tokensFrom_blank hc]
              exact .blank hc (ih rest.length (by simp [← hn]) _ _ rfl)
          | false =>
              cases hread : Lexeme.read? (c :: rest) with
              | error fault =>
                  rw [tokensFrom_fault hc hread]
                  exact .fault hc hread
              | ok found =>
                  cases found with
                  | none =>
                      rw [tokensFrom_unexpected hc hread]
                      exact .unexpected hc hread
                  | some lexeme =>
                      obtain ⟨kind, text, written, tail, hs, hne, rfl, -, -⟩ :=
                        written_of_read? hread
                      have hstart : ∀ d ∈ written.head?, Text.isBlank d = false := by
                        intro d hd
                        obtain ⟨span, rfl⟩ := List.head?_eq_some_iff.mp hd
                        rw [List.cons_append] at hs
                        rwa [← (List.cons.inj hs).1]
                      have hlen : tail.length < n := by
                        have := List.length_pos_iff.mpr hne
                        rw [← hn, hs, List.length_append]
                        omega
                      rw [hs] at hread ⊢
                      rw [tokensFrom_lexeme hne hstart hread rfl]
                      exact .lexeme hstart hread rfl (ih _ hlen _ _ rfl)

/-! ## Every token is a lexeme -/

/-- Where a point stands and no lexeme is read, the line has no tokens. -/
theorem Scan.stuck {p : Position} {s : List Char} {r : Except LexError (List Token)}
    (h : Scan p s r) (hpoint : s.head? = some '.') (hread : Lexeme.read? s = .ok none)
    (toks : List Token) : r ≠ .ok toks := by
  cases h with
  | done => simp at hpoint
  | blank hblank =>
      obtain rfl := Option.some.inj hpoint
      rw [isBlank_point] at hblank
      exact Bool.noConfusion hblank
  | lexeme _ hsome =>
      rw [hread] at hsome
      exact absurd hsome (by simp)
  | unexpected => simp
  | fault => simp

theorem Scan.lexemes {p : Position} {s : List Char} {r : Except LexError (List Token)}
    (h : Scan p s r) : ∀ {toks : List Token}, r = .ok toks →
      ∃ front last, toks = front ++ [last] ∧ last.kind = .endOfInput ∧ last.text = "" ∧
        ∀ token ∈ front, IsLexeme token.kind token.text.toList := by
  induction h with
  | done p =>
      intro toks h
      obtain rfl := Except.ok.inj h
      exact ⟨[], _, rfl, rfl, rfl, by simp⟩
  | blank _ _ ih => exact ih
  | @lexeme p written rest lexeme r _ hread hwidth hnext ih =>
      intro toks h
      obtain ⟨tail, rfl, rfl⟩ := map_eq_ok.mp h
      obtain ⟨front, last, rfl, hkind, htext, hlex⟩ := ih rfl
      refine ⟨lexeme.token p :: front, last, rfl, hkind, htext, ?_⟩
      intro token htoken
      rcases List.mem_cons.mp htoken with rfl | htoken
      · obtain ⟨kind, text, written', rest', hs, -, rfl, -, hcase⟩ :=
          written_of_read? hread
        obtain ⟨rfl, rfl⟩ := List.append_inj hs hwidth.symm
        rcases hcase with hlex | ⟨-, hpoint, hnone⟩
        · simpa [Lexeme.token] using hlex
        · -- Digits in front of two points: the rest has no tokens, but it has.
          exact absurd rfl (hnext.stuck hpoint hnone _)
      · exact hlex token htoken
  | unexpected => exact fun h => absurd h (by simp)
  | fault => exact fun h => absurd h (by simp)

theorem isLexeme_of_mem_tokens {line : String} {toks : List Token}
    (h : tokens line = .ok toks) :
    ∀ token ∈ toks, token.kind = .endOfInput ∨ IsLexeme token.kind token.text.toList := by
  obtain ⟨front, last, rfl, hend, -, hlex⟩ := (scan_tokensFrom .start line.toList).lexemes h
  intro token htoken
  rw [List.mem_append, List.mem_singleton] at htoken
  rcases htoken with hfront | rfl
  · exact Or.inr (hlex token hfront)
  · exact Or.inl hend

/-! ## Lines of lexemes -/

/-- A lexeme in a line: its kind and text, how it is written, and the blanks
behind it. -/
structure Piece where
  kind : TokenKind
  text : List Char
  written : List Char
  gap : List Char

/-- What a piece says: all but its place and its spelling. -/
def Piece.content (piece : Piece) : TokenKind × List Char := (piece.kind, piece.text)

def Token.content (token : Token) : TokenKind × List Char :=
  (token.kind, token.text.toList)

def ending : TokenKind × List Char := (.endOfInput, [])

structure Piece.Valid (piece : Piece) : Prop where
  lexeme : IsLexeme piece.kind piece.text
  written : Written piece.kind piece.text piece.written

/-- Blanks, then lexemes with blanks behind each. -/
def layout (lead : List Char) (pieces : List Piece) : List Char :=
  lead ++ pieces.flatMap fun piece => piece.written ++ piece.gap

/-- There are only blanks between lexemes, and some between any two. -/
structure Spaced (lead : List Char) (pieces : List Piece) : Prop where
  lead : ∀ c ∈ lead, Text.isBlank c = true
  gap : ∀ piece ∈ pieces, ∀ c ∈ piece.gap, Text.isBlank c = true
  apart : ∀ piece ∈ pieces.dropLast, piece.gap ≠ []

theorem layout_cons (lead : List Char) (piece : Piece) (pieces : List Piece) :
    layout lead (piece :: pieces) =
      lead ++ (piece.written ++ layout piece.gap pieces) := by
  simp [layout]

theorem Spaced.tail {lead : List Char} {piece : Piece} {pieces : List Piece}
    (h : Spaced lead (piece :: pieces)) : Spaced piece.gap pieces where
  lead := h.gap piece List.mem_cons_self
  gap := (List.forall_mem_cons.mp h.gap).2
  apart := by
    intro p hp
    cases pieces with
    | nil => simp at hp
    | cons q pieces => exact h.apart p (List.mem_cons_of_mem _ hp)

theorem Spaced.next_apart {lead : List Char} {piece : Piece} {pieces : List Piece}
    (h : Spaced lead (piece :: pieces)) : Apart (layout piece.gap pieces) := by
  intro c hc
  cases hgap : piece.gap with
  | cons d gap =>
      rw [hgap] at hc
      obtain rfl := Option.some.inj hc
      exact h.gap piece List.mem_cons_self _ (by simp [hgap])
  | nil =>
      cases pieces with
      | nil => simp [layout, hgap] at hc
      | cons q pieces => exact absurd hgap (h.apart piece (by simp))

theorem IsLexeme.head_not_blank {kind : TokenKind} {text written : List Char}
    (h : IsLexeme kind text) (hw : Written kind text written) :
    ∃ c tail, written = c :: tail ∧ Text.isBlank c = false := by
  cases kind with
  | trueWord | falseWord | nullWord =>
      obtain rfl : written = text := hw
      have halpha := alpha_of_word (keyword_letters _ (by simp [keywords])) h
      cases written with
      | nil => simp [IsLexeme] at h
      | cons c tail =>
          exact ⟨c, tail, rfl, not_isBlank_of_isNameChar
            (isNameChar_of_isAlpha (halpha c List.mem_cons_self))⟩
  | number =>
      obtain ⟨c, tail, rfl, hc⟩ := IsNumeral.head_written h hw
      refine ⟨c, tail, rfl, ?_⟩
      rcases hc with hc | rfl | rfl
      · exact not_isBlank_of_isDigit hc
      · exact isBlank_minus
      · exact isBlank_point
  | string =>
      obtain rfl : written = text := hw
      obtain ⟨body, -, rfl⟩ := h
      exact ⟨'"', _, rfl, isBlank_quote⟩
  | identifier =>
      obtain rfl : written = text := hw
      obtain ⟨c, tail, rfl⟩ := List.exists_cons_of_ne_nil h.nonempty
      exact ⟨c, tail, rfl, not_isBlank_of_isNameChar (h.named c List.mem_cons_self)⟩
  | endOfInput => exact h.elim

/-- Written lexemes that stand apart are read back, however they are spaced. -/
theorem tokensFrom_layout {lead : List Char} {pieces : List Piece}
    (spaced : Spaced lead pieces) (valid : ∀ piece ∈ pieces, piece.Valid) (p : Position) :
    ∃ toks, tokensFrom p 0 (layout lead pieces) = .ok toks ∧
      toks.map Token.content = pieces.map Piece.content ++ [ending] := by
  induction pieces generalizing lead p with
  | nil =>
      refine ⟨[⟨.endOfInput, "", p.advanceBy lead⟩], ?_, by simp [Token.content, ending]⟩
      exact tokensFrom_blanks spaced.lead p []
  | cons piece pieces ih =>
      obtain ⟨hpiece, hpieces⟩ := List.forall_mem_cons.mp valid
      obtain ⟨c, tail, hhead, hc⟩ := hpiece.lexeme.head_not_blank hpiece.written
      obtain ⟨toks, htoks, hcontent⟩ :=
        ih spaced.tail hpieces ((p.advanceBy lead).advanceBy piece.written)
      have hread := read?_written hpiece.lexeme hpiece.written spaced.next_apart
      have hstep := tokensFrom_lexeme (p := p.advanceBy lead) (by simp [hhead])
        (by simpa [hhead] using hc) hread rfl
      let lexeme : Lexeme := ⟨piece.kind, piece.text, piece.written.length⟩
      refine ⟨lexeme.token (p.advanceBy lead) :: toks, ?_, ?_⟩
      · rw [layout_cons, tokensFrom_blanks spaced.lead, hstep, htoks]
        rfl
      · simp [hcontent, lexeme, Lexeme.token, Token.content, Piece.content]

theorem written_self {kind : TokenKind} {text : List Char} (h : IsLexeme kind text) :
    Written kind text text := by
  cases kind with
  | number =>
      obtain ⟨body, hbody, hchars, -⟩ := IsNumeral.split h
      have hline : '_' ∉ text := by
        intro hmem
        have : '_' ∈ body := by
          rcases hbody with rfl | rfl
          · exact hmem
          · simpa using hmem
        simpa using hchars '_' this
      refine ⟨List.filter_eq_self.mpr ?_, fun hmem => hline ?_⟩
      · intro c hc
        have hne : c ≠ '_' := fun he => hline (he ▸ hc)
        simpa using hne
      · exact (List.takeWhile_sublist _).subset hmem
  | _ => rfl

/-- A lexeme as it is, apart from what follows, is the first token. -/
theorem tokensFrom_text {kind : TokenKind} {text : String} {rest : List Char}
    (h : IsLexeme kind text.toList) (apart : Apart rest) (p : Position) :
    tokensFrom p 0 (text.toList ++ rest) =
      (tokensFrom (p.advanceBy text.toList) 0 rest).map (⟨kind, text, p⟩ :: ·) := by
  have hself := written_self h
  obtain ⟨c, tail, hhead, hc⟩ := h.head_not_blank hself
  rw [tokensFrom_lexeme (by simp [hhead]) (by simpa [hhead] using hc)
    (read?_written h hself apart) rfl, Lexeme.token, String.ofList_toList]

/-- **The lexical language.** (a) The tokens of a line are lexemes, and the end of
input behind them. (b) Lexemes that are written in any way and stand apart by any
blanks are tokens as they are. (c) So the tokens of a line, spaced anew, say the
same again. -/
theorem lexical_language :
    (∀ (line : String) (toks : List Token), tokens line = .ok toks →
      ∃ front last, toks = front ++ [last] ∧ last.kind = .endOfInput ∧ last.text = "" ∧
        ∀ token ∈ front, IsLexeme token.kind token.text.toList) ∧
    (∀ (lead : List Char) (pieces : List Piece), Spaced lead pieces →
      (∀ piece ∈ pieces, piece.Valid) →
      ∃ toks, tokens (String.ofList (layout lead pieces)) = .ok toks ∧
        toks.map Token.content = pieces.map Piece.content ++ [ending]) ∧
    (∀ (line : String) (toks : List Token) (lead : List Char) (pieces : List Piece),
      tokens line = .ok toks → Spaced lead pieces →
      (∀ piece ∈ pieces, piece.written = piece.text) →
      pieces.map Piece.content ++ [ending] = toks.map Token.content →
      ∃ again, tokens (String.ofList (layout lead pieces)) = .ok again ∧
        again.map Token.content = toks.map Token.content) := by
  have lexemes : ∀ (line : String) (toks : List Token), tokens line = .ok toks →
      ∃ front last, toks = front ++ [last] ∧ last.kind = .endOfInput ∧ last.text = "" ∧
        ∀ token ∈ front, IsLexeme token.kind token.text.toList :=
    fun line toks h => (scan_tokensFrom .start line.toList).lexemes h
  have laid : ∀ (lead : List Char) (pieces : List Piece), Spaced lead pieces →
      (∀ piece ∈ pieces, piece.Valid) →
      ∃ toks, tokens (String.ofList (layout lead pieces)) = .ok toks ∧
        toks.map Token.content = pieces.map Piece.content ++ [ending] := by
    intro lead pieces spaced valid
    rw [tokens, String.toList_ofList]
    exact tokensFrom_layout spaced valid .start
  refine ⟨lexemes, laid, ?_⟩
  intro line toks lead pieces htoks spaced hself hsame
  rw [← hsame]
  refine laid lead pieces spaced ?_
  obtain ⟨front, last, rfl, -, -, hlex⟩ := lexemes line toks htoks
  rw [List.map_append, List.map_singleton] at hsame
  have hfront := (List.append_inj' hsame rfl).1
  intro piece hpiece
  have hmem : piece.content ∈ front.map Token.content :=
    hfront ▸ List.mem_map_of_mem hpiece
  obtain ⟨token, htoken, hcontent⟩ := List.mem_map.mp hmem
  obtain ⟨hkind, htext⟩ := Prod.mk.inj hcontent
  have hlexeme : IsLexeme piece.kind piece.text := by
    rw [← hkind, ← htext]
    exact hlex token htoken
  refine ⟨hlexeme, ?_⟩
  rw [hself piece hpiece]
  exact written_self hlexeme

/-- A line with a separated number, an escaped string and a keyword in mixed case,
spaced by a line feed and a tab. -/
theorem lexical_language_line :
    ∃ toks, tokens (String.ofList (layout ['\n']
        [⟨.identifier, ['x', '1'], ['x', '1'], ['\t', ' ']⟩,
         ⟨.number, ['-', '1', '0', '.', '5'], ['-', '1', '_', '0', '.', '_', '5', '_'], [' ']⟩,
         ⟨.string, ['"', ' ', '\\', '\\', '"'], ['"', ' ', '\\', '\\', '"'], [' ']⟩,
         ⟨.trueWord, ['T', 'r', 'U', 'e'], ['T', 'r', 'U', 'e'], []⟩])) = .ok toks ∧
      toks.map Token.content =
        [(.identifier, ['x', '1']), (.number, ['-', '1', '0', '.', '5']),
          (.string, ['"', ' ', '\\', '\\', '"']), (.trueWord, ['T', 'r', 'U', 'e']),
          (.endOfInput, [])] := by
  refine lexical_language.2.1 _ _ ⟨?_, ?_, by simp⟩ ?_
  · exact List.all_eq_true.mp rfl
  · simp only [List.forall_mem_cons, List.not_mem_nil, false_implies, implies_true, and_true]
    exact ⟨⟨rfl, rfl⟩, rfl, rfl⟩
  · simp only [List.forall_mem_cons, List.not_mem_nil, false_implies, implies_true, and_true]
    refine ⟨⟨⟨by simp, by simp [isNameChar_of_isAlpha, isNameChar_of_isDigit], by simp,
      by simp [IsKeyword, keywords]⟩, rfl⟩, ⟨⟨?_, by simp⟩, rfl, by simp⟩,
      ⟨⟨[' ', '\\', '\\'], ?_, rfl⟩, rfl⟩, by simp [IsLexeme], rfl⟩
    · exact ⟨['1', '0', '.', '5'], Or.inr rfl, by simp, by simp⟩
    · exact .plain (by simp) (by simp) (.backslash .nil)

end CommandConsole
