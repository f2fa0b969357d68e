import CommandConsole.Proofs.Scanning

/-!
# Lines cut into tokens

The tokens of a line account for all of it: it is cut into spans, one for each
token, with nothing but blanks between them (`Piece.Cut`). A token keeps its span
but for the separators of a number, and it stands where the span does, a place
told by the line feeds and characters in front of it (`Position.behind`).

Main result: `tokens_tile`.
-/

namespace CommandConsole

/-! ## Positions -/

namespace Position

/-- The place behind a text: its line feeds count lines, and what comes after the last
of them counts columns. -/
def behind (before : List Char) : Position :=
  ⟨1 + before.count '\n', 1 + (before.reverse.takeWhile (· ≠ '\n')).length⟩

/-- A place comes before another. -/
def Before (p q : Position) : Prop :=
  p.line < q.line ∨ p.line = q.line ∧ p.column < q.column

theorem behind_snoc (before : List Char) (c : Char) :
    behind (before ++ [c]) = (behind before).advance c := by
  unfold behind advance
  by_cases hc : c = '\n'
  · simp [hc, Nat.add_assoc]
  · simp [hc, Nat.add_assoc]

theorem advanceBy_start (before : List Char) : start.advanceBy before = behind before := by
  induction before using List.reverseRecOn with
  | nil => rfl
  | append_singleton before c ih =>
      rw [advanceBy_append, ih, behind_snoc]
      rfl

theorem Before.trans {p q r : Position} (h : p.Before q) (h' : q.Before r) : p.Before r := by
  unfold Before at *
  omega

theorem before_advance (p : Position) (c : Char) : p.Before (p.advance c) := by
  unfold advance
  split
  · exact Or.inl (Nat.lt_succ_self _)
  · exact Or.inr ⟨rfl, Nat.lt_succ_self _⟩

theorem before_advanceBy (p : Position) {s : List Char} (h : s ≠ []) :
    p.Before (p.advanceBy s) := by
  induction s generalizing p with
  | nil => exact absurd rfl h
  | cons c s ih =>
      rw [advanceBy_cons]
      by_cases hs : s = []
      · rw [hs]
        exact before_advance p c
      · exact (before_advance p c).trans (ih (p.advance c) hs)

end Position

/-! ## Spans -/

/-- A span with the token that it gives and the blanks behind it. -/
structure Piece.Cut (piece : Piece) : Prop where
  nonempty : piece.written ≠ []
  start : ∀ c ∈ piece.written.head?, Text.isBlank c = false
  kind : piece.kind ≠ .endOfInput
  text : piece.text =
    if piece.kind = .number then piece.written.filter (· ≠ '_') else piece.written
  gap : ∀ c ∈ piece.gap, Text.isBlank c = true

def placed (p : Position) (lead : List Char) : List Piece → List Token
  | [] => [⟨.endOfInput, "", p.advanceBy lead⟩]
  | piece :: pieces =>
      ⟨piece.kind, String.ofList piece.text, p.advanceBy lead⟩ ::
        placed ((p.advanceBy lead).advanceBy piece.written) piece.gap pieces

theorem text_of_written {kind : TokenKind} {text written : List Char}
    (h : Written kind text written) :
    text = if kind = .number then written.filter (· ≠ '_') else written := by
  cases kind with
  | number => exact h.1.symm
  | string | identifier | trueWord | falseWord | nullWord | endOfInput => exact h.symm

theorem Scan.tiles {p : Position} {s : List Char} {r : Except LexError (List Token)}
    (h : Scan p s r) : ∀ {toks : List Token}, r = .ok toks →
      ∃ lead pieces, s = layout lead pieces ∧ (∀ c ∈ lead, Text.isBlank c = true) ∧
        (∀ piece ∈ pieces, piece.Cut) ∧ toks = placed p lead pieces := by
  induction h with
  | done p =>
      intro toks h
      obtain rfl := Except.ok.inj h
      exact ⟨[], [], rfl, by simp, by simp, rfl⟩
  | @blank p c rest r hblank _ ih =>
      intro toks h
      obtain ⟨lead, pieces, rfl, hlead, hpieces, rfl⟩ := ih h
      refine ⟨c :: lead, pieces, rfl, List.forall_mem_cons.mpr ⟨hblank, hlead⟩, hpieces, ?_⟩
      cases pieces <;> rfl
  | @lexeme p written rest lexeme r hstart hread hwidth hnext ih =>
      intro toks h
      obtain ⟨tail, rfl, rfl⟩ := map_eq_ok.mp h
      obtain ⟨gap, pieces, rfl, hgap, hpieces, rfl⟩ := ih rfl
      obtain ⟨kind, text, written', rest', hs, hne, rfl, hwritten, hcase⟩ := written_of_read? hread
      obtain ⟨rfl, rfl⟩ := List.append_inj hs hwidth.symm
      have hkind : kind ≠ .endOfInput := by
        rintro rfl
        rcases hcase with hlex | ⟨hidentifier, -, -⟩
        · exact hlex.elim
        · exact TokenKind.noConfusion hidentifier
      refine ⟨[], ⟨kind, text, written, gap⟩ :: pieces, ?_, by simp, ?_, rfl⟩
      · rw [layout_cons]
        rfl
      · refine List.forall_mem_cons.mpr ⟨?_, hpieces⟩
        exact ⟨hne, hstart, hkind, text_of_written hwritten, hgap⟩
  | unexpected => exact fun h => absurd h (by simp)
  | fault => exact fun h => absurd h (by simp)

/-! ## Where tokens stand -/

theorem length_placed (p : Position) (lead : List Char) (pieces : List Piece) :
    (placed p lead pieces).length = pieces.length + 1 := by
  induction pieces generalizing p lead with
  | nil => rfl
  | cons piece pieces ih => rw [placed, List.length_cons, ih, List.length_cons]

theorem placed_getElem? {pieces : List Piece} {i : Nat} {piece : Piece}
    (h : pieces[i]? = some piece) (p : Position) (lead : List Char) :
    (placed p lead pieces)[i]? = some ⟨piece.kind, String.ofList piece.text,
      p.advanceBy (layout lead (pieces.take i))⟩ := by
  induction pieces generalizing p lead i with
  | nil => exact absurd h (by simp)
  | cons first pieces ih =>
      cases i with
      | zero =>
          obtain rfl := Option.some.inj h
          simp [placed, layout]
      | succ i =>
          rw [placed, List.getElem?_cons_succ, ih h, List.take_succ_cons, layout_cons,
            Position.advanceBy_append, Position.advanceBy_append]

theorem placed_last (p : Position) (lead : List Char) (pieces : List Piece) :
    (placed p lead pieces)[pieces.length]? =
      some ⟨.endOfInput, "", p.advanceBy (layout lead pieces)⟩ := by
  induction pieces generalizing p lead with
  | nil => simp [placed, layout]
  | cons piece pieces ih =>
      rw [placed, List.length_cons, List.getElem?_cons_succ, ih, layout_cons,
        Position.advanceBy_append, Position.advanceBy_append]

theorem position_of_mem_placed {p : Position} {lead : List Char} {pieces : List Piece}
    {token : Token} (h : token ∈ placed p lead pieces) :
    ∃ s, token.position = p.advanceBy s := by
  induction pieces generalizing p lead with
  | nil =>
      obtain rfl := List.mem_singleton.mp h
      exact ⟨lead, rfl⟩
  | cons piece pieces ih =>
      rcases List.mem_cons.mp h with rfl | h
      · exact ⟨lead, rfl⟩
      · obtain ⟨s, hs⟩ := ih h
        refine ⟨lead ++ (piece.written ++ s), ?_⟩
        rw [hs, Position.advanceBy_append, Position.advanceBy_append]

theorem pairwise_placed {pieces : List Piece} (h : ∀ piece ∈ pieces, piece.written ≠ [])
    (p : Position) (lead : List Char) :
    (placed p lead pieces).Pairwise fun a b => a.position.Before b.position := by
  induction pieces generalizing p lead with
  | nil => exact List.pairwise_singleton _ _
  | cons piece pieces ih =>
      obtain ⟨hne, hpieces⟩ := List.forall_mem_cons.mp h
      refine List.pairwise_cons.mpr ⟨?_, ih hpieces _ _⟩
      intro token htoken
      obtain ⟨s, hs⟩ := position_of_mem_placed htoken
      rw [hs, ← Position.advanceBy_append]
      exact Position.before_advanceBy _ (by simp [hne])

theorem tokens_lexeme {kind : TokenKind} {text : String} (h : IsLexeme kind text.toList) :
    tokens text = .ok [⟨kind, text, .start⟩, ⟨.endOfInput, "", .behind text.toList⟩] := by
  have hend : Apart [] := by simp [Apart]
  have hrun := tokensFrom_text h hend .start
  rw [List.append_nil, Position.advanceBy_start] at hrun
  exact hrun

/-- **Lines are cut without loss.** A line that has tokens is blanks and spans in turn. It
has one token for each span, which keeps all of the span but the separators of a number, and
one more at the end, the only end of input. Each stands where its span begins, told by what
is in front of it, and the last one behind the whole line; so they stand in order. -/
theorem tokens_tile {line : String} {toks : List Token} (h : tokens line = .ok toks) :
    ∃ (lead : List Char) (pieces : List Piece), line.toList = layout lead pieces ∧
      (∀ c ∈ lead, Text.isBlank c = true) ∧
      (∀ piece ∈ pieces, piece.Cut) ∧
      toks.length = pieces.length + 1 ∧
      (∀ (i : Nat) (piece : Piece), pieces[i]? = some piece →
        toks[i]? = some (⟨piece.kind, String.ofList piece.text,
          .behind (layout lead (pieces.take i))⟩ : Token)) ∧
      toks[pieces.length]? = some (⟨.endOfInput, "", .behind line.toList⟩ : Token) ∧
      toks.Pairwise fun a b => a.position.Before b.position := by
  obtain ⟨lead, pieces, hline, hlead, hpieces, rfl⟩ :=
    (scan_tokensFrom .start line.toList).tiles h
  refine ⟨lead, pieces, hline, hlead, hpieces, length_placed _ _ _, ?_, ?_, ?_⟩
  · intro i piece hpiece
    rw [placed_getElem? hpiece, Position.advanceBy_start]
  · rw [placed_last, Position.advanceBy_start, hline]
  · exact pairwise_placed (fun piece hpiece => (hpieces piece hpiece).nonempty) _ _

/-- A string that goes over a line feed, and a number with a separator. -/
theorem tokens_tile_twoLines :
    tokens "a\"x\ny\" 1_0\n" = .ok [⟨.identifier, "a", ⟨1, 1⟩⟩,
      ⟨.string, "\"x\ny\"", ⟨1, 2⟩⟩, ⟨.number, "10", ⟨2, 4⟩⟩, ⟨.endOfInput, "", ⟨3, 1⟩⟩] ∧
    ∃ lead pieces, "a\"x\ny\" 1_0\n".toList = layout lead pieces ∧
      (∀ piece ∈ pieces, piece.Cut) ∧ pieces.length = 3 ∧
      Position.behind (layout lead pieces) = ⟨3, 1⟩ := by
  have htokens : tokens "a\"x\ny\" 1_0\n" = .ok [⟨.identifier, "a", ⟨1, 1⟩⟩,
      ⟨.string, "\"x\ny\"", ⟨1, 2⟩⟩, ⟨.number, "10", ⟨2, 4⟩⟩, ⟨.endOfInput, "", ⟨3, 1⟩⟩] := by
    decide +kernel
  obtain ⟨lead, pieces, hline, -, hcut, hlength, -, hlast, -⟩ := tokens_tile htokens
  have hthree : pieces.length = 3 := by simpa using hlength.symm
  refine ⟨htokens, lead, pieces, hline, hcut, hthree, ?_⟩
  rw [hthree] at hlast
  rw [← hline]
  exact (congrArg Token.position (Option.some.inj hlast)).symm

end CommandConsole
