import CommandConsole.Proofs.Numerals
import CommandConsole.Proofs.Quotations

/-!
# Reading any lexeme

The readers in their order. A written lexeme with nothing but blanks behind it
is read as it is (`read?_written`), and whatever is read is a written lexeme,
except for digits in front of two points, behind which nothing more can be read
(`written_of_read?`).
-/

namespace CommandConsole

/-- What follows a lexeme that is written on its own: a blank or nothing. -/
def Apart (rest : List Char) : Prop := ∀ c ∈ rest.head?, Text.isBlank c = true

theorem Apart.stops {rest : List Char} (h : Apart rest) : Stops rest := by
  intro c hc
  obtain ⟨hdigit, hpoint, hline, -⟩ := isBlank_stops_number (h c hc)
  exact ⟨hdigit, hpoint, hline⟩

theorem takeWhile_append_stop {p : Char → Bool} {s rest : List Char}
    (stop : ∀ c ∈ rest.head?, p c = false) : (s ++ rest).takeWhile p = s.takeWhile p := by
  induction s with
  | nil =>
      cases rest with
      | nil => rfl
      | cons c rest =>
          rw [List.nil_append, List.takeWhile_cons_of_neg (by simp [stop c rfl])]
          rfl
  | cons c s ih => rw [List.cons_append, List.takeWhile_cons, List.takeWhile_cons, ih]

theorem Apart.takeWhile_named {rest : List Char} (apart : Apart rest) (s : List Char) :
    (s ++ rest).takeWhile isNameChar = s.takeWhile isNameChar :=
  takeWhile_append_stop fun c hc => isNameChar_of_isBlank (apart c hc)

theorem takeWhile_name_append {name rest : List Char}
    (h : ∀ c ∈ name, isNameChar c = true) (apart : Apart rest) :
    (name ++ rest).takeWhile isNameChar = name := by
  rw [apart.takeWhile_named, List.takeWhile_eq_self_iff.mpr h]

def wordKinds : List TokenKind := [.trueWord, .falseWord, .nullWord]

theorem isKeyword_iff {s : List Char} :
    IsKeyword s ↔ ∃ kind ∈ wordKinds, IsLexeme kind s := by
  simp [IsKeyword, keywords, wordKinds, IsLexeme]

/-- A keyword is read where the name characters at the start spell it. -/
theorem read?_keyword {kind : TokenKind} (hkind : kind ∈ wordKinds) {s : List Char}
    (h : IsLexeme kind (s.takeWhile isNameChar)) :
    Lexeme.read? s =
      .ok (some ⟨kind, s.takeWhile isNameChar, (s.takeWhile isNameChar).length⟩) := by
  have hlen : (s.takeWhile isNameChar).length =
      ((s.takeWhile isNameChar).map Char.toLower).length :=
    (List.length_map _).symm
  unfold Lexeme.read?
  rw [keyword?_eq (keyword_letters _ (by simp [keywords])),
    keyword?_eq (keyword_letters _ (by simp [keywords])),
    keyword?_eq (keyword_letters _ (by simp [keywords])), hlen]
  rcases List.mem_cons.mp hkind with rfl | hkind
  · have hmap : (s.takeWhile isNameChar).map Char.toLower = "true".toList := h
    simp [hmap]
  · rcases List.mem_cons.mp hkind with rfl | hkind
    · have hmap : (s.takeWhile isNameChar).map Char.toLower = "false".toList := h
      simp [hmap]
    · obtain rfl := List.mem_singleton.mp hkind
      have hmap : (s.takeWhile isNameChar).map Char.toLower = "null".toList := h
      simp [hmap]

theorem read?_of_no_keyword {s : List Char}
    (h : ¬ IsKeyword (s.takeWhile isNameChar)) :
    Lexeme.read? s =
      match Lexeme.number? s with
      | some lexeme => .ok (some lexeme)
      | none =>
          match Lexeme.string? s with
          | .ok none => .ok (Lexeme.identifier? s)
          | string => string := by
  simp only [IsKeyword, keywords, List.mem_cons, List.not_mem_nil, or_false, not_or] at h
  unfold Lexeme.read?
  rw [keyword?_eq (keyword_letters _ (by simp [keywords])),
    keyword?_eq (keyword_letters _ (by simp [keywords])),
    keyword?_eq (keyword_letters _ (by simp [keywords])),
    if_neg h.1, if_neg h.2.1, if_neg h.2.2]
  rfl

theorem read?_word {kind : TokenKind} (hkind : kind ∈ wordKinds) {text rest : List Char}
    (h : IsLexeme kind text) (apart : Apart rest) :
    Lexeme.read? (text ++ rest) = .ok (some ⟨kind, text, text.length⟩) := by
  have hname : (text ++ rest).takeWhile isNameChar = text := by
    refine takeWhile_name_append (fun c hc => isNameChar_of_isAlpha ?_) apart
    exact alpha_of_word (keyword_letters _ (isKeyword_iff.mpr ⟨kind, hkind, h⟩)) rfl c hc
  rw [read?_keyword hkind (by rwa [hname]), hname]

theorem read?_quote (rest : List Char) :
    Lexeme.read? ('"' :: rest) = Lexeme.string? ('"' :: rest) := by
  rw [read?_of_no_keyword (no_keyword_of_head (by simp)),
    number?_none (by decide) (by decide) (by decide)]
  have hsome : Lexeme.string? ('"' :: rest) ≠ .ok none := by
    rw [Lexeme.string?, if_pos rfl]
    split <;> simp
  cases hstring : Lexeme.string? ('"' :: rest) with
  | error fault => rfl
  | ok lexeme =>
      cases lexeme with
      | none => exact absurd hstring hsome
      | some lexeme => rfl

theorem IsNumeral.head_written {text written : List Char} (h : IsNumeral text)
    (hw : Written .number text written) :
    ∃ c tail, written = c :: tail ∧ (c.isDigit = true ∨ c = '-' ∨ c = '.') := by
  obtain ⟨rfl, hseps⟩ := hw
  obtain ⟨digit, hdigit, -⟩ := h.digit
  cases written with
  | nil => simp at hdigit
  | cons c tail =>
      refine ⟨c, tail, rfl, ?_⟩
      have hline : c ≠ '_' := by
        rintro rfl
        exact absurd (by simp) hseps
      obtain ⟨body, hbody, hchars, -⟩ := h.split
      rw [List.filter_cons_of_pos (by simpa using hline)] at hbody
      rcases hbody with rfl | hbody
      · rcases hchars c List.mem_cons_self with hc | hc
        · exact Or.inl hc
        · exact Or.inr (Or.inr hc)
      · exact Or.inr (Or.inl (List.cons.inj hbody).1)

theorem read?_written {kind : TokenKind} {text written rest : List Char}
    (h : IsLexeme kind text) (hw : Written kind text written) (apart : Apart rest) :
    Lexeme.read? (written ++ rest) = .ok (some ⟨kind, text, written.length⟩) := by
  cases kind with
  | trueWord | falseWord | nullWord =>
      obtain rfl : written = text := hw
      exact read?_word (by simp [wordKinds]) h apart
  | number =>
      have hnumber := number?_written h hw apart.stops
      obtain ⟨c, tail, rfl, hc⟩ := h.head_written hw
      have halpha : c.isAlpha = false := by
        rcases hc with hc | rfl | rfl
        · exact not_isAlpha_of_isDigit hc
        · rfl
        · rfl
      rw [read?_of_no_keyword (no_keyword_of_head (by simpa using halpha)), hnumber]
  | string =>
      obtain rfl : written = text := hw
      have hstring := string?_quotation h rest
      obtain ⟨body, -, rfl⟩ := h
      rw [List.cons_append] at hstring ⊢
      rw [read?_quote, hstring]
  | identifier =>
      obtain rfl : written = text := hw
      have hname : (written ++ rest).takeWhile isNameChar = written :=
        takeWhile_name_append h.named apart
      rw [read?_of_no_keyword (by rw [hname]; exact h.free)]
      have hidentifier : Lexeme.identifier? (written ++ rest) =
          some ⟨.identifier, written, written.length⟩ := by
        rw [Lexeme.identifier?, hname, if_neg h.nonempty]
      obtain ⟨c, name, rfl⟩ := List.exists_cons_of_ne_nil h.nonempty
      have hc : isNameChar c = true := h.named c List.mem_cons_self
      have hquote : c ≠ '"' := ne_of_isNameChar hc (by simp)
      rw [hidentifier, List.cons_append,
        number?_none (h.start c rfl) (ne_of_isNameChar hc (by simp))
          (ne_of_isNameChar hc (by simp)),
        string?_unquoted (by simpa using hquote)]
  | endOfInput => exact h.elim

theorem stuck_behind_digits {s : List Char} (hnumber : Lexeme.number? s = none)
    (hstart : ∃ c, s.head? = some c ∧ c.isDigit = true) :
    (s.dropWhile isNameChar).head? = some '.' ∧
      Lexeme.read? (s.dropWhile isNameChar) = .ok none := by
  obtain ⟨c, hc, hdigit⟩ := hstart
  obtain ⟨tail, rfl⟩ := List.head?_eq_some_iff.mp hc
  obtain ⟨run, mid, rest, hs, -, hrun, hmid⟩ := two_points_of_number? hdigit hnumber
  have hdrop : (c :: tail).dropWhile isNameChar = '.' :: (mid ++ '.' :: rest) := by
    rw [hs, List.dropWhile_append_of_pos hrun, List.dropWhile_cons_of_neg (by simp)]
  rw [hdrop, read?_of_no_keyword (no_keyword_of_head (by simp)),
    number?_between_points hmid, string?_unquoted (by simp), Lexeme.identifier?,
    List.takeWhile_cons_of_neg (by simp)]
  exact ⟨rfl, rfl⟩

/-- Whatever is read is a written lexeme, except for digits in front of two
points: these are taken for an identifier, and nothing is read behind them. -/
theorem written_of_read? {s : List Char} {lexeme : Lexeme}
    (h : Lexeme.read? s = .ok (some lexeme)) :
    ∃ kind text written rest, s = written ++ rest ∧ written ≠ [] ∧
      lexeme = ⟨kind, text, written.length⟩ ∧ Written kind text written ∧
      (IsLexeme kind text ∨
        kind = .identifier ∧ rest.head? = some '.' ∧ Lexeme.read? rest = .ok none) := by
  have hsplit := List.takeWhile_append_dropWhile (p := isNameChar) (l := s)
  by_cases hkey : IsKeyword (s.takeWhile isNameChar)
  · obtain ⟨kind, hkind, hlex⟩ := isKeyword_iff.mp hkey
    rw [read?_keyword hkind hlex] at h
    obtain rfl := Option.some.inj (Except.ok.inj h)
    refine ⟨kind, _, _, _, hsplit.symm, ?_, rfl, ?_, Or.inl hlex⟩
    · intro hnil
      rw [hnil] at hkey
      exact absurd hkey (by simp [IsKeyword, keywords])
    · rcases List.mem_cons.mp hkind with rfl | hkind
      · rfl
      · rcases List.mem_cons.mp hkind with rfl | hkind
        · rfl
        · obtain rfl := List.mem_singleton.mp hkind
          rfl
  · rw [read?_of_no_keyword hkey] at h
    split at h
    · rename_i number hnumber
      obtain rfl := Option.some.inj (Except.ok.inj h)
      obtain ⟨text, written, rest, hs, hne, rfl, hnum, hw⟩ := written_of_number? hnumber
      exact ⟨.number, text, written, rest, hs, hne, rfl, hw, Or.inl hnum⟩
    · rename_i hnumber
      split at h
      · rename_i hstring
        have hid := Except.ok.inj h
        rw [Lexeme.identifier?] at hid
        split at hid
        · exact absurd hid (by simp)
        · rename_i hname
          obtain rfl := Option.some.inj hid
          refine ⟨.identifier, _, _, _, hsplit.symm, hname, rfl, rfl, ?_⟩
          by_cases hstart : ∀ c ∈ (s.takeWhile isNameChar).head?, c.isDigit = false
          · exact Or.inl ⟨hname, fun c hc => List.mem_takeWhile_imp hc, hstart, hkey⟩
          · -- A name that begins with a digit: the number reader refused it.
            refine Or.inr ⟨rfl, stuck_behind_digits hnumber ?_⟩
            rw [List.head?_takeWhile] at hstart
            push Not at hstart
            obtain ⟨c, hc, hdigit⟩ := hstart
            exact ⟨c, (Option.filter_eq_some_iff.mp hc).1, by simpa using hdigit⟩
      · obtain ⟨text, rest, hs, rfl, hquote⟩ := quotation_of_string? h
        refine ⟨.string, text, text, rest, hs, ?_, rfl, rfl, Or.inl hquote⟩
        rintro rfl
        obtain ⟨body, -, hnil⟩ := hquote
        exact absurd hnil (by simp)

end CommandConsole
