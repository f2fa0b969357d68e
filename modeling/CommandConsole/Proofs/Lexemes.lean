import CommandConsole.Proofs.Characters
import CommandConsole.Token.Lexeme

/-!
# The lexical language

What the text of a token of each kind looks like (`IsLexeme`) and how it may be
written in a line (`Written`). Keywords are read here; the readers of numbers
and strings have modules of their own.
-/

namespace CommandConsole

/-! ## Lexemes -/

def keywords : List (List Char) :=
  ["true".toList, "false".toList, "null".toList]

def IsKeyword (s : List Char) : Prop := s.map Char.toLower ∈ keywords

instance (s : List Char) : Decidable (IsKeyword s) :=
  inferInstanceAs (Decidable (_ ∈ _))

/-- A name that a line may use: name characters, no digit in front, and not a
keyword. -/
structure IsIdentifier (s : List Char) : Prop where
  nonempty : s ≠ []
  named : ∀ c ∈ s, isNameChar c = true
  start : ∀ c ∈ s.head?, c.isDigit = false
  free : ¬ IsKeyword s

/-- A number without separators: a minus sign or none, digits with at most one
point, and at least one digit. -/
structure IsNumeral (s : List Char) : Prop where
  split : ∃ body, (s = body ∨ s = '-' :: body) ∧
    (∀ c ∈ body, c.isDigit = true ∨ c = '.') ∧ body.count '.' ≤ 1
  digit : ∃ c ∈ s, c.isDigit = true

/-- What may stand between the quotes of a string. -/
inductive StringBody : List Char → Prop where
  | nil : StringBody []
  | plain {c : Char} {s : List Char} (quote : c ≠ '"') (backslash : c ≠ '\\')
      (rest : StringBody s) : StringBody (c :: s)
  | backslash {s : List Char} (rest : StringBody s) : StringBody ('\\' :: '\\' :: s)
  | lineFeed {s : List Char} (rest : StringBody s) : StringBody ('\\' :: 'n' :: s)

def IsQuotation (s : List Char) : Prop :=
  ∃ body, StringBody body ∧ s = '"' :: (body ++ ['"'])

def IsLexeme : TokenKind → List Char → Prop
  | .number, s => IsNumeral s
  | .string, s => IsQuotation s
  | .identifier, s => IsIdentifier s
  | .trueWord, s => s.map Char.toLower = "true".toList
  | .falseWord, s => s.map Char.toLower = "false".toList
  | .nullWord, s => s.map Char.toLower = "null".toList
  | .endOfInput, _ => False

/-- How a lexeme may be written: as it is, and a number also with separators
anywhere after its first digit. -/
def Written : TokenKind → (text written : List Char) → Prop
  | .number, text, written =>
      written.filter (· ≠ '_') = text ∧
      '_' ∉ written.takeWhile fun c => !c.isDigit
  | _, text, written => written = text

/-! ## Keywords -/

theorem keyword_letters : ∀ word ∈ keywords, ∀ c ∈ word, c.isLower = true := by
  simp [keywords]

theorem alpha_of_word {word s : List Char} (hword : ∀ c ∈ word, c.isLower = true)
    (h : s.map Char.toLower = word) : ∀ c ∈ s, c.isAlpha = true := by
  intro c hc
  rw [← Char.isLower_toLower_eq_isAlpha]
  exact hword _ (h ▸ List.mem_map_of_mem hc)

/-- A text that does not start with a letter starts with no keyword. -/
theorem no_keyword_of_head {s : List Char} (h : ∀ c ∈ s.head?, c.isAlpha = false) :
    ¬ IsKeyword (s.takeWhile isNameChar) := by
  intro hkey
  have halpha := alpha_of_word (keyword_letters _ hkey) rfl
  cases s with
  | nil => exact absurd hkey (by decide +kernel)
  | cons c s =>
      have hc : c.isAlpha = false := h c rfl
      by_cases hname : isNameChar c = true
      · rw [List.takeWhile_cons_of_pos hname] at halpha
        rw [halpha c List.mem_cons_self] at hc
        exact Bool.noConfusion hc
      · rw [List.takeWhile_cons_of_neg hname] at hkey
        exact absurd hkey (by decide +kernel)

/-- A keyword is read exactly where all name characters at the start of the
text spell it. -/
theorem keyword?_eq {kind : TokenKind} {word : List Char}
    (hword : ∀ c ∈ word, c.isLower = true) (s : List Char) :
    Lexeme.keyword? kind word s =
      if (s.takeWhile isNameChar).map Char.toLower = word then
        some ⟨kind, s.takeWhile isNameChar, word.length⟩
      else none := by
  have hsplit := List.takeWhile_append_dropWhile (p := isNameChar) (l := s)
  unfold Lexeme.keyword?
  by_cases h : (s.takeWhile isNameChar).map Char.toLower = word
  · have hlen : word.length = (s.takeWhile isNameChar).length := by
      rw [← h, List.length_map]
    have htake : (s.takeWhile isNameChar ++ s.dropWhile isNameChar).take
        (s.takeWhile isNameChar).length = s.takeWhile isNameChar := List.take_left
    have hdrop : (s.takeWhile isNameChar ++ s.dropWhile isNameChar).drop
        (s.takeWhile isNameChar).length = s.dropWhile isNameChar := List.drop_left
    rw [hsplit, ← hlen] at htake hdrop
    have hstop : ¬ (s.dropWhile isNameChar).head?.any isNameChar = true := by
      have := List.head?_dropWhile_not isNameChar s
      cases hd : (s.dropWhile isNameChar).head? with
      | none => simp
      | some c => simpa [hd] using this
    rw [if_pos h, htake, hdrop]
    exact if_pos ⟨h, hstop⟩
  · rw [if_neg h]
    refine if_neg ?_
    rintro ⟨hmap, hstop⟩
    -- The candidate spells the word, so it consists of letters and is all of
    -- the name characters at the start.
    have hnamed : ∀ c ∈ s.take word.length, isNameChar c = true :=
      fun c hc => isNameChar_of_isAlpha (alpha_of_word hword hmap c hc)
    have hrest : (s.drop word.length).takeWhile isNameChar = [] := by
      cases hd : s.drop word.length with
      | nil => rfl
      | cons c rest =>
          rw [hd] at hstop
          exact List.takeWhile_cons_of_neg (by simpa using hstop)
    apply h
    conv_lhs => rw [← List.take_append_drop word.length s]
    rw [List.takeWhile_append_of_pos hnamed, hrest, List.append_nil]
    exact hmap

end CommandConsole
