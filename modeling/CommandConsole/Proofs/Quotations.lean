import CommandConsole.Proofs.Lexemes

/-!
# Reading strings in a line

The reader of strings stops at the first quote that no backslash belongs to. It
takes a quotation whatever follows it (`string?_quotation`), and takes nothing
else (`quotation_of_string?`).
-/

namespace CommandConsole

theorem continued_eq_ok {front text : List Char} {r : Except StringFault (List Char)} :
    Lexeme.stringTail.continued front r = .ok text ↔
      ∃ tail, r = .ok tail ∧ text = front ++ tail := by
  unfold Lexeme.stringTail.continued
  split <;> simp [eq_comm]

theorem stringTail_quote (rest : List Char) :
    Lexeme.stringTail ('"' :: rest) = .ok ['"'] := by
  rw [Lexeme.stringTail.eq_def]
  rfl

theorem stringTail_plain {c : Char} (quote : c ≠ '"') (backslash : c ≠ '\\')
    (rest : List Char) :
    Lexeme.stringTail (c :: rest) =
      Lexeme.stringTail.continued [c] (Lexeme.stringTail rest) := by
  rw [Lexeme.stringTail.eq_def]
  simp only [if_neg quote, if_neg backslash]

theorem stringTail_escape {e : Char} (he : e = '\\' ∨ e = 'n') (rest : List Char) :
    Lexeme.stringTail ('\\' :: e :: rest) =
      Lexeme.stringTail.continued ['\\', e] (Lexeme.stringTail rest) := by
  rw [Lexeme.stringTail.eq_def]
  rcases he with rfl | rfl <;> rfl

theorem stringTail_broken {e : Char} (he : ¬ (e = '\\' ∨ e = 'n')) (rest : List Char) :
    Lexeme.stringTail ('\\' :: e :: rest) = .error (.invalidEscape [] e) := by
  rw [Lexeme.stringTail.eq_def]
  simp only [if_neg he]
  rfl

theorem continued_append (front back : List Char) (r : Except StringFault (List Char)) :
    Lexeme.stringTail.continued front (Lexeme.stringTail.continued back r) =
      Lexeme.stringTail.continued (front ++ back) r := by
  cases r with
  | ok text => simp [Lexeme.stringTail.continued]
  | error fault =>
      cases fault with
      | invalidEscape before found => simp [Lexeme.stringTail.continued]
      | unterminated => rfl

theorem stringTail_body {body : List Char} (h : StringBody body) (rest : List Char) :
    Lexeme.stringTail (body ++ rest) =
      Lexeme.stringTail.continued body (Lexeme.stringTail rest) := by
  induction h with
  | nil =>
      cases hr : Lexeme.stringTail rest with
      | ok text => simp [hr, Lexeme.stringTail.continued]
      | error fault => cases fault <;> simp [hr, Lexeme.stringTail.continued]
  | @plain c s quote backslash _ ih =>
      rw [List.cons_append, stringTail_plain quote backslash, ih, continued_append]
      rfl
  | @backslash s _ ih =>
      rw [List.cons_append, List.cons_append, stringTail_escape (Or.inl rfl), ih,
        continued_append]
      rfl
  | @lineFeed s _ ih =>
      rw [List.cons_append, List.cons_append, stringTail_escape (Or.inr rfl), ih,
        continued_append]
      rfl

theorem stringTail_append {body : List Char} (h : StringBody body) (rest : List Char) :
    Lexeme.stringTail (body ++ '"' :: rest) = .ok (body ++ ['"']) := by
  rw [stringTail_body h, stringTail_quote]
  rfl

theorem body_of_stringTail {s text : List Char} (h : Lexeme.stringTail s = .ok text) :
    ∃ body rest, s = body ++ '"' :: rest ∧ StringBody body ∧ text = body ++ ['"'] := by
  fun_induction Lexeme.stringTail s generalizing text with
  | case1 => simp at h
  | case2 rest =>
      obtain rfl := Except.ok.inj h
      exact ⟨[], rest, rfl, .nil, rfl⟩
  | case3 => simp at h
  | case4 e rest he _ ih =>
      obtain ⟨tail, htail, rfl⟩ := continued_eq_ok.mp h
      obtain ⟨body, rest', rfl, hbody, rfl⟩ := ih htail
      refine ⟨'\\' :: e :: body, rest', rfl, ?_, rfl⟩
      rcases he with rfl | rfl
      · exact .backslash hbody
      · exact .lineFeed hbody
  | case5 => simp at h
  | case6 c rest quote backslash ih =>
      obtain ⟨tail, htail, rfl⟩ := continued_eq_ok.mp h
      obtain ⟨body, rest', rfl, hbody, rfl⟩ := ih htail
      exact ⟨c :: body, rest', rfl, .plain quote backslash hbody, rfl⟩

theorem string?_quotation {text : List Char} (h : IsQuotation text) (rest : List Char) :
    Lexeme.string? (text ++ rest) = .ok (some ⟨.string, text, text.length⟩) := by
  obtain ⟨body, hbody, rfl⟩ := h
  have htail := stringTail_append hbody rest
  simp [Lexeme.string?, htail]

theorem quotation_of_string? {s : List Char} {lexeme : Lexeme}
    (h : Lexeme.string? s = .ok (some lexeme)) :
    ∃ text rest, s = text ++ rest ∧ lexeme = ⟨.string, text, text.length⟩ ∧
      IsQuotation text := by
  cases s with
  | nil => simp [Lexeme.string?] at h
  | cons c s =>
      rw [Lexeme.string?] at h
      split at h
      · rename_i hc
        subst hc
        split at h
        · rename_i text htext
          obtain ⟨body, rest, rfl, hbody, rfl⟩ := body_of_stringTail htext
          obtain rfl := Option.some.inj (Except.ok.inj h)
          exact ⟨'"' :: (body ++ ['"']), rest, by simp, by simp, body, hbody, rfl⟩
        · exact absurd h (by simp)
        · exact absurd h (by simp)
      · exact absurd h (by simp)

theorem string?_unquoted {s : List Char} (h : s.head? ≠ some '"') :
    Lexeme.string? s = .ok none := by
  cases s with
  | nil => rfl
  | cons c s => rw [Lexeme.string?, if_neg (by simpa using h)]

end CommandConsole
