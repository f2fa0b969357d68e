import CommandConsole.Proofs.Lexemes
import CommandConsole.Proofs.Results
import CommandConsole.StringLiteral

/-!
# Writing string literals

The other direction of `StringLiteral.decode`: a text is quoted by doubling its
backslashes and spelling its line feeds. Any text is decoded back
(`decode_quote`), but only a text without quotes is quoted to a lexeme
(`isQuotation_quote`), and the literals that decode to just these texts are the
lexemes (`isQuotation_iff`).
-/

namespace CommandConsole.StringLiteral

def escapeChar (c : Char) : List Char :=
  if c = '\\' then ['\\', '\\'] else if c = '\n' then ['\\', 'n'] else [c]

def escape (s : List Char) : List Char := s.flatMap escapeChar

def quote (text : String) : String :=
  String.ofList ('"' :: (escape text.toList ++ ['"']))

/-! ## Decoding what was written -/

theorem body?_quoted (body : List Char) : body? ('"' :: (body ++ ['"'])) = some body := by
  rw [body?, if_pos ⟨rfl, List.getLast?_concat⟩, List.dropLast_concat]

theorem decodeBody_plain {c : Char} (h : c ≠ '\\') (rest : List Char) :
    decodeBody (c :: rest) = (decodeBody rest).map (c :: ·) := by
  rw [decodeBody.eq_def]
  simp only [if_neg h]

theorem decodeBody_backslash (rest : List Char) :
    decodeBody ('\\' :: '\\' :: rest) = (decodeBody rest).map ('\\' :: ·) := by
  rw [decodeBody.eq_def]
  rfl

theorem decodeBody_lineFeed (rest : List Char) :
    decodeBody ('\\' :: 'n' :: rest) = (decodeBody rest).map ('\n' :: ·) := by
  rw [decodeBody.eq_def]
  rfl

theorem decodeBody_escape (s : List Char) : decodeBody (escape s) = .ok s := by
  induction s with
  | nil => rfl
  | cons c s ih =>
      rw [escape, List.flatMap_cons, ← escape, escapeChar]
      split
      · rename_i hback
        rw [List.cons_append, List.cons_append, List.nil_append, decodeBody_backslash, ih, hback]
        rfl
      · split
        · rename_i hfeed
          rw [List.cons_append, List.cons_append, List.nil_append, decodeBody_lineFeed, ih, hfeed]
          rfl
        · rename_i hback _
          rw [List.cons_append, List.nil_append, decodeBody_plain hback, ih]
          rfl

theorem decode_quote (text : String) : decode (quote text) = .ok text := by
  rw [decode, quote, String.toList_ofList, body?_quoted]
  simp only [decodeBody_escape, String.ofList_toList]

/-! ## Literals that are lexemes -/

theorem stringBody_escapeChar {c : Char} (quote : c ≠ '"') {body : List Char}
    (h : StringBody body) : StringBody (escapeChar c ++ body) := by
  rw [escapeChar]
  split
  · exact .backslash h
  · split
    · exact .lineFeed h
    · exact .plain quote ‹_› h

theorem stringBody_escape {s : List Char} (h : '"' ∉ s) : StringBody (escape s) := by
  induction s with
  | nil => exact .nil
  | cons c s ih =>
      have hne : c ≠ '"' := fun he => h (he ▸ List.mem_cons_self)
      have hs : '"' ∉ s := fun hmem => h (List.mem_cons_of_mem c hmem)
      rw [escape, List.flatMap_cons, ← escape]
      exact stringBody_escapeChar hne (ih hs)

theorem isQuotation_quote {text : String} (h : '"' ∉ text.toList) :
    IsQuotation (quote text).toList := by
  rw [quote, String.toList_ofList]
  exact ⟨_, stringBody_escape h, rfl⟩

theorem decodeBody_of_stringBody {body : List Char} (h : StringBody body) :
    ∃ s, decodeBody body = .ok s ∧ '"' ∉ s := by
  induction h with
  | nil => exact ⟨[], rfl, List.not_mem_nil⟩
  | @plain c body hquote hback _ ih =>
      obtain ⟨s, hs, hfree⟩ := ih
      refine ⟨c :: s, ?_, by simp [hfree, Ne.symm hquote]⟩
      rw [decodeBody_plain hback, hs]
      rfl
  | backslash _ ih =>
      obtain ⟨s, hs, hfree⟩ := ih
      refine ⟨'\\' :: s, ?_, by simp [hfree]⟩
      rw [decodeBody_backslash, hs]
      rfl
  | lineFeed _ ih =>
      obtain ⟨s, hs, hfree⟩ := ih
      refine ⟨'\n' :: s, ?_, by simp [hfree]⟩
      rw [decodeBody_lineFeed, hs]
      rfl

theorem decode_quotation {literal : String} (h : IsQuotation literal.toList) :
    ∃ text, decode literal = .ok text ∧ '"' ∉ text.toList := by
  obtain ⟨body, hbody, heq⟩ := h
  obtain ⟨s, hs, hfree⟩ := decodeBody_of_stringBody hbody
  refine ⟨String.ofList s, ?_, by rwa [String.toList_ofList]⟩
  rw [decode, heq, body?_quoted]
  simp only [hs]

theorem eq_quoted_of_body? {literal body : List Char} (h : body? literal = some body) :
    literal = '"' :: (body ++ ['"']) := by
  cases literal with
  | nil => exact absurd h (by simp [body?])
  | cons c rest =>
      rw [body?] at h
      split at h
      · rename_i hquotes
        obtain ⟨rfl, hlast⟩ := hquotes
        obtain rfl := Option.some.inj h
        rw [List.dropLast_append_getLast? _ hlast]
      · exact absurd h (by simp)

theorem stringBody_of_decodeBody {body s : List Char} (h : decodeBody body = .ok s)
    (free : '"' ∉ s) : StringBody body := by
  fun_induction decodeBody body generalizing s with
  | case1 => exact .nil
  | case2 => exact absurd h (by simp)
  | case3 rest ih =>
      obtain ⟨t, ht, rfl⟩ := map_eq_ok.mp h
      exact .backslash (ih ht (List.not_mem_of_not_mem_cons free))
  | case4 rest _ ih =>
      obtain ⟨t, ht, rfl⟩ := map_eq_ok.mp h
      exact .lineFeed (ih ht (List.not_mem_of_not_mem_cons free))
  | case5 => exact absurd h (by simp)
  | case6 c rest hback ih =>
      obtain ⟨t, ht, rfl⟩ := map_eq_ok.mp h
      exact .plain (Ne.symm (List.ne_of_not_mem_cons free)) hback
        (ih ht (List.not_mem_of_not_mem_cons free))

/-- The lexemes among the literals are those that spell a text without quotes. -/
theorem isQuotation_iff {literal : String} :
    IsQuotation literal.toList ↔ ∃ text, decode literal = .ok text ∧ '"' ∉ text.toList := by
  refine ⟨decode_quotation, ?_⟩
  rintro ⟨text, htext, hfree⟩
  rw [decode] at htext
  split at htext
  · exact absurd htext (by simp)
  · rename_i body hbody
    split at htext
    · rename_i s hs
      obtain rfl := Except.ok.inj htext
      rw [String.toList_ofList] at hfree
      exact ⟨body, stringBody_of_decodeBody hs hfree, eq_quoted_of_body? hbody⟩
    · exact absurd htext (by simp)

end CommandConsole.StringLiteral
