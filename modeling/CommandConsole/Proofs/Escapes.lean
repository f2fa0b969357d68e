import CommandConsole.Proofs.StringLiterals

/-!
# Escapes in string literals

A literal is accepted if it is quoted and its body falls, from the left, into escapes and
characters other than the backslash (`Paired`). Otherwise there is a first backslash that
starts no escape (`FirstWrong`). Quoting a text again gives the literal it was decoded from,
up to line feeds that stand in it as they are (`spelled`).

Main result (`StringLiteral.decode_exact`): what decoding accepts, what it rejects and with
which error, and when two literals have one value.
-/

namespace CommandConsole.StringLiteral

/-- The literal has a quote of its own at either end, and `body` between them. -/
def Quoted (literal : String) (body : List Char) : Prop :=
  literal.toList = '"' :: (body ++ ['"'])

/-- A text that falls into escapes and other characters. -/
inductive Paired : List Char → Prop where
  | nil : Paired []
  | plain {c : Char} {s : List Char} (backslash : c ≠ '\\') (rest : Paired s) : Paired (c :: s)
  | escape {e : Char} {s : List Char} (letter : e = '\\' ∨ e = 'n') (rest : Paired s) :
      Paired ('\\' :: e :: s)

/-- The first backslash of the body that starts no escape, with the character behind it if there
is one. -/
def FirstWrong (body sequence : List Char) : Prop :=
  ∃ front, Paired front ∧
    ((body = front ++ ['\\'] ∧ sequence = ['\\']) ∨
      ∃ e after, body = front ++ '\\' :: e :: after ∧ ¬ (e = '\\' ∨ e = 'n') ∧
        sequence = ['\\', e])

def spellFeeds (s : List Char) : List Char :=
  s.flatMap fun c => if c = '\n' then ['\\', 'n'] else [c]

def spelled (literal : String) : String := String.ofList (spellFeeds literal.toList)

/-! ## What is accepted -/

/-- A front that falls into escapes and characters is decoded by itself. -/
theorem Paired.decodeBody_append {front : List Char} (h : Paired front) :
    ∃ s, ∀ rest, decodeBody (front ++ rest) = (decodeBody rest).map (s ++ ·) := by
  induction h with
  | nil =>
      refine ⟨[], fun rest => ?_⟩
      rw [List.nil_append]
      cases decodeBody rest <;> rfl
  | @plain c front backslash _ ih =>
      obtain ⟨s, hs⟩ := ih
      refine ⟨c :: s, fun rest => ?_⟩
      rw [List.cons_append, decodeBody_plain backslash, hs]
      cases decodeBody rest <;> rfl
  | @escape e front letter _ ih =>
      obtain ⟨s, hs⟩ := ih
      rcases letter with rfl | rfl
      · refine ⟨'\\' :: s, fun rest => ?_⟩
        rw [List.cons_append, List.cons_append, decodeBody_backslash, hs]
        cases decodeBody rest <;> rfl
      · refine ⟨'\n' :: s, fun rest => ?_⟩
        rw [List.cons_append, List.cons_append, decodeBody_lineFeed, hs]
        cases decodeBody rest <;> rfl

theorem paired_of_decodeBody {body s : List Char} (h : decodeBody body = .ok s) : Paired body := by
  fun_induction decodeBody body generalizing s with
  | case1 => exact .nil
  | case2 => exact absurd h (by simp)
  | case3 rest ih =>
      obtain ⟨t, ht, -⟩ := map_eq_ok.mp h
      exact .escape (Or.inl rfl) (ih ht)
  | case4 rest _ ih =>
      obtain ⟨t, ht, -⟩ := map_eq_ok.mp h
      exact .escape (Or.inr rfl) (ih ht)
  | case5 => exact absurd h (by simp)
  | case6 c rest hback ih =>
      obtain ⟨t, ht, -⟩ := map_eq_ok.mp h
      exact .plain hback (ih ht)

theorem exists_decodeBody_iff {body : List Char} :
    (∃ s, decodeBody body = .ok s) ↔ Paired body := by
  constructor
  · rintro ⟨s, hs⟩
    exact paired_of_decodeBody hs
  · intro h
    obtain ⟨s, hs⟩ := h.decodeBody_append
    have hall := hs []
    rw [List.append_nil] at hall
    exact ⟨_, hall⟩

/-- What is decoded is written as the body was, its line feeds apart. -/
theorem escape_of_decodeBody {body s : List Char} (h : decodeBody body = .ok s) :
    escape s = spellFeeds body := by
  fun_induction decodeBody body generalizing s with
  | case1 =>
      obtain rfl := Except.ok.inj h
      rfl
  | case2 => exact absurd h (by simp)
  | case3 rest ih =>
      obtain ⟨t, ht, rfl⟩ := map_eq_ok.mp h
      exact congrArg (['\\', '\\'] ++ ·) (ih ht)
  | case4 rest _ ih =>
      obtain ⟨t, ht, rfl⟩ := map_eq_ok.mp h
      exact congrArg (['\\', 'n'] ++ ·) (ih ht)
  | case5 => exact absurd h (by simp)
  | case6 c rest hback ih =>
      obtain ⟨t, ht, rfl⟩ := map_eq_ok.mp h
      rw [escape, spellFeeds, List.flatMap_cons, List.flatMap_cons, ← escape, ← spellFeeds, ih ht,
        escapeChar, if_neg hback]

/-! ## What is rejected -/

theorem FirstWrong.plain {c : Char} (backslash : c ≠ '\\') {body sequence : List Char}
    (h : FirstWrong body sequence) : FirstWrong (c :: body) sequence := by
  obtain ⟨front, hfront, ⟨rfl, rfl⟩ | ⟨e, after, rfl, he, rfl⟩⟩ := h
  · exact ⟨c :: front, .plain backslash hfront, Or.inl ⟨rfl, rfl⟩⟩
  · exact ⟨c :: front, .plain backslash hfront, Or.inr ⟨e, after, rfl, he, rfl⟩⟩

theorem FirstWrong.escape {e : Char} (letter : e = '\\' ∨ e = 'n') {body sequence : List Char}
    (h : FirstWrong body sequence) : FirstWrong ('\\' :: e :: body) sequence := by
  obtain ⟨front, hfront, ⟨rfl, rfl⟩ | ⟨other, after, rfl, hother, rfl⟩⟩ := h
  · exact ⟨'\\' :: e :: front, .escape letter hfront, Or.inl ⟨rfl, rfl⟩⟩
  · exact ⟨'\\' :: e :: front, .escape letter hfront, Or.inr ⟨other, after, rfl, hother, rfl⟩⟩

theorem firstWrong_of_decodeBody {body sequence : List Char}
    (h : decodeBody body = .error sequence) : FirstWrong body sequence := by
  fun_induction decodeBody body with
  | case1 => exact absurd h (by simp)
  | case2 =>
      obtain rfl := Except.error.inj h
      exact ⟨[], .nil, Or.inl ⟨rfl, rfl⟩⟩
  | case3 rest ih => exact (ih (map_eq_error.mp h)).escape (Or.inl rfl)
  | case4 rest _ ih => exact (ih (map_eq_error.mp h)).escape (Or.inr rfl)
  | case5 e rest hback hfeed =>
      obtain rfl := Except.error.inj h
      exact ⟨[], .nil, Or.inr ⟨e, rest, rfl, not_or.mpr ⟨hback, hfeed⟩, rfl⟩⟩
  | case6 c rest hback ih => exact (ih (map_eq_error.mp h)).plain hback

theorem decodeBody_eq_error {body sequence : List Char} :
    decodeBody body = .error sequence ↔ FirstWrong body sequence := by
  refine ⟨firstWrong_of_decodeBody, ?_⟩
  rintro ⟨front, hfront, ⟨rfl, rfl⟩ | ⟨e, after, rfl, he, rfl⟩⟩
  · obtain ⟨s, hs⟩ := hfront.decodeBody_append
    rw [hs]
    rfl
  · obtain ⟨s, hs⟩ := hfront.decodeBody_append
    obtain ⟨hback, hfeed⟩ := not_or.mp he
    have hwrong : decodeBody ('\\' :: e :: after) = .error ['\\', e] := by
      rw [decodeBody.eq_def]
      simp only [if_neg hback, if_neg hfeed]
      rfl
    rw [hs, hwrong]
    rfl

/-! ## Whole literals -/

theorem body?_eq_some {literal : String} {body : List Char} :
    body? literal.toList = some body ↔ Quoted literal body := by
  refine ⟨eq_quoted_of_body?, fun h => ?_⟩
  rw [h, body?_quoted]

theorem decode_of_quoted {literal : String} {body : List Char} (h : Quoted literal body) :
    (∃ s, decodeBody body = .ok s ∧ decode literal = .ok (String.ofList s)) ∨
      ∃ sequence, decodeBody body = .error sequence ∧
        decode literal = .error (.invalidEscape literal (String.ofList sequence)) := by
  rw [decode, body?_eq_some.mpr h]
  cases hbody : decodeBody body with
  | ok s => exact Or.inl ⟨s, rfl, by simp only [hbody]⟩
  | error sequence => exact Or.inr ⟨sequence, rfl, by simp only [hbody]⟩

theorem decode_of_not_quoted {literal : String} (h : ¬ ∃ body, Quoted literal body) :
    decode literal = .error (.malformed literal) := by
  have hnone : body? literal.toList = none := by
    rw [Option.eq_none_iff_forall_ne_some]
    exact fun body hbody => h ⟨body, body?_eq_some.mp hbody⟩
  rw [decode, hnone]

theorem decode_eq_ok {literal text : String} :
    decode literal = .ok text ↔
      ∃ body, Quoted literal body ∧ decodeBody body = .ok text.toList := by
  constructor
  · intro h
    by_cases hquoted : ∃ body, Quoted literal body
    · obtain ⟨body, hbody⟩ := hquoted
      rcases decode_of_quoted hbody with ⟨s, hs, hdecode⟩ | ⟨sequence, -, hdecode⟩
      · obtain rfl := Except.ok.inj (hdecode.symm.trans h)
        exact ⟨body, hbody, by rw [hs, String.toList_ofList]⟩
      · exact absurd (hdecode.symm.trans h) (by simp)
    · exact absurd ((decode_of_not_quoted hquoted).symm.trans h) (by simp)
  · rintro ⟨body, hbody, hs⟩
    rw [decode, body?_eq_some.mpr hbody]
    simp only [hs, String.ofList_toList]

theorem decode_eq_malformed {literal named : String} :
    decode literal = .error (.malformed named) ↔
      named = literal ∧ ¬ ∃ body, Quoted literal body := by
  constructor
  · intro h
    have hquoted : ¬ ∃ body, Quoted literal body := by
      rintro ⟨body, hbody⟩
      rcases decode_of_quoted hbody with ⟨s, -, hdecode⟩ | ⟨sequence, -, hdecode⟩
      · exact absurd (hdecode.symm.trans h) (by simp)
      · exact absurd (hdecode.symm.trans h) (by simp)
    have herror := Except.error.inj ((decode_of_not_quoted hquoted).symm.trans h)
    exact ⟨(StringLiteralError.malformed.inj herror).symm, hquoted⟩
  · rintro ⟨rfl, hquoted⟩
    exact decode_of_not_quoted hquoted

theorem decode_eq_invalidEscape {literal named sequence : String} :
    decode literal = .error (.invalidEscape named sequence) ↔
      named = literal ∧ ∃ body, Quoted literal body ∧ FirstWrong body sequence.toList := by
  constructor
  · intro h
    by_cases hquoted : ∃ body, Quoted literal body
    · obtain ⟨body, hbody⟩ := hquoted
      rcases decode_of_quoted hbody with ⟨s, -, hdecode⟩ | ⟨found, hfound, hdecode⟩
      · exact absurd (hdecode.symm.trans h) (by simp)
      · obtain ⟨rfl, rfl⟩ :=
          StringLiteralError.invalidEscape.inj (Except.error.inj (hdecode.symm.trans h))
        rw [String.toList_ofList]
        exact ⟨rfl, body, hbody, decodeBody_eq_error.mp hfound⟩
    · exact absurd ((decode_of_not_quoted hquoted).symm.trans h) (by simp)
  · rintro ⟨rfl, body, hbody, hwrong⟩
    rw [decode, body?_eq_some.mpr hbody]
    simp only [decodeBody_eq_error.mpr hwrong, String.ofList_toList]

/-- Quoting what was decoded gives the literal with its line feeds written as escapes. -/
theorem quote_of_decode {literal text : String} (h : decode literal = .ok text) :
    quote text = spelled literal := by
  obtain ⟨body, hbody, hs⟩ := decode_eq_ok.mp h
  have hspelled : spellFeeds ('"' :: (body ++ ['"'])) = '"' :: (spellFeeds body ++ ['"']) := by
    simp [spellFeeds]
  rw [quote, spelled, hbody, hspelled, escape_of_decodeBody hs]

theorem quote_injective : Function.Injective quote := by
  intro first second h
  have hdecode := congrArg decode h
  rw [decode_quote, decode_quote] at hdecode
  exact Except.ok.inj hdecode

/-- **Decoding inverts quoting, and accepts nothing else but line feeds as they are.** Every text
is decoded from its quoted form. A literal that is accepted differs from the quoted form of its
value only in line feeds, so that two of them have one value exactly if they agree once these are
written as escapes. Accepted are the quoted literals whose body falls into escapes and other
characters; a literal that is not quoted is malformed, and in the others the first backslash that
starts no escape is reported. -/
theorem decode_exact :
    (∀ text, decode (quote text) = .ok text) ∧
    (∀ literal text, decode literal = .ok text → quote text = spelled literal) ∧
    (∀ first second text other, decode first = .ok text → decode second = .ok other →
      (text = other ↔ spelled first = spelled second)) ∧
    ∀ literal,
      ((∃ text, decode literal = .ok text) ↔ ∃ body, Quoted literal body ∧ Paired body) ∧
      (∀ named, decode literal = .error (.malformed named) ↔
        named = literal ∧ ¬ ∃ body, Quoted literal body) ∧
      ∀ named sequence, decode literal = .error (.invalidEscape named sequence) ↔
        named = literal ∧ ∃ body, Quoted literal body ∧ FirstWrong body sequence.toList := by
  refine ⟨decode_quote, fun literal text => quote_of_decode, ?_, fun literal =>
    ⟨?_, fun named => decode_eq_malformed, fun named sequence => decode_eq_invalidEscape⟩⟩
  · intro first second text other hfirst hsecond
    rw [← quote_of_decode hfirst, ← quote_of_decode hsecond]
    exact quote_injective.eq_iff.symm
  · constructor
    · rintro ⟨text, htext⟩
      obtain ⟨body, hbody, hs⟩ := decode_eq_ok.mp htext
      exact ⟨body, hbody, exists_decodeBody_iff.mp ⟨_, hs⟩⟩
    · rintro ⟨body, hbody, hpaired⟩
      obtain ⟨s, hs⟩ := exists_decodeBody_iff.mpr hpaired
      exact ⟨String.ofList s, decode_eq_ok.mpr ⟨body, hbody, by rw [hs, String.toList_ofList]⟩⟩

/-- A line feed and its escape have one value, and of three backslashes the third is wrong. -/
theorem decode_exact_sample :
    quote "\n\\" = "\"\\n\\\\\"" ∧
    spelled "\"\n\\\\\"" = spelled "\"\\n\\\\\"" ∧
    decode "\"\\\\\\t\"" = .error (.invalidEscape "\"\\\\\\t\"" "\\t") := by
  have hraw : decode "\"\n\\\\\"" = .ok "\n\\" := by decide +kernel
  have hspelled : decode "\"\\n\\\\\"" = .ok "\n\\" := by decide +kernel
  refine ⟨(decode_exact.2.1 _ _ hspelled).trans (by decide +kernel),
    (decode_exact.2.2.1 _ _ _ _ hraw hspelled).mp rfl,
    ((decode_exact.2.2.2 _).2.2 _ _).mpr ⟨rfl, ['\\', '\\', '\\', 't'], rfl, ?_⟩⟩
  exact ⟨['\\', '\\'], .escape (Or.inl rfl) .nil, Or.inr ⟨'t', [], rfl, by decide, rfl⟩⟩

end CommandConsole.StringLiteral
