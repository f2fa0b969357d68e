import CommandConsole.Proofs.Lexemes
import CommandConsole.Number

/-!
# Decimals and their texts

A decimal shows as many fraction digits as its scale says, so its text
determines it, a zero with a minus sign apart: reading takes the digits one by
one, and every text of a decimal fits (`Decimal.read?_text`). The other way
round, no number lexeme is read as a zero with a minus sign
(`Decimal.sign_of_read?`): only an exponent leads there.
-/

namespace CommandConsole

/-! ## Digits -/

theorem le_ofDigitChars (ds : List Char) (m : Nat) : m ≤ Nat.ofDigitChars 10 ds m := by
  induction ds generalizing m with
  | nil => rw [Nat.ofDigitChars_nil]
  | cons c ds ih =>
      rw [Nat.ofDigitChars_cons]
      exact Nat.le_trans (by omega) (ih _)

theorem not_exponentMark_of_isDigit {c : Char} (h : c.isDigit = true) :
    isExponentMark c = false := by
  have hsmall : c ≠ 'e' := ne_of_isDigit h rfl
  have hcapital : c ≠ 'E' := ne_of_isDigit h rfl
  simp [isExponentMark, hsmall, hcapital]

namespace Positional

theorem isDigit_of_mem_digits {width n : Nat} {c : Char} (h : c ∈ digits width n) :
    c.isDigit = true := by
  rcases List.mem_append.mp h with hzero | hdigit
  · rw [List.eq_of_mem_replicate hzero]
    rfl
  · exact Nat.isDigit_of_mem_toDigits (by decide) (by decide) hdigit

theorem ofDigitChars_digits (width n : Nat) :
    Nat.ofDigitChars 10 (digits width n) 0 = n := by
  rw [digits, Nat.ofDigitChars_append, Nat.ofDigitChars_replicate_zero, Nat.mul_zero,
    Nat.ofDigitChars_ten_toDigits]

theorem le_length_digits (width n : Nat) : width ≤ (digits width n).length := by
  rw [digits, List.length_append, List.length_replicate]
  omega

theorem fixed_split (places n : Nat) :
    ∃ whole fraction, whole ≠ [] ∧ fraction.length = places ∧
      (∀ c ∈ whole ++ fraction, c.isDigit = true) ∧
      Nat.ofDigitChars 10 (whole ++ fraction) 0 = n ∧
      fixed places n = if places = 0 then whole else whole ++ '.' :: fraction := by
  have hlen := le_length_digits (places + 1) n
  have hdigits : ∀ c ∈ digits (places + 1) n, c.isDigit = true :=
    fun c hc => isDigit_of_mem_digits hc
  have hvalue := ofDigitChars_digits (places + 1) n
  unfold fixed
  generalize digits (places + 1) n = all at hlen hdigits hvalue ⊢
  refine ⟨all.take (all.length - places), all.drop (all.length - places), ?_, ?_, ?_, ?_, rfl⟩
  · rw [← List.length_pos_iff, List.length_take]
    omega
  · rw [List.length_drop]
    omega
  · rwa [List.take_append_drop]
  · rwa [List.take_append_drop]

theorem fixed_ends (places n : Nat) :
    (∃ c, (fixed places n).head? = some c ∧ c.isDigit = true) ∧
      ∃ c, (fixed places n).getLast? = some c ∧ c.isDigit = true := by
  obtain ⟨whole, fraction, hne, hlen, hdigits, -, heq⟩ := fixed_split places n
  obtain ⟨c, whole', rfl⟩ := List.exists_cons_of_ne_nil hne
  have hhead : c.isDigit = true := hdigits c (by simp)
  rw [heq]
  split
  · refine ⟨⟨c, rfl, hhead⟩, _, List.getLast?_eq_getLast_of_ne_nil hne, ?_⟩
    exact hdigits _ (List.mem_append_left _ (List.getLast_mem hne))
  · have hfraction : fraction ≠ [] := by
      rintro rfl
      exact absurd hlen.symm ‹_›
    refine ⟨⟨c, rfl, hhead⟩, fraction.getLast hfraction, ?_, ?_⟩
    · rw [List.getLast?_append_of_ne_nil _ (by simp),
        List.getLast?_cons_of_ne_nil hfraction, List.getLast?_eq_getLast_of_ne_nil hfraction]
    · exact hdigits _ (List.mem_append_right _ (List.getLast_mem hfraction))

theorem fixed_chars (places n : Nat) :
    (∀ c ∈ fixed places n, c.isDigit = true ∨ c = '.') ∧ (fixed places n).count '.' ≤ 1 := by
  obtain ⟨whole, fraction, -, -, hdigits, -, heq⟩ := fixed_split places n
  have hcount : (whole ++ fraction).count '.' = 0 := by
    refine List.count_eq_zero.mpr fun hmem => ?_
    exact absurd (hdigits '.' hmem) (by decide)
  rw [List.count_append] at hcount
  rw [heq]
  split
  · exact ⟨fun c hc => Or.inl (hdigits c (List.mem_append_left _ hc)), by omega⟩
  · refine ⟨fun c hc => ?_, ?_⟩
    · rcases List.mem_append.mp hc with hwhole | hrest
      · exact Or.inl (hdigits c (List.mem_append_left _ hwhole))
      · rcases List.mem_cons.mp hrest with rfl | hfraction
        · exact Or.inr rfl
        · exact Or.inl (hdigits c (List.mem_append_right _ hfraction))
    · rw [List.count_append, List.count_cons_self]
      omega

end Positional

/-! ## Normal literals -/

/-- A literal without its point at the end, and with a zero before one at the start. -/
theorem Number.normalize_unsigned {body : List Char} (h : body.head? ≠ some '-') :
    normalize body =
      let closed := if body.getLast? = some '.' then body.dropLast else body
      if closed.head? = some '.' then '0' :: closed else closed := by
  have hsign : ∀ rest, body ≠ '-' :: rest := by
    rintro rest rfl
    exact h rfl
  simp only [normalize, Positional.signed, Bool.false_eq_true, if_false]

theorem Number.normalize_signed {negative : Bool} {body : List Char}
    (h : body.head? ≠ some '-') :
    normalize (Positional.signed negative body) = Positional.signed negative (normalize body) := by
  cases negative with
  | false => rfl
  | true =>
      rw [normalize_unsigned h]
      rfl

theorem Number.normalize_closed {negative : Bool} {s : List Char}
    (hhead : ∃ c, s.head? = some c ∧ c.isDigit = true)
    (hlast : ∃ c, s.getLast? = some c ∧ c.isDigit = true) :
    normalize (Positional.signed negative s) = Positional.signed negative s := by
  obtain ⟨c, hc, hdigit⟩ := hhead
  obtain ⟨d, hd, hend⟩ := hlast
  have hminus : s.head? ≠ some '-' := by
    rw [hc, Ne, Option.some_inj]
    exact ne_of_isDigit hdigit rfl
  have hpoint : s.head? ≠ some '.' := by
    rw [hc, Ne, Option.some_inj]
    exact ne_of_isDigit hdigit rfl
  have hclosed : s.getLast? ≠ some '.' := by
    rw [hd, Ne, Option.some_inj]
    exact ne_of_isDigit hend rfl
  rw [normalize_signed hminus, normalize_unsigned hminus]
  simp only [if_neg hclosed, if_neg hpoint]

theorem Number.mem_normalize {c : Char} {s : List Char} (h : c ∈ normalize s) :
    c ∈ s ∨ c = '0' := by
  have mem_closed : ∀ body : List Char,
      c ∈ (if body.getLast? = some '.' then body.dropLast else body) → c ∈ body := by
    intro body h
    split at h
    · exact List.mem_of_mem_dropLast h
    · exact h
  have mem_opened : ∀ closed : List Char,
      c ∈ (if closed.head? = some '.' then '0' :: closed else closed) →
      c ∈ closed ∨ c = '0' := by
    intro closed h
    split at h
    · exact (List.mem_cons.mp h).symm
    · exact Or.inl h
  unfold normalize at h
  split at h
  rename_i negative body hsplit
  obtain ⟨hbody, hsign⟩ : body ⊆ s ∧ (negative = true → '-' ∈ s) := by
    split at hsplit
    · obtain ⟨rfl, rfl⟩ := Prod.mk.inj hsplit
      exact ⟨List.subset_cons_self _ _, fun _ => List.mem_cons_self⟩
    · obtain ⟨rfl, rfl⟩ := Prod.mk.inj hsplit
      exact ⟨List.Subset.refl _, Bool.noConfusion⟩
  simp only [Positional.signed] at h
  split at h
  · rcases List.mem_cons.mp h with rfl | h
    · exact Or.inl (hsign ‹_›)
    · exact (mem_opened _ h).imp_left fun h => hbody (mem_closed _ h)
  · exact (mem_opened _ h).imp_left fun h => hbody (mem_closed _ h)

/-! ## Reading digits one by one -/

namespace Decimal

theorem readMantissa_digits (point seen : Bool) (m s : Nat) {ds : List Char}
    (hdigits : ∀ c ∈ ds, c.isDigit = true)
    (hfit : Nat.ofDigitChars 10 ds m < mantissaBound)
    (hroom : point = true → s + ds.length ≤ maxScale) (rest : List Char) :
    readMantissa point seen m s (ds ++ rest) =
      readMantissa point (seen || !ds.isEmpty) (Nat.ofDigitChars 10 ds m)
        (if point then s + ds.length else s) rest := by
  induction ds generalizing seen m s with
  | nil => cases point <;> simp
  | cons c ds ih =>
      obtain ⟨hc, hds⟩ := List.forall_mem_cons.mp hdigits
      rw [Nat.ofDigitChars_cons] at hfit
      -- The mantissa only grows, so this digit fits because the last one does.
      have hnext : 10 * m + (c.toNat - '0'.toNat) < mantissaBound :=
        Nat.lt_of_le_of_lt (le_ofDigitChars ds _) hfit
      have hscale : (point && s == maxScale) = false := by
        cases point with
        | false => rfl
        | true =>
            have := hroom rfl
            rw [List.length_cons] at this
            simp only [Bool.true_and, beq_eq_false_iff_ne, ne_eq]
            omega
      rw [List.cons_append, readMantissa]
      simp only [hscale, hc, if_pos hnext, if_true, Bool.false_eq_true, if_false]
      rw [ih _ _ _ hds hfit, Nat.ofDigitChars_cons]
      · cases point with
        | false => simp
        | true =>
            have hlen : s + 1 + ds.length = s + (ds.length + 1) := by omega
            simp [hlen]
      · intro hpoint
        have := hroom hpoint
        rw [List.length_cons] at this
        simp only [hpoint, if_true]
        omega

theorem readMantissa_point (seen : Bool) (m s : Nat) (rest : List Char) :
    readMantissa false seen m s ('.' :: rest) = readMantissa true seen m s rest := by
  rw [readMantissa]
  simp

theorem readMantissa_fixed {n places : Nat} (hn : n < mantissaBound)
    (hplaces : places ≤ maxScale) :
    readMantissa false false 0 0 (Positional.fixed places n) = some (n, places) := by
  obtain ⟨whole, fraction, hne, hlen, hdigits, hvalue, heq⟩ := Positional.fixed_split places n
  have hwhole : ∀ c ∈ whole, c.isDigit = true :=
    fun c hc => hdigits c (List.mem_append_left _ hc)
  have hfraction : ∀ c ∈ fraction, c.isDigit = true :=
    fun c hc => hdigits c (List.mem_append_right _ hc)
  have hseen : whole.isEmpty = false := by simpa using hne
  rw [Nat.ofDigitChars_append] at hvalue
  have hfit : Nat.ofDigitChars 10 whole 0 < mantissaBound :=
    Nat.lt_of_le_of_lt (le_ofDigitChars fraction _) (hvalue ▸ hn)
  have readWhole := readMantissa_digits false false 0 0 hwhole hfit Bool.noConfusion
  rw [heq]
  split
  · rename_i hzero
    obtain rfl : fraction = [] := List.eq_nil_of_length_eq_zero (hlen.trans hzero)
    rw [Nat.ofDigitChars_nil] at hvalue
    have hread := readWhole []
    rw [List.append_nil] at hread
    rw [hread, hvalue, hseen, hzero]
    rfl
  · have hread := readMantissa_digits true true (Nat.ofDigitChars 10 whole 0) 0 hfraction
      (hvalue ▸ hn) (fun _ => by omega) []
    rw [List.append_nil, hvalue, hlen, Nat.zero_add] at hread
    rw [readWhole, readMantissa_point, hseen]
    exact hread

/-! ## Reading a text back -/

theorem text_toList (x : Decimal) :
    x.text.toList = Positional.signed x.negative (Positional.fixed x.scale x.mantissa) := by
  rw [text, String.toList_ofList]

theorem signed_chars (x : Decimal) :
    ∀ c ∈ x.text.toList, isExponentMark c = false := by
  intro c hc
  have hfixed : ∀ c ∈ Positional.fixed x.scale x.mantissa, isExponentMark c = false := by
    intro c hc
    rcases (Positional.fixed_chars _ _).1 c hc with hdigit | rfl
    · exact not_exponentMark_of_isDigit hdigit
    · rfl
  rw [text_toList, Positional.signed] at hc
  split at hc
  · rcases List.mem_cons.mp hc with rfl | hc
    · rfl
    · exact hfixed c hc
  · exact hfixed c hc

theorem read?_plain {s : List Char} (h : ∀ c ∈ s, isExponentMark c = false) :
    read? s = readPlain? s := by
  have hdrop : s.dropWhile (fun c => !isExponentMark c) = [] :=
    List.dropWhile_eq_nil_iff.mpr fun c hc => by simp [h c hc]
  rw [read?, hdrop]

theorem readSign_signed {negative : Bool} {s : List Char}
    (h : ∃ c, s.head? = some c ∧ c.isDigit = true) :
    readSign (Positional.signed negative s) = (negative, s) := by
  obtain ⟨c, hc, hdigit⟩ := h
  obtain ⟨rest, rfl⟩ := List.head?_eq_some_iff.mp hc
  cases negative with
  | true => rfl
  | false =>
      unfold readSign Positional.signed
      simp only [Bool.false_eq_true, if_false]
      split
      · rename_i heq
        exact absurd (List.cons.inj heq).1 (ne_of_isDigit hdigit rfl)
      · rename_i heq
        exact absurd (List.cons.inj heq).1 (ne_of_isDigit hdigit rfl)
      · rfl

/-- The text of a decimal is read as the decimal, its scale included. -/
theorem read?_text {x : Decimal} (hsign : x.negative = true → x.mantissa ≠ 0) :
    read? (Number.normalize x.text.toList) = some x := by
  have hends := Positional.fixed_ends x.scale x.mantissa
  have hnormal : Number.normalize x.text.toList = x.text.toList := by
    rw [text_toList, Number.normalize_closed hends.1 hends.2]
  have hparts : ofParts? x.negative x.mantissa x.scale = some x := by
    have hneg : (x.negative && x.mantissa != 0) = x.negative := by
      cases hn : x.negative with
      | false => rfl
      | true => simpa using hsign hn
    rw [ofParts?, dif_pos ⟨x.mantissa_lt, x.scale_le⟩]
    simp only [hneg]
  rw [hnormal, read?_plain (signed_chars x), text_toList, readPlain?,
    readSign_signed hends.1]
  simp only [readMantissa_fixed x.mantissa_lt x.scale_le, Option.bind_some, hparts]

theorem isNumeral_text (x : Decimal) : IsNumeral x.text.toList := by
  obtain ⟨hchars, hcount⟩ := Positional.fixed_chars x.scale x.mantissa
  obtain ⟨⟨c, hc, hdigit⟩, -⟩ := Positional.fixed_ends x.scale x.mantissa
  have hmem : c ∈ Positional.fixed x.scale x.mantissa := List.mem_of_head? hc
  rw [text_toList, Positional.signed]
  split
  · exact ⟨⟨_, Or.inr rfl, hchars, hcount⟩, c, List.mem_cons_of_mem _ hmem, hdigit⟩
  · exact ⟨⟨_, Or.inl rfl, hchars, hcount⟩, c, hmem, hdigit⟩

theorem normalize_chars {s : List Char} (h : IsNumeral s) :
    ∀ c ∈ Number.normalize s, isExponentMark c = false := by
  obtain ⟨body, hbody, hchars, -⟩ := h.split
  have hmark : ∀ c ∈ body, isExponentMark c = false := by
    intro c hc
    rcases hchars c hc with hdigit | rfl
    · exact not_exponentMark_of_isDigit hdigit
    · rfl
  intro c hc
  rcases Number.mem_normalize hc with hc | rfl
  · rcases hbody with rfl | rfl
    · exact hmark c hc
    · rcases List.mem_cons.mp hc with rfl | hc
      · rfl
      · exact hmark c hc
  · rfl

/-- What is put together from its parts is no zero with a minus sign. -/
theorem sign_of_ofParts? {negative : Bool} {mantissa scale : Nat} {x : Decimal}
    (h : ofParts? negative mantissa scale = some x) (hneg : x.negative = true) :
    x.mantissa ≠ 0 := by
  unfold ofParts? at h
  split at h
  · obtain rfl := Option.some.inj h
    exact bne_iff_ne.mp ((Bool.and_eq_true _ _).mp hneg).2
  · exact absurd h (by simp)

theorem sign_of_read? {s : List Char} {x : Decimal} (h : IsNumeral s)
    (hread : read? (Number.normalize s) = some x) (hneg : x.negative = true) :
    x.mantissa ≠ 0 := by
  rw [read?_plain (normalize_chars h), readPlain?] at hread
  obtain ⟨⟨mantissa, scale⟩, -, hparts⟩ := Option.bind_eq_some_iff.mp hread
  exact sign_of_ofParts? hparts hneg

end Decimal

end CommandConsole
