import CommandConsole.Proofs.Lexemes

/-!
# Reading numbers in a line

The digit reader takes digits, one point, and separators behind the first digit
(`Readable`), and it gives up only at a second point. So a written number is
read as it is (`number?_written`), whatever is read as a number is a written one
(`written_of_number?`), and digits that are no number stand in front of two
points, where the reader fails for good (`two_points_of_number?`).
-/

namespace CommandConsole

/-- The characters that end a number once it has a digit. -/
def Stops (rest : List Char) : Prop :=
  ∀ c ∈ rest.head?, c.isDigit = false ∧ c ≠ '.' ∧ c ≠ '_'

/-! ## The digit reader -/

namespace Lexeme.Digits

/-- What the digit reader takes, given whether a digit and a point came
before. -/
inductive Readable : (digit point : Bool) → List Char → Prop where
  | nil {digit point : Bool} : Readable digit point []
  | digit {digit point : Bool} {c : Char} {s : List Char} (h : c.isDigit = true)
      (rest : Readable true point s) : Readable digit point (c :: s)
  | point {digit : Bool} {s : List Char} (rest : Readable digit true s) :
      Readable digit false ('.' :: s)
  | separator {point : Bool} {s : List Char} (rest : Readable true point s) :
      Readable true point ('_' :: s)

/-- The reader's rule without its states: at most one point, and separators
only behind a digit. -/
theorem readable_iff {w : List Char} {digit point : Bool} :
    Readable digit point w ↔
      (∀ c ∈ w, c.isDigit = true ∨ c = '.' ∨ c = '_') ∧
      w.count '.' + point.toNat ≤ 1 ∧
      (digit = true ∨ '_' ∉ w.takeWhile fun c => !c.isDigit) := by
  induction w generalizing digit point with
  | nil =>
      refine ⟨fun _ => ⟨by simp, ?_, Or.inr (by simp)⟩, fun _ => .nil⟩
      cases point <;> simp
  | cons c s ih =>
      constructor
      · intro h
        cases h with
        | digit hc rest =>
            obtain ⟨hchars, hpoints, -⟩ := ih.mp rest
            refine ⟨?_, ?_, ?_⟩
            · simpa [hc] using hchars
            · have hne : c ≠ '.' := ne_of_isDigit hc rfl
              rwa [List.count_cons_of_ne hne]
            · simp [hc]
        | point rest =>
            obtain ⟨hchars, hpoints, hseps⟩ := ih.mp rest
            refine ⟨?_, ?_, ?_⟩
            · simpa using hchars
            · simpa [List.count_cons_self] using hpoints
            · simpa using hseps
        | separator rest =>
            obtain ⟨hchars, hpoints, -⟩ := ih.mp rest
            refine ⟨?_, ?_, Or.inl rfl⟩
            · simpa using hchars
            · simpa using hpoints
      · rintro ⟨hchars, hpoints, hseps⟩
        have hrest := (List.forall_mem_cons.mp hchars).2
        rcases (List.forall_mem_cons.mp hchars).1 with hc | rfl | rfl
        · have hne : c ≠ '.' := ne_of_isDigit hc rfl
          rw [List.count_cons_of_ne hne] at hpoints
          exact .digit hc (ih.mpr ⟨hrest, hpoints, Or.inl rfl⟩)
        · rw [List.count_cons_self] at hpoints
          cases point with
          | true => simp at hpoints
          | false =>
              refine .point (ih.mpr ⟨hrest, by simpa using hpoints, ?_⟩)
              simpa using hseps
        · rcases hseps with rfl | hseps
          · exact .separator (ih.mpr ⟨hrest, by simpa using hpoints, Or.inl rfl⟩)
          · exact absurd (by simp) hseps

/-- What is read of a text that begins with `w`. -/
def taken (digit : Bool) (w : List Char) : Digits :=
  ⟨w.filter (· ≠ '_'), w.length, digit || w.any Char.isDigit⟩

theorem taken_keep {c : Char} (hc : c ≠ '_') (digit : Bool) (w : List Char) :
    (taken (digit || c.isDigit) w).keep c = taken digit (c :: w) := by
  simp [taken, keep, hc, Bool.or_assoc]

theorem taken_skip (w : List Char) :
    (taken true w).skip = taken true ('_' :: w) := by
  simp [taken, skip]

theorem read?_append_stop {digit point : Bool} {s rest : List Char}
    (stops : Stops rest) : read? digit point (s ++ rest) = read? digit point s := by
  induction s generalizing digit point with
  | nil =>
      cases rest with
      | nil => rfl
      | cons c rest =>
          obtain ⟨hdigit, hpoint, hline⟩ := stops c rfl
          simp [read?, hdigit, hpoint, hline]
  | cons c s ih => simp only [List.cons_append, read?, ih]

theorem read?_append {digit point : Bool} {w rest : List Char}
    (h : Readable digit point w) (stops : Stops rest) :
    read? digit point (w ++ rest) = some (taken digit w) := by
  rw [read?_append_stop stops]
  induction h with
  | nil => simp [read?, taken]
  | @digit digit point c s hc _ ih =>
      have hne : c ≠ '_' := ne_of_isDigit hc rfl
      rw [read?, if_pos hc, ih, ← taken_keep hne, hc, Bool.or_true]
      rfl
  | @point digit s _ ih =>
      rw [read?, if_neg (by decide), if_pos rfl, if_neg (by decide), ih,
        ← taken_keep (by decide), show ('.').isDigit = false from rfl, Bool.or_false]
      rfl
  | @separator point s _ ih =>
      rw [read?, if_neg (by decide), if_neg (by decide),
        if_pos ⟨rfl, rfl⟩, ih, ← taken_skip]
      rfl

theorem readable_of_read? {digit point : Bool} {s : List Char} {d : Digits}
    (h : read? digit point s = some d) :
    ∃ w rest, s = w ++ rest ∧ Readable digit point w ∧ d = taken digit w := by
  induction s generalizing digit point d with
  | nil =>
      rw [read?, Option.some_inj] at h
      exact ⟨[], [], rfl, .nil, by simp [← h, taken]⟩
  | cons c s ih =>
      rw [read?] at h
      split at h
      · rename_i hc
        obtain ⟨e, he, rfl⟩ := Option.map_eq_some_iff.mp h
        obtain ⟨w, rest, rfl, hw, rfl⟩ := ih he
        have hne : c ≠ '_' := ne_of_isDigit hc rfl
        refine ⟨c :: w, rest, rfl, .digit hc hw, ?_⟩
        rw [← taken_keep hne, hc, Bool.or_true]
      · split at h
        · rename_i hc
          subst hc
          cases point with
          | true => simp at h
          | false =>
              obtain ⟨e, he, rfl⟩ := Option.map_eq_some_iff.mp h
              obtain ⟨w, rest, rfl, hw, rfl⟩ := ih he
              refine ⟨'.' :: w, rest, rfl, .point hw, ?_⟩
              rw [← taken_keep (by decide), show ('.').isDigit = false from rfl,
                Bool.or_false]
        · split at h
          · rename_i hc
            obtain ⟨rfl, rfl⟩ := hc
            obtain ⟨e, he, rfl⟩ := Option.map_eq_some_iff.mp h
            obtain ⟨w, rest, rfl, hw, rfl⟩ := ih he
            exact ⟨'_' :: w, rest, rfl, .separator hw, taken_skip w⟩
          · rw [Option.some_inj] at h
            exact ⟨[], c :: s, rfl, .nil, by simp [← h, taken]⟩

theorem second_point_of_read? {digit point : Bool} {s : List Char}
    (h : read? digit point s = none) :
    ∃ w rest, s = w ++ '.' :: rest ∧ Readable digit point w ∧
      (point = true ∨ '.' ∈ w) := by
  induction s generalizing digit point with
  | nil => simp [read?] at h
  | cons c s ih =>
      rw [read?] at h
      split at h
      · rename_i hc
        obtain ⟨w, rest, rfl, hw, hp⟩ := ih (Option.map_eq_none_iff.mp h)
        exact ⟨c :: w, rest, rfl, .digit hc hw, hp.imp_right (List.mem_cons_of_mem c)⟩
      · split at h
        · rename_i hc
          subst hc
          cases point with
          | true => exact ⟨[], s, rfl, .nil, Or.inl rfl⟩
          | false =>
              obtain ⟨w, rest, rfl, hw, -⟩ := ih (Option.map_eq_none_iff.mp h)
              exact ⟨'.' :: w, rest, rfl, .point hw, Or.inr List.mem_cons_self⟩
        · split at h
          · rename_i hc
            obtain ⟨rfl, rfl⟩ := hc
            obtain ⟨w, rest, rfl, hw, hp⟩ := ih (Option.map_eq_none_iff.mp h)
            exact ⟨'_' :: w, rest, rfl, .separator hw,
              hp.imp_right (List.mem_cons_of_mem _)⟩
          · simp at h

/-- Behind a point, digits and separators up to another point are no number. -/
theorem read?_to_point {mid rest : List Char}
    (h : ∀ c ∈ mid, c.isDigit = true ∨ c = '_') :
    read? true true (mid ++ '.' :: rest) = none := by
  induction mid with
  | nil => rfl
  | cons c mid ih =>
      have hrest := ih (List.forall_mem_cons.mp h).2
      rcases (List.forall_mem_cons.mp h).1 with hc | rfl
      · rw [List.cons_append, read?, if_pos hc, hrest]
        rfl
      · rw [List.cons_append, read?, if_neg (by decide), if_neg (by decide),
          if_pos ⟨rfl, rfl⟩, hrest]
        rfl

end Lexeme.Digits

/-! ## Numbers -/

open Lexeme.Digits

theorem isNumeral_filter {w : List Char} (h : Readable false false w)
    (hdigit : w.any Char.isDigit = true) : IsNumeral (w.filter (· ≠ '_')) where
  split := by
    obtain ⟨hchars, hpoints, -⟩ := readable_iff.mp h
    refine ⟨_, Or.inl rfl, ?_, ?_⟩
    · intro c hc
      obtain ⟨hmem, hne⟩ := List.mem_filter.mp hc
      rcases hchars c hmem with hd | hp | rfl
      · exact Or.inl hd
      · exact Or.inr hp
      · simp at hne
    · have := List.Sublist.count_le '.' (List.filter_sublist (p := (· ≠ '_')) (l := w))
      simp only [Bool.toNat_false] at hpoints
      omega
  digit := by
    obtain ⟨c, hmem, hc⟩ := List.any_eq_true.mp hdigit
    refine ⟨c, List.mem_filter.mpr ⟨hmem, ?_⟩, hc⟩
    have hne : c ≠ '_' := ne_of_isDigit hc rfl
    simpa using hne

theorem IsNumeral.minus {s : List Char} (h : IsNumeral s) (hs : ∀ c ∈ s, c ≠ '-') :
    IsNumeral ('-' :: s) := by
  obtain ⟨body, hbody, hchars, hpoints⟩ := h.split
  obtain ⟨c, hmem, hc⟩ := h.digit
  rcases hbody with rfl | rfl
  · exact ⟨⟨s, Or.inr rfl, hchars, hpoints⟩, c, List.mem_cons_of_mem _ hmem, hc⟩
  · exact absurd rfl (hs '-' List.mem_cons_self)

theorem number?_unsigned {s : List Char} (h : s.head? ≠ some '-') :
    Lexeme.number? s = ((read? false false s).filter hasDigit).map
      fun d => ⟨.number, d.text, d.width⟩ := by
  unfold Lexeme.number?
  split
  · exact absurd rfl h
  · rfl

theorem number?_none {c : Char} {s : List Char} (hdigit : c.isDigit = false)
    (hminus : c ≠ '-') (hpoint : c ≠ '.') : Lexeme.number? (c :: s) = none := by
  rw [number?_unsigned (by simpa using hminus), read?, if_neg (by simp [hdigit]),
    if_neg hpoint, if_neg (by simp)]
  rfl

theorem written_of_number? {s : List Char} {lexeme : Lexeme}
    (h : Lexeme.number? s = some lexeme) :
    ∃ text written rest, s = written ++ rest ∧ written ≠ [] ∧
      lexeme = ⟨.number, text, written.length⟩ ∧ IsNumeral text ∧
      Written .number text written := by
  unfold Lexeme.number? at h
  obtain ⟨d, hd, rfl⟩ := Option.map_eq_some_iff.mp h
  obtain ⟨hread, hdigit⟩ := Option.filter_eq_some_iff.mp hd
  split at hread
  · rename_i body
    obtain ⟨e, he, rfl⟩ := Option.map_eq_some_iff.mp hread
    obtain ⟨w, rest, rfl, hw, rfl⟩ := readable_of_read? he
    have hnum := isNumeral_filter hw (by simpa [keep, taken] using hdigit)
    have hseps := (readable_iff.mp hw).2.2.resolve_left Bool.noConfusion
    refine ⟨'-' :: w.filter (· ≠ '_'), '-' :: w, rest, rfl, by simp, rfl,
      hnum.minus ?_, by simp, by simpa using hseps⟩
    rintro c hc rfl
    have := (readable_iff.mp hw).1 '-' (List.mem_of_mem_filter hc)
    simp at this
  · obtain ⟨w, rest, rfl, hw, rfl⟩ := readable_of_read? hread
    have hany : w.any Char.isDigit = true := by simpa [taken] using hdigit
    have hseps := (readable_iff.mp hw).2.2.resolve_left Bool.noConfusion
    refine ⟨w.filter (· ≠ '_'), w, rest, rfl, ?_, rfl, isNumeral_filter hw hany,
      rfl, hseps⟩
    rintro rfl
    simp at hany

/-- The part of a written number behind its sign is what the digit reader takes. -/
theorem readable_of_filter {w body : List Char} (hbody : w.filter (· ≠ '_') = body)
    (hchars : ∀ c ∈ body, c.isDigit = true ∨ c = '.') (hpoints : body.count '.' ≤ 1)
    (hseps : '_' ∉ w.takeWhile fun c => !c.isDigit) : Readable false false w := by
  refine readable_iff.mpr ⟨?_, ?_, Or.inr hseps⟩
  · intro c hc
    by_cases hne : c = '_'
    · exact Or.inr (Or.inr hne)
    · rcases hchars c (hbody ▸ List.mem_filter.mpr ⟨hc, by simpa using hne⟩) with hd | hp
      · exact Or.inl hd
      · exact Or.inr (Or.inl hp)
  · rw [← hbody, List.count_filter (by decide)] at hpoints
    simpa using hpoints

theorem number?_written {text written rest : List Char} (h : IsNumeral text)
    (hw : Written .number text written) (stops : Stops rest) :
    Lexeme.number? (written ++ rest) = some ⟨.number, text, written.length⟩ := by
  obtain ⟨rfl, hseps⟩ := hw
  obtain ⟨body, hbody, hchars, hpoints⟩ := h.split
  obtain ⟨digit, hdigit, hd⟩ := h.digit
  have hany : ∀ w : List Char, digit ∈ w → w.any Char.isDigit = true :=
    fun w hmem => List.any_eq_true.mpr ⟨digit, hmem, hd⟩
  cases written with
  | nil => simp at hdigit
  | cons c w =>
      by_cases hc : c = '-'
      · subst hc
        have hfilter : w.filter (· ≠ '_') = body := by
          rcases hbody with hbody | hbody
          · have := hchars '-' (by rw [← hbody]; simp)
            simp at this
          · simpa using hbody
        have hmem : digit ∈ w := by
          rw [List.mem_filter] at hdigit
          rcases List.mem_cons.mp hdigit.1 with rfl | hmem
          · exact Bool.noConfusion hd
          · exact hmem
        have hreadable := readable_of_filter hfilter hchars hpoints (by simpa using hseps)
        have hread := read?_append hreadable stops
        simp [Lexeme.number?, hread, taken, keep, hany w hmem]
      · have hfilter : (c :: w).filter (· ≠ '_') = body := by
          rcases hbody with hbody | hbody
          · exact hbody
          · by_cases hu : c = '_'
            · subst hu
              exact absurd (by simp) hseps
            · rw [List.filter_cons_of_pos (by simpa using hu)] at hbody
              exact absurd (List.cons.inj hbody).1 hc
        have hread := read?_append (readable_of_filter hfilter hchars hpoints hseps) stops
        have hmem := List.mem_of_mem_filter hdigit
        rw [number?_unsigned (by simpa using hc), hread]
        simp [taken, hany _ hmem]

theorem two_points_of_number? {c : Char} {s : List Char} (hc : c.isDigit = true)
    (h : Lexeme.number? (c :: s) = none) :
    ∃ run mid rest, c :: s = run ++ '.' :: (mid ++ '.' :: rest) ∧ run ≠ [] ∧
      (∀ d ∈ run, isNameChar d = true) ∧ ∀ d ∈ mid, d.isDigit = true ∨ d = '_' := by
  have hne : c ≠ '-' := ne_of_isDigit hc rfl
  -- Had the reader stopped at the digit or behind it, there would be a number.
  have hnone : read? false false (c :: s) = none := by
    rw [number?_unsigned (by simpa using hne), Option.map_eq_none_iff, read?, if_pos hc] at h
    rw [read?, if_pos hc]
    cases hr : read? true false s with
    | none => rfl
    | some d =>
        obtain ⟨w, rest, -, -, rfl⟩ := readable_of_read? hr
        rw [hr] at h
        exact absurd h (by simp [taken, keep])
  obtain ⟨w, rest, hs, hw, hpoint⟩ := second_point_of_read? hnone
  -- The first point splits what was read; neither part has another one, so the
  -- first consists of name characters and the second of digits and separators.
  obtain ⟨run, mid, rfl⟩ := List.append_of_mem (hpoint.resolve_left Bool.noConfusion)
  obtain ⟨hchars, hpoints, -⟩ := readable_iff.mp hw
  rw [List.count_append, List.count_cons_self, Bool.toNat_false] at hpoints
  have hchar : ∀ part : List Char, part.count '.' = 0 → part ⊆ run ++ '.' :: mid →
      ∀ d ∈ part, d.isDigit = true ∨ d = '_' := by
    intro part hcount hsub d hd
    rcases hchars d (hsub hd) with hdigit | rfl | hline
    · exact Or.inl hdigit
    · exact absurd hd (List.count_eq_zero.mp hcount)
    · exact Or.inr hline
  refine ⟨run, mid, rest, by simpa using hs, ?_, ?_, ?_⟩
  · rintro rfl
    simp at hs
    exact absurd hs.1 (ne_of_isDigit hc rfl)
  · intro d hd
    rcases hchar run (by omega) (by simp) d hd with hdigit | rfl
    · exact isNameChar_of_isDigit hdigit
    · exact isNameChar_underscore
  · exact hchar mid (by omega) (by intro d hd; simp [hd])

theorem number?_between_points {mid rest : List Char}
    (h : ∀ c ∈ mid, c.isDigit = true ∨ c = '_') :
    Lexeme.number? ('.' :: (mid ++ '.' :: rest)) = none := by
  have hread : (read? false false ('.' :: (mid ++ '.' :: rest))).filter hasDigit = none := by
    rw [read?, if_neg (by decide), if_pos rfl, if_neg (by decide)]
    cases mid with
    | nil => rfl
    | cons c mid =>
        rcases (List.forall_mem_cons.mp h).1 with hc | rfl
        · rw [List.cons_append, read?, if_pos hc,
            read?_to_point (List.forall_mem_cons.mp h).2]
          rfl
        · rfl
  rw [number?_unsigned (by simp), hread]
  rfl

end CommandConsole
