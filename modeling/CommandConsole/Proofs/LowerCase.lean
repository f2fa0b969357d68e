import Mathlib
import CommandConsole.Text.Lowercase

/-!
# Lower case within ASCII

The lower case of a text goes by the tables of Unicode. A text of ASCII is put in lower
case letter by letter (`lowercase_ascii`), and the other way round only ASCII is put in
lower case to ASCII, the letters `i` and `k` apart, which other characters have in
theirs (`map_toLower_of_lowercase`).
-/

namespace CommandConsole.Text

/-! ## Small letters -/

/-- The characters of ASCII that are no part of the lower case of a character beyond:
neither `i`, with which that of `İ` begins, nor `k`, which is that of the Kelvin sign. -/
def IsPlain (c : Char) : Prop := 0 < c.toNat ∧ c.toNat < 128 ∧ c ≠ 'i' ∧ c ≠ 'k'

instance (c : Char) : Decidable (IsPlain c) := inferInstanceAs (Decidable (_ ∧ _))

theorem lowercaseChar_points : ∀ n ∈ List.range 128,
    lowercaseChar (Char.ofNat n) = [(Char.ofNat n).toLower] := by
  decide +kernel

theorem lowercaseChar_ascii {c : Char} (h : c.toNat < 128) :
    lowercaseChar c = [c.toLower] := by
  have hpoint := lowercaseChar_points c.toNat (List.mem_range.mpr h)
  rwa [Char.ofNat_toNat] at hpoint

/-- The capitals beyond ASCII have their small letters beyond ASCII, but for the Kelvin
sign. -/
theorem capitalRuns_apart : ∀ run ∈ capitalRuns,
    run.last < 128 ∨ 128 ≤ run.first + run.shift ∨
      run.first = run.last ∧ run.first + run.shift = 'k'.toNat := by
  decide +kernel

theorem smallLetter_large {n : Nat} (large : 128 ≤ n) {runs : List CapitalRun}
    (apart : ∀ run ∈ runs, run.last < 128 ∨ 128 ≤ run.first + run.shift ∨
      run.first = run.last ∧ run.first + run.shift = 'k'.toNat) :
    128 ≤ smallLetter n runs ∨ smallLetter n runs = 'k'.toNat := by
  induction runs with
  | nil => exact Or.inl large
  | cons run rest ih =>
      obtain ⟨hrun, hrest⟩ := List.forall_mem_cons.mp apart
      rw [smallLetter]
      split
      · exact Or.inl large
      · split
        · rename_i hfirst hlast
          rcases hrun with hsmall | hlarge | ⟨hone, hkelvin⟩
          · omega
          · left
            omega
          · right
            omega
        · exact ih hrest

/-- A plain character is the lower case of its capital and of itself only. -/
theorem lowercaseChar_of_mem {c d : Char} (plain : IsPlain d) (h : d ∈ lowercaseChar c) :
    lowercaseChar c = [d] ∧ c.toLower = d := by
  obtain ⟨hpos, hascii, hi, hk⟩ := plain
  by_cases hc : c.toNat < 128
  · rw [lowercaseChar_ascii hc] at h ⊢
    rw [List.mem_singleton.mp h]
    exact ⟨rfl, rfl⟩
  · exfalso
    rw [lowercaseChar] at h
    split at h
    · rcases List.mem_cons.mp h with rfl | h
      · exact hi rfl
      · obtain rfl := List.mem_singleton.mp h
        exact absurd hascii (by decide)
    · obtain rfl := List.mem_singleton.mp h
      rcases smallLetter_large (Nat.le_of_not_lt hc) capitalRuns_apart with hlarge | hkelvin
      · -- What is no code point would be read as NUL.
        by_cases hvalid : (smallLetter c.toNat capitalRuns).isValidChar
        · rw [Char.toNat_ofNat, if_pos hvalid] at hascii
          omega
        · rw [Char.toNat_ofNat, if_neg hvalid] at hpos
          omega
      · rw [hkelvin] at hk
        exact hk rfl

/-! ## Texts -/

theorem lowercaseAfter_ascii {s : List Char} (h : ∀ c ∈ s, c.toNat < 128)
    (before : List Char) : lowercaseAfter before s = s.map Char.toLower := by
  induction s generalizing before with
  | nil => rfl
  | cons c s ih =>
      obtain ⟨hc, hs⟩ := List.forall_mem_cons.mp h
      have hsigma : c ≠ 'Σ' := by
        rintro rfl
        exact absurd hc (by decide)
      rw [lowercaseAfter, if_neg hsigma, lowercaseChar_ascii hc, ih hs]
      rfl

theorem lowercase_ascii {s : List Char} (h : ∀ c ∈ s, c.toNat < 128) :
    lowercase s = s.map Char.toLower :=
  lowercaseAfter_ascii h []

theorem lowercaseSigma_not_plain (before after : List Char) :
    ¬ IsPlain (lowercaseSigma before after) := by
  unfold lowercaseSigma
  split <;> decide

theorem lowercaseChar_ne_nil (c : Char) : lowercaseChar c ≠ [] := by
  unfold lowercaseChar
  split <;> simp

/-- The character with which a lower case begins, if it is plain, is that of the first
character alone. -/
theorem lowercaseAfter_eq_cons {before s w : List Char} {d : Char} (plain : IsPlain d)
    (h : lowercaseAfter before s = d :: w) :
    ∃ c rest, s = c :: rest ∧ c.toLower = d ∧ lowercaseAfter (c :: before) rest = w := by
  cases s with
  | nil => exact absurd h (by simp [lowercaseAfter])
  | cons c rest =>
      rw [lowercaseAfter] at h
      split at h
      · obtain ⟨rfl, -⟩ := List.cons.inj h
        exact absurd plain (lowercaseSigma_not_plain _ _)
      · obtain ⟨e, tail, htail⟩ := List.exists_cons_of_ne_nil (lowercaseChar_ne_nil c)
        have hhead : e = d := by
          rw [htail] at h
          exact (List.cons.inj h).1
        have hmem : d ∈ lowercaseChar c := by
          rw [htail, hhead]
          exact List.mem_cons_self
        obtain ⟨hsingle, hlower⟩ := lowercaseChar_of_mem plain hmem
        rw [hsingle] at h
        exact ⟨c, rest, rfl, hlower, (List.cons.inj h).2⟩

/-- What has a plain lower case is ASCII, put in lower case letter by letter. -/
theorem map_toLower_of_lowercaseAfter {s w before : List Char} (plain : ∀ d ∈ w, IsPlain d)
    (h : lowercaseAfter before s = w) : s.map Char.toLower = w := by
  induction w generalizing s before with
  | nil =>
      cases s with
      | nil => rfl
      | cons c rest =>
          rw [lowercaseAfter] at h
          split at h
          · exact absurd h (by simp)
          · exact absurd (List.append_eq_nil_iff.mp h).1 (lowercaseChar_ne_nil c)
  | cons d w ih =>
      obtain ⟨hd, hw⟩ := List.forall_mem_cons.mp plain
      obtain ⟨c, rest, rfl, hlower, hrest⟩ := lowercaseAfter_eq_cons hd h
      rw [List.map_cons, hlower, ih hw hrest]

end CommandConsole.Text
