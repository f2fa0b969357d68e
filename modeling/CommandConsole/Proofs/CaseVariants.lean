import CommandConsole.Proofs.LowerCase
import CommandConsole.Proofs.Names

/-!
# Names in another case

The lower case of a name is not that of its characters one by one: what becomes of a capital
sigma depends on the letters around it. Still the case of an ASCII letter plays no part. Both
of its cases have the same lower case, both are cased, and neither is passed over where a
cased neighbour is looked for; so the sigmas around it come out alike
(`Text.lowercase_variants`), and where case is ignored two such names are one.

Main result: `Registry.ascii_case_ignored`, with its counterpart for names that are compared
as they are.
-/

namespace CommandConsole

namespace Text

/-! ## The two cases of a letter -/

/-- The same character, or the two cases of one letter of ASCII. -/
def CaseVariant (c d : Char) : Prop :=
  c = d ∨ c.isUpper = true ∧ d = c.toLower ∨ d.isUpper = true ∧ c = d.toLower

instance (c d : Char) : Decidable (CaseVariant c d) := inferInstanceAs (Decidable (_ ∨ _))

theorem toNat_of_isUpper {c : Char} (h : c.isUpper = true) : c.toNat ∈ List.range' 65 26 := by
  rw [List.mem_range'_1]
  simp only [Char.isUpper, decide_eq_true_eq, ge_iff_le, UInt32.le_iff_toNat_le] at h
  exact ⟨h.1, Nat.lt_succ_of_le h.2⟩

/-- What is the same for a capital and its small letter is the same for variants. -/
theorem CaseVariant.congr {α : Type} {f : Char → α}
    (points : ∀ n ∈ List.range' 65 26, f (Char.ofNat n) = f (Char.ofNat n).toLower)
    {c d : Char} (h : CaseVariant c d) : f c = f d := by
  have hcapital : ∀ {c : Char}, c.isUpper = true → f c = f c.toLower := by
    intro c capital
    have hpoint := points c.toNat (toNat_of_isUpper capital)
    rwa [Char.ofNat_toNat] at hpoint
  rcases h with rfl | ⟨capital, rfl⟩ | ⟨capital, rfl⟩
  · rfl
  · exact hcapital capital
  · exact (hcapital capital).symm

theorem CaseVariant.isCased {c d : Char} (h : CaseVariant c d) : isCased c = isCased d :=
  h.congr (by decide +kernel)

theorem CaseVariant.isCaseIgnorable {c d : Char} (h : CaseVariant c d) :
    isCaseIgnorable c = isCaseIgnorable d :=
  h.congr (by decide +kernel)

theorem CaseVariant.lowercaseChar {c d : Char} (h : CaseVariant c d) :
    lowercaseChar c = lowercaseChar d :=
  h.congr (by decide +kernel)

theorem CaseVariant.sigma_iff {c d : Char} (h : CaseVariant c d) : c = 'Σ' ↔ d = 'Σ' := by
  have hsame : (c == 'Σ') = (d == 'Σ') := h.congr (f := (· == 'Σ')) (by decide +kernel)
  rw [Bool.eq_iff_iff, beq_iff_eq, beq_iff_eq] at hsame
  exact hsame

theorem startsCased_cons (c : Char) (s : List Char) :
    startsCased (c :: s) = if isCaseIgnorable c then startsCased s else isCased c := by
  cases h : isCaseIgnorable c with
  | false => simp [startsCased, h]
  | true => simp [startsCased, h]

theorem startsCased_variants {s t : List Char} (h : List.Forall₂ CaseVariant s t) :
    startsCased s = startsCased t := by
  induction h with
  | nil => rfl
  | cons hc _ ih => rw [startsCased_cons, startsCased_cons, hc.isCaseIgnorable, hc.isCased, ih]

theorem lowercaseSigma_variants {before before' after after' : List Char}
    (hbefore : List.Forall₂ CaseVariant before before')
    (hafter : List.Forall₂ CaseVariant after after') :
    lowercaseSigma before after = lowercaseSigma before' after' := by
  unfold lowercaseSigma
  rw [startsCased_variants hbefore, startsCased_variants hafter]

theorem lowercaseAfter_variants {before before' s t : List Char}
    (hbefore : List.Forall₂ CaseVariant before before') (h : List.Forall₂ CaseVariant s t) :
    lowercaseAfter before s = lowercaseAfter before' t := by
  induction h generalizing before before' with
  | nil => rfl
  | @cons c d s t hc hs ih =>
      rw [lowercaseAfter, lowercaseAfter, ih (.cons hc hbefore)]
      simp only [hc.sigma_iff, hc.lowercaseChar, lowercaseSigma_variants hbefore hs]

theorem lowercase_variants {s t : List Char} (h : List.Forall₂ CaseVariant s t) :
    lowercase s = lowercase t :=
  lowercaseAfter_variants .nil h

end Text

/-- Names of the same length whose characters, one by one, are the same or the two cases of
one letter of ASCII. -/
def CaseVariants (a b : String) : Prop := List.Forall₂ Text.CaseVariant a.toList b.toList

instance (a b : String) : Decidable (CaseVariants a b) :=
  inferInstanceAs (Decidable (List.Forall₂ _ _ _))

theorem CaseVariants.same {a b : String} (h : CaseVariants a b) :
    CaseRule.insensitive.same a b = true :=
  CaseRule.same_iff.mpr (Text.lowercase_variants h)

theorem CaseRule.sensitive_same {a b : String} : CaseRule.sensitive.same a b = true ↔ a = b :=
  beq_iff_eq

theorem CaseRule.same_congr {rule : CaseRule} {a b : String} (h : rule.same a b = true)
    (own : String) : rule.same own a = rule.same own b := by
  rw [Bool.eq_iff_iff, same_iff, same_iff, same_iff.mp h]

variable {σ : Type}

theorem Command.answersTo_congr {rule : CaseRule} {a b : String} (h : rule.same a b = true)
    (command : Command σ) : command.answersTo rule a = command.answersTo rule b := by
  simp only [answersTo, CaseRule.same_congr h]

/-! ## Looking a name up -/

namespace Registry

variable {registry : Registry σ} {a b : String}

/-- Both passes of a search, by names and by aliases, treat names that match alike. -/
theorem find?_congr (h : registry.caseRule.same a b = true) :
    registry.find? a = registry.find? b := by
  simp only [find?, CaseRule.same_congr h, Command.answersTo_congr h]

theorem position?_congr (h : registry.caseRule.same a b = true) :
    registry.position? a = registry.position? b := by
  simp only [position?, CaseRule.same_congr h, Command.answersTo_congr h]

theorem Distinct.draft_of_used (distinct : registry.Distinct)
    (used : (registry.find? a).isSome = true) (valid : isName a = true) :
    registry.draft a = .error (.duplicateName a) := by
  rw [distinct.draft_eq, if_neg (by simp [valid]), if_pos used]

theorem Distinct.isSome_find?_sensitive (distinct : registry.Distinct)
    (rule : registry.caseRule = .sensitive) (name : String) :
    (registry.find? name).isSome = true ↔ name ∈ registry.names := by
  rw [distinct.isSome_find?, rule, List.any_eq_true, names, List.mem_flatMap]
  refine exists_congr fun command => and_congr_right fun _ => ?_
  rw [Command.answersTo_iff]
  constructor
  · rintro ⟨own, hown, hsame⟩
    rwa [← CaseRule.sensitive_same.mp hsame]
  · intro hname
    exact ⟨name, hname, CaseRule.sensitive_same.mpr rfl⟩

/-- **The case of ASCII letters is ignored, or decides.** Where case is ignored, names that
differ in it only within ASCII match, whatever letters they have besides; so in a reachable
registry they lead to the same command, and if one is in use the other cannot be registered.
Where case decides, a name is found exactly if it is one of the names and aliases. -/
theorem ascii_case_ignored :
    (∀ a b, CaseVariants a b → CaseRule.insensitive.same a b = true) ∧
    (∀ registry : Registry σ, registry.Reachable → registry.caseRule = .insensitive →
      ∀ a b, CaseVariants a b →
        registry.find? a = registry.find? b ∧
        registry.position? a = registry.position? b ∧
        ((registry.find? a).isSome = true → isName b = true →
          registry.draft b = .error (.duplicateName b))) ∧
    ∀ registry : Registry σ, registry.Reachable → registry.caseRule = .sensitive →
      ∀ name, (registry.find? name).isSome = true ↔ name ∈ registry.names := by
  refine ⟨?_, ?_, ?_⟩
  · intro a b h
    exact h.same
  · intro registry reachable rule a b h
    have hsame : registry.caseRule.same a b = true := by
      rw [rule]
      exact h.same
    refine ⟨find?_congr hsame, position?_congr hsame, fun used valid => ?_⟩
    rw [find?_congr hsame] at used
    exact reachable.distinct.draft_of_used used valid
  · intro registry reachable rule name
    exact reachable.distinct.isSome_find?_sensitive rule name

/-- A registry with one command, whose alias has capital sigmas around a letter of ASCII. -/
def sigmas (rule : CaseRule) : Registry Unit :=
  ((Registry.empty rule .single).declare ⟨"odyssey", [.alias "ΣaΣ"], none⟩).1

theorem ascii_case_ignored_sigmas :
    CaseRule.insensitive.same "ΣaΣ" "ΣAΣ" = true ∧
    (sigmas .insensitive).position? "ΣAΣ" = some 0 ∧
    (sigmas .insensitive).draft "ΣAΣ" = .error (.duplicateName "ΣAΣ") ∧
    ¬ ((sigmas .sensitive).find? "ΣAΣ").isSome = true := by
  obtain ⟨same, ignored, decides⟩ := @ascii_case_ignored Unit
  have hvariants : CaseVariants "ΣaΣ" "ΣAΣ" := by decide
  obtain ⟨-, hposition, hdraft⟩ :=
    ignored (sigmas .insensitive) ((Reachable.empty _ _).declare _) rfl _ _ hvariants
  refine ⟨same _ _ hvariants, ?_, ?_, ?_⟩
  · rw [← hposition]
    decide +kernel
  · exact hdraft (by decide +kernel) (by decide +kernel)
  · rw [decides (sigmas .sensitive) ((Reachable.empty _ _).declare _) rfl]
    decide +kernel

end Registry

end CommandConsole
