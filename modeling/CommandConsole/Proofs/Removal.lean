import CommandConsole.Proofs.Independence

/-!
# Removing commands

A command is removed by its name only, but it is looked up by its aliases, too. No
two names of a registry match, so one command goes at most, all of its names go
with it, and no other name is looked up differently afterwards.

Main result (`Registry.remove_surgical`), for all registries that declarations and
removals lead to.
-/

namespace CommandConsole

variable {σ : Type}

namespace Registry

/-! ## What remains -/

theorem filter_unnamed {rule : CaseRule} {commands : List (Command σ)} {name : String}
    (unnamed : ∀ command ∈ commands, rule.same command.name name = false) :
    (commands.filter fun command => !rule.same command.name name) = commands := by
  apply List.filter_eq_self.mpr
  intro command hcommand
  rw [unnamed command hcommand, Bool.not_false]

theorem remove_of_unnamed {registry : Registry σ} {name : String}
    (unnamed : ∀ command ∈ registry.commands,
      registry.caseRule.same command.name name = false) :
    registry.remove name = (false, registry) := by
  simp only [remove, filter_unnamed unnamed, bne_self_eq_false]

/-- A name that is that of one command only takes this command away. -/
theorem remove_of_split {registry : Registry σ} {before after : List (Command σ)}
    {removed : Command σ} {name : String} (split : registry.commands = before ++ removed :: after)
    (named : registry.caseRule.same removed.name name = true)
    (unnamed : ∀ command ∈ before ++ after,
      registry.caseRule.same command.name name = false) :
    registry.remove name = (true, { registry with commands := before ++ after }) := by
  have hkept : (registry.commands.filter fun command =>
      !registry.caseRule.same command.name name) = before ++ after := by
    have hothers := filter_unnamed unnamed
    rw [List.filter_append] at hothers
    rw [split, List.filter_append, List.filter_cons_of_neg (by simp [named])]
    exact hothers
  have hshorter : (before ++ after).length ≠ registry.commands.length := by
    rw [split, List.length_append, List.length_append, List.length_cons]
    omega
  simp only [remove, hkept, bne_iff_ne.mpr hshorter]

theorem Distinct.others_of_split {registry : Registry σ} (h : registry.Distinct)
    {before after : List (Command σ)} {removed : Command σ}
    (split : registry.commands = before ++ removed :: after) {name : String}
    (answers : removed.answersTo registry.caseRule name = true) :
    ∀ command ∈ before ++ after, command.answersTo registry.caseRule name = false := by
  intro command hcommand
  apply Bool.eq_false_iff.mpr
  intro hanswers
  have hapart := (List.pairwise_flatMap.mp h.apart).2
  rw [split, List.pairwise_middle] at hapart
  · obtain ⟨own, hown, hsame⟩ := Command.answersTo_iff.mp answers
    obtain ⟨other, hother, hsame'⟩ := Command.answersTo_iff.mp hanswers
    have hdiffer := List.rel_of_pairwise_cons hapart hcommand own hown other hother
    rw [CaseRule.same_of_both hsame hsame'] at hdiffer
    exact Bool.noConfusion hdiffer
  · intro a b hab other hother own hown
    rw [CaseRule.same_comm]
    exact hab own hown other hother

theorem Distinct.of_split {registry : Registry σ} (h : registry.Distinct)
    {before after : List (Command σ)} {removed : Command σ}
    (split : registry.commands = before ++ removed :: after) :
    ({ registry with commands := before ++ after } : Registry σ).Distinct := by
  refine h.of_names rfl ?_
  have hsublist : (before ++ after).Sublist registry.commands := by
    rw [split]
    exact (List.Sublist.refl before).append (List.sublist_cons_self removed after)
  exact hsublist.flatMap _

/-- Without one of the commands its names find nothing, and all others what they found. -/
theorem Distinct.find?_of_split {registry : Registry σ} (h : registry.Distinct)
    {before after : List (Command σ)} {removed : Command σ}
    (split : registry.commands = before ++ removed :: after) (name : String) :
    ({ registry with commands := before ++ after } : Registry σ).find? name =
      if removed.answersTo registry.caseRule name = true then none
      else registry.find? name := by
  have hkept := h.of_split split
  split_ifs with hanswers
  · apply Option.eq_none_iff_forall_ne_some.mpr
    intro command hfind
    obtain ⟨hmem, hother⟩ := hkept.find?_eq_some.mp hfind
    have hnone := h.others_of_split split hanswers command hmem
    rw [hnone] at hother
    exact Bool.noConfusion hother
  · ext command
    rw [hkept.find?_eq_some, h.find?_eq_some, split, List.mem_append, List.mem_append,
      List.mem_cons]
    constructor
    · rintro ⟨hbefore | hafter, hcommand⟩
      · exact ⟨Or.inl hbefore, hcommand⟩
      · exact ⟨Or.inr (Or.inr hafter), hcommand⟩
    · rintro ⟨hbefore | rfl | hafter, hcommand⟩
      · exact ⟨Or.inl hbefore, hcommand⟩
      · exact absurd hcommand hanswers
      · exact ⟨Or.inr hafter, hcommand⟩

theorem Distinct.draft_of_split {registry : Registry σ} (h : registry.Distinct)
    {before after : List (Command σ)} {removed : Command σ}
    (split : registry.commands = before ++ removed :: after) {own : String}
    (hown : own ∈ removed.names) :
    ∃ start,
      ({ registry with commands := before ++ after } : Registry σ).draft own = .ok start := by
  have hmem : own ∈ registry.names := by
    refine List.mem_flatMap.mpr ⟨removed, ?_, hown⟩
    rw [split]
    exact List.mem_append_right before List.mem_cons_self
  rw [(h.of_split split).draft_eq, h.find?_of_split split,
    if_pos (Command.answersTo_own hown registry.caseRule)]
  simp [h.valid own hmem]

/-! ## Removing a name -/

/-- Where no two names match, a name takes away no more than the command it names. -/
theorem Distinct.remove_of_split {registry : Registry σ} (h : registry.Distinct)
    {before after : List (Command σ)} {removed : Command σ} {name : String}
    (split : registry.commands = before ++ removed :: after)
    (named : registry.caseRule.same removed.name name = true) :
    registry.remove name = (true, { registry with commands := before ++ after }) := by
  refine Registry.remove_of_split split named ?_
  intro command hcommand
  apply Bool.eq_false_iff.mpr
  intro hsame
  have hnone := h.others_of_split split (Command.answersTo_of_same named) command hcommand
  rw [Command.answersTo_of_same hsame] at hnone
  exact Bool.noConfusion hnone

/-- **Removing takes one command and nothing else.** In a reachable registry, removing a
name succeeds exactly if it is the name of a command. Then this command goes, the others
stay as they are and in their order, every name that the command answered to finds nothing
and every other name what it found before, and each of the command's names can be
registered again. If the name is no more than an alias, or unknown, nothing happens. -/
theorem remove_surgical {registry : Registry σ} (reachable : registry.Reachable)
    (name : String) :
    ((registry.remove name).1 = true ↔
      ∃ command ∈ registry.commands, registry.caseRule.same command.name name = true) ∧
    ((registry.remove name).1 = true → ∃ before removed after,
      registry.commands = before ++ removed :: after ∧
      registry.caseRule.same removed.name name = true ∧
      (registry.remove name).2 = { registry with commands := before ++ after } ∧
      (∀ other, (registry.remove name).2.find? other =
        if removed.answersTo registry.caseRule other = true then none
        else registry.find? other) ∧
      ∀ own ∈ removed.names, ∃ start, (registry.remove name).2.draft own = .ok start) ∧
    ((∀ command ∈ registry.commands, registry.caseRule.same command.name name = false) →
      registry.remove name = (false, registry)) := by
  have hdistinct := reachable.distinct
  have hnamed : (registry.remove name).1 = true ↔
      ∃ command ∈ registry.commands, registry.caseRule.same command.name name = true := by
    constructor
    · intro hremoved
      by_contra hnone
      push Not at hnone
      rw [remove_of_unnamed fun command hcommand =>
        Bool.eq_false_iff.mpr (hnone command hcommand)] at hremoved
      exact Bool.noConfusion hremoved
    · rintro ⟨removed, hmem, hsame⟩
      obtain ⟨before, after, hsplit⟩ := List.append_of_mem hmem
      rw [hdistinct.remove_of_split hsplit hsame]
  refine ⟨hnamed, ?_, remove_of_unnamed⟩
  intro hremoved
  obtain ⟨removed, hmem, hsame⟩ := hnamed.mp hremoved
  obtain ⟨before, after, hsplit⟩ := List.append_of_mem hmem
  rw [hdistinct.remove_of_split hsplit hsame]
  exact ⟨before, removed, after, hsplit, hsame, rfl, hdistinct.find?_of_split hsplit,
    fun own hown => hdistinct.draft_of_split hsplit hown⟩

theorem remove_surgical_sample :
    (Sample.folding.registry.remove "LOAD").1 = true ∧
    (Sample.folding.registry.remove "LOAD").2.find? "L" = none ∧
    (Sample.folding.registry.remove "LOAD").2.find? "q" = Sample.folding.registry.find? "q" ∧
    Sample.folding.registry.remove "l" = (false, Sample.folding.registry) := by
  have hreach : Sample.folding.registry.Reachable :=
    ((Reachable.empty _ _).declare _).declare _
  obtain ⟨hnamed, hremoved, -⟩ := remove_surgical hreach "LOAD"
  have hload := hnamed.mpr (by decide +kernel)
  obtain ⟨before, removed, after, hsplit, hsame, -, hfind, -⟩ := hremoved hload
  have hmem : removed ∈ Sample.folding.registry.commands := by
    rw [hsplit]
    exact List.mem_append_right before List.mem_cons_self
  have hanswers : ∀ command ∈ Sample.folding.registry.commands,
      Sample.folding.registry.caseRule.same command.name "LOAD" = true →
        command.answersTo Sample.folding.registry.caseRule "L" = true ∧
        command.answersTo Sample.folding.registry.caseRule "q" = false := by
    decide +kernel
  obtain ⟨hyes, hno⟩ := hanswers removed hmem hsame
  refine ⟨hload, ?_, ?_, ?_⟩
  · rw [hfind, if_pos hyes]
  · rw [hfind, if_neg (by simp [hno])]
  · exact (remove_surgical hreach "l").2.2 (by decide +kernel)

end Registry

end CommandConsole
