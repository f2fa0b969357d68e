import CommandConsole.Proofs.Declarations

/-!
# The names of a registry

No two names of a registry match, whether they belong to one command or to two
(`Registry.Distinct`), and every step of every declaration keeps it so. Hence a
name is looked up exactly: whichever way the registry goes through its
commands, it finds the only one that answers.

Main result (`Registry.names_exact`), with the one reservation that a name to
be registered may hold no character that is new in Unicode 17: a line may use
such a character in a name, but the registry refuses it.
-/

namespace CommandConsole

variable {σ : Type}

/-- A non-empty text of the characters that a line may use in a name. -/
structure IsNamed (s : String) : Prop where
  nonempty : s.toList ≠ []
  named : ∀ c ∈ s.toList, isNameChar c = true

theorem isName_iff {s : String} :
    isName s = true ↔ IsNamed s ∧ ∀ c ∈ s.toList, Text.isRecent c = false := by
  rw [isName, Bool.and_eq_true, Bool.not_eq_true', List.isEmpty_eq_false_iff, List.all_eq_true]
  constructor
  · rintro ⟨hne, hall⟩
    have hchar : ∀ c ∈ s.toList, isNameChar c = true ∧ Text.isRecent c = false := by
      intro c hc
      simpa [isLastingNameChar] using hall c hc
    exact ⟨⟨hne, fun c hc => (hchar c hc).1⟩, fun c hc => (hchar c hc).2⟩
  · rintro ⟨⟨hne, hnamed⟩, hlasting⟩
    refine ⟨hne, fun c hc => ?_⟩
    simp [isLastingNameChar, hnamed c hc, hlasting c hc]

def CaseRule.key : CaseRule → String → List Char
  | .sensitive, s => s.toList
  | .insensitive, s => Text.lowercase s.toList

theorem CaseRule.same_iff {rule : CaseRule} {a b : String} :
    rule.same a b = true ↔ rule.key a = rule.key b := by
  cases rule with
  | sensitive => rw [same, beq_iff_eq, key, key, String.toList_inj]
  | insensitive => rw [same, beq_iff_eq, key, key]

theorem CaseRule.same_comm (rule : CaseRule) (a b : String) : rule.same a b = rule.same b a := by
  rw [Bool.eq_iff_iff, same_iff, same_iff, eq_comm]

theorem CaseRule.same_of_both {rule : CaseRule} {a b name : String}
    (ha : rule.same a name = true) (hb : rule.same b name = true) : rule.same a b = true :=
  same_iff.mpr ((same_iff.mp ha).trans (same_iff.mp hb).symm)

theorem CaseRule.same_of_sensitive {rule : CaseRule} {a b : String}
    (h : CaseRule.sensitive.same a b = true) : rule.same a b = true := by
  obtain rfl := String.toList_inj.mp (same_iff.mp h)
  exact same_iff.mpr rfl

theorem Command.answersTo_iff {command : Command σ} {rule : CaseRule} {name : String} :
    command.answersTo rule name = true ↔ ∃ own ∈ command.names, rule.same own name = true :=
  List.any_eq_true

theorem Command.answersTo_of_same {command : Command σ} {rule : CaseRule} {name : String}
    (h : rule.same command.name name = true) : command.answersTo rule name = true :=
  answersTo_iff.mpr ⟨command.name, List.mem_cons_self, h⟩

theorem Command.answersTo_own {command : Command σ} {own : String} (h : own ∈ command.names)
    (rule : CaseRule) : command.answersTo rule own = true :=
  answersTo_iff.mpr ⟨own, h, CaseRule.same_iff.mpr rfl⟩

/-! ## The invariant -/

def Registry.names (registry : Registry σ) : List String :=
  registry.commands.flatMap Command.names

/-- No two names match, and all of them are valid. -/
structure Registry.Distinct (registry : Registry σ) : Prop where
  apart : registry.names.Pairwise fun a b => registry.caseRule.same a b = false
  valid : ∀ name ∈ registry.names, isName name = true

theorem nameError?_eq_none {rule : CaseRule} {commands : List (Command σ)} {name : String} :
    nameError? rule commands name = none ↔
      isName name = true ∧
        ∀ other ∈ commands.flatMap Command.names, rule.same other name = false := by
  have hany : commands.any (·.answersTo rule name) = false ↔
      ∀ other ∈ commands.flatMap Command.names, rule.same other name = false := by
    simp only [List.any_eq_false, Command.answersTo_iff, List.mem_flatMap, not_exists, not_and,
      Bool.not_eq_true, forall_exists_index, and_imp]
    exact ⟨fun h other command hcommand hother => h command hcommand other hother,
      fun h command hcommand other hother => h other command hcommand hother⟩
  rw [← hany]
  unfold nameError?
  cases isName name <;> cases commands.any (·.answersTo rule name) <;> simp

theorem Registry.Distinct.add {registry next : Registry σ} {name : String}
    (h : registry.Distinct)
    (free : nameError? registry.caseRule registry.commands name = none)
    (hrule : next.caseRule = registry.caseRule) (hnames : next.names = registry.names ++ [name]) :
    next.Distinct := by
  obtain ⟨hvalid, hfree⟩ := nameError?_eq_none.mp free
  constructor
  · rw [hnames, hrule, List.pairwise_append]
    refine ⟨h.apart, List.pairwise_singleton _ _, fun other hother new hnew => ?_⟩
    rw [List.mem_singleton.mp hnew]
    exact hfree other hother
  · intro other hother
    rw [hnames, List.mem_append, List.mem_singleton] at hother
    rcases hother with hother | rfl
    · exact h.valid other hother
    · exact hvalid

theorem Registry.Distinct.free {registry : Registry σ} {rule : CaseRule}
    {commands : List (Command σ)} {name : String} (h : registry.Distinct)
    (hrule : registry.caseRule = rule)
    (hnames : registry.names = commands.flatMap Command.names ++ [name]) :
    nameError? rule commands name = none := by
  have hapart := h.apart
  rw [hnames, hrule, List.pairwise_append] at hapart
  refine nameError?_eq_none.mpr ⟨h.valid name ?_, fun other hother => ?_⟩
  · rw [hnames]
    exact List.mem_append_right _ (List.mem_singleton_self name)
  · exact hapart.2.2 other hother name (List.mem_singleton_self name)

theorem Registry.Distinct.of_names {registry next : Registry σ} (h : registry.Distinct)
    (hrule : next.caseRule = registry.caseRule) (hnames : next.names.Sublist registry.names) :
    next.Distinct where
  apart := hrule ▸ h.apart.sublist hnames
  valid := fun name hname => h.valid name (hnames.subset hname)

theorem Draft.names_registry (draft : Draft σ) :
    draft.registry.names = draft.others.flatMap Command.names ++ draft.command.names := by
  simp [Draft.registry, Registry.names]

theorem Draft.names_of_steps {start draft : Draft σ}
    (h : Relation.ReflTransGen Draft.Step start draft) :
    start.command.names.Sublist draft.command.names := by
  induction h with
  | refl => exact List.Sublist.refl _
  | tail _ hstep ih =>
      refine ih.trans ?_
      cases hstep with
      | «alias» => exact (List.sublist_append_left _ _).cons_cons _
      | parameter => exact List.Sublist.refl _
      | help => exact List.Sublist.refl _

theorem Draft.names_of_attach {draft next : Draft σ} {handler : Handler σ}
    (h : draft.attach handler = .ok next) : next.command.names = draft.command.names := by
  rcases attach_cases h with ⟨_, -, rfl⟩ | ⟨_, _, -, -, -, rfl⟩ | ⟨_, _, -, -, -, rfl⟩ <;> rfl

theorem Draft.Step.distinct {draft next : Draft σ} (h : Draft.Step draft next)
    (hdraft : draft.registry.Distinct) : next.registry.Distinct := by
  cases h with
  | «alias» free =>
      refine hdraft.add free rfl ?_
      simp [Draft.names_registry, Command.names]
  | parameter => exact hdraft.of_names rfl (by simp [Draft.names_registry, Command.names])
  | help => exact hdraft.of_names rfl (by simp [Draft.names_registry, Command.names, setHelp])

theorem Draft.distinct_attach {draft next : Draft σ} {handler : Handler σ}
    (h : draft.attach handler = .ok next) (hdraft : draft.registry.Distinct) :
    next.registry.Distinct := by
  rcases attach_cases h with ⟨_, -, rfl⟩ | ⟨_, _, -, -, -, rfl⟩ | ⟨_, _, -, -, -, rfl⟩ <;>
    exact hdraft.of_names rfl (by simp [names_registry, Command.names])

theorem Registry.Distinct.draft {registry : Registry σ} {name : String} {start : Draft σ}
    (h : registry.Distinct) (hstart : registry.draft name = .ok start) :
    start.registry.Distinct := by
  obtain ⟨hfree, rfl⟩ := draft_eq_ok.mp hstart
  refine h.add hfree rfl ?_
  rw [Draft.names_registry]
  rfl

theorem Registry.Reachable.distinct {registry : Registry σ} (h : registry.Reachable) :
    registry.Distinct := by
  induction h with
  | empty => exact ⟨List.Pairwise.nil, fun _ h => absurd h List.not_mem_nil⟩
  | @declare registry _ declaration ih =>
      rcases registry.declare_cases declaration with
        hsame | ⟨start, draft, hstart, hsteps, hresult⟩
      · rwa [hsame]
      · -- The names are apart from the first accepted name on, whatever ends the steps.
        have hdraft : draft.registry.Distinct := by
          clear hresult
          induction hsteps with
          | refl => exact ih.draft hstart
          | tail _ hstep ih => exact hstep.distinct ih
        rcases hresult with hresult | ⟨handler, next, hattach, hresult⟩
        · rwa [hresult]
        · rw [hresult]
          exact Draft.distinct_attach hattach hdraft
  | remove _ name ih => exact ih.of_names rfl (List.filter_sublist.flatMap _)
  | clear _ ih => exact ih.of_names rfl (List.nil_sublist _)

/-! ## Looking a name up -/

namespace Registry

theorem find?_eq_position? (registry : Registry σ) (name : String) :
    registry.find? name = (registry.position? name).bind (registry.commands[·]?) := by
  rw [find?, position?, List.find?_eq_bind_findIdx?_getElem?, List.find?_eq_bind_findIdx?_getElem?]
  -- A place that was found holds a command, so aliases are tried in the same cases.
  cases hname : registry.commands.findIdx? fun command =>
      registry.caseRule.same command.name name with
  | none => rfl
  | some i =>
      obtain ⟨hi, -⟩ := List.findIdx?_eq_some_iff_getElem.mp hname
      simp [hi]

theorem answersTo_of_position? {registry : Registry σ} {name : String} {i : Nat}
    (h : registry.position? name = some i) :
    ∃ command, registry.commands[i]? = some command ∧
      command.answersTo registry.caseRule name = true := by
  rcases Option.or_eq_some_iff.mp h with hname | ⟨-, halias⟩
  · obtain ⟨hi, hsame, -⟩ := List.findIdx?_eq_some_iff_getElem.mp hname
    exact ⟨_, List.getElem?_eq_getElem hi, Command.answersTo_of_same hsame⟩
  · obtain ⟨hi, hanswers, -⟩ := List.findIdx?_eq_some_iff_getElem.mp halias
    exact ⟨_, List.getElem?_eq_getElem hi, hanswers⟩

theorem Distinct.unique {registry : Registry σ} (h : registry.Distinct) {name : String}
    {i j : Nat} {a b : Command σ} (ha : registry.commands[i]? = some a)
    (hb : registry.commands[j]? = some b)
    (hanswers : a.answersTo registry.caseRule name = true)
    (hanswers' : b.answersTo registry.caseRule name = true) : i = j := by
  obtain ⟨own, hown, hsame⟩ := Command.answersTo_iff.mp hanswers
  obtain ⟨own', hown', hsame'⟩ := Command.answersTo_iff.mp hanswers'
  obtain ⟨hi, rfl⟩ := List.getElem?_eq_some_iff.mp ha
  obtain ⟨hj, rfl⟩ := List.getElem?_eq_some_iff.mp hb
  have hcommands := List.pairwise_iff_getElem.mp (List.pairwise_flatMap.mp h.apart).2
  rcases Nat.lt_trichotomy i j with hlt | heq | hgt
  · have := hcommands i j hi hj hlt own hown own' hown'
    rw [CaseRule.same_of_both hsame hsame'] at this
    exact Bool.noConfusion this
  · exact heq
  · have := hcommands j i hj hi hgt own' hown' own hown
    rw [CaseRule.same_of_both hsame' hsame] at this
    exact Bool.noConfusion this

theorem Distinct.position?_eq_some {registry : Registry σ} (h : registry.Distinct)
    {name : String} {i : Nat} :
    registry.position? name = some i ↔
      ∃ command, registry.commands[i]? = some command ∧
        command.answersTo registry.caseRule name = true := by
  refine ⟨answersTo_of_position?, ?_⟩
  rintro ⟨command, hcommand, hanswers⟩
  have hsome : (registry.position? name).isSome = true := by
    have hmem := List.mem_of_getElem? hcommand
    have hindex : (registry.commands.findIdx? fun command =>
        command.answersTo registry.caseRule name).isSome = true := by
      rw [List.findIdx?_isSome, List.any_eq_true]
      exact ⟨command, hmem, hanswers⟩
    rw [position?, Option.isSome_or, hindex, Bool.or_true]
  obtain ⟨j, hj⟩ := Option.isSome_iff_exists.mp hsome
  obtain ⟨other, hother, hanswers'⟩ := answersTo_of_position? hj
  rw [hj, h.unique hcommand hother hanswers hanswers']

theorem Distinct.find?_eq_some {registry : Registry σ} (h : registry.Distinct)
    {name : String} {command : Command σ} :
    registry.find? name = some command ↔
      command ∈ registry.commands ∧ command.answersTo registry.caseRule name = true := by
  rw [find?_eq_position?, Option.bind_eq_some_iff]
  constructor
  · rintro ⟨i, hi, hcommand⟩
    obtain ⟨found, hfound, hanswers⟩ := answersTo_of_position? hi
    obtain rfl := Option.some.inj (hcommand.symm.trans hfound)
    exact ⟨List.mem_of_getElem? hcommand, hanswers⟩
  · rintro ⟨hmem, hanswers⟩
    obtain ⟨i, hi⟩ := List.getElem?_of_mem hmem
    exact ⟨i, h.position?_eq_some.mpr ⟨command, hi, hanswers⟩, hi⟩

theorem Distinct.perm {registry other : Registry σ} (h : registry.Distinct)
    (hrule : other.caseRule = registry.caseRule)
    (hperm : other.commands.Perm registry.commands) : other.Distinct := by
  have hnames : other.names.Perm registry.names := hperm.flatMap_right _
  constructor
  · rw [hrule, hnames.pairwise_iff fun hab => (CaseRule.same_comm _ _ _).trans hab]
    exact h.apart
  · exact fun name hname => h.valid name (hnames.subset hname)

/-- Where no two names match, the order of the commands does not decide what is found. -/
theorem Distinct.find?_perm {registry other : Registry σ} (h : registry.Distinct)
    (hrule : other.caseRule = registry.caseRule)
    (hperm : other.commands.Perm registry.commands) (name : String) :
    other.find? name = registry.find? name := by
  ext command
  rw [(h.perm hrule hperm).find?_eq_some, h.find?_eq_some, hrule, hperm.mem_iff]

/-! ## Registering a name -/

theorem Distinct.isSome_find? {registry : Registry σ} (h : registry.Distinct) (name : String) :
    (registry.find? name).isSome =
      registry.commands.any (·.answersTo registry.caseRule name) := by
  rw [Bool.eq_iff_iff, Option.isSome_iff_exists, List.any_eq_true]
  exact exists_congr fun command => h.find?_eq_some

/-- A name is refused because it is not valid, else because it is in use. -/
theorem Distinct.draft_eq {registry : Registry σ} (h : registry.Distinct) (name : String) :
    registry.draft name =
      if isName name = false then .error (.invalidName name)
      else if (registry.find? name).isSome = true then .error (.duplicateName name)
      else .ok ⟨registry.commands, Command.named name, registry.caseRule,
        registry.precision⟩ := by
  rw [h.isSome_find?]
  unfold Registry.draft nameError?
  cases isName name <;> cases registry.commands.any (·.answersTo registry.caseRule name) <;> rfl

theorem draft_recent (registry : Registry σ) (name : String)
    (hrecent : ∃ c ∈ name.toList, Text.isRecent c = true) :
    registry.draft name = .error (.invalidName name) := by
  have hname : isName name = false := by
    rw [Bool.eq_false_iff, Ne, isName_iff]
    rintro ⟨-, hlasting⟩
    obtain ⟨c, hc, hrecent⟩ := hrecent
    rw [hlasting c hc] at hrecent
    exact Bool.noConfusion hrecent
  simp [draft, nameError?, hname]

/-- **Names are unique and looked up exactly.** In a reachable registry no two names
match and all are valid; a name is found, in either way, exactly where a command answers
to it; and it can be registered exactly if it is valid and not found. A character that is
new in Unicode 17 makes a name invalid. -/
theorem names_exact {registry : Registry σ} (h : registry.Reachable) :
    (registry.names.Pairwise fun a b => registry.caseRule.same a b = false) ∧
    (∀ name ∈ registry.names, IsNamed name) ∧
    (∀ name i, registry.position? name = some i ↔
      ∃ command, registry.commands[i]? = some command ∧
        command.answersTo registry.caseRule name = true) ∧
    (∀ name command, registry.find? name = some command ↔
      command ∈ registry.commands ∧ command.answersTo registry.caseRule name = true) ∧
    (∀ name, registry.find? name = (registry.position? name).bind (registry.commands[·]?)) ∧
    (∀ name, (∀ c ∈ name.toList, Text.isRecent c = false) →
      (registry.draft name = .error (.invalidName name) ↔ ¬ IsNamed name) ∧
      (registry.draft name = .error (.duplicateName name) ↔
        IsNamed name ∧ (registry.find? name).isSome = true) ∧
      ((∃ start, registry.draft name = .ok start) ↔
        IsNamed name ∧ registry.find? name = none)) ∧
    ∀ name, (∃ c ∈ name.toList, Text.isRecent c = true) →
      registry.draft name = .error (.invalidName name) := by
  have hdistinct := h.distinct
  refine ⟨hdistinct.apart, ?_, ?_, ?_, registry.find?_eq_position?, ?_, registry.draft_recent⟩
  · intro name hname
    exact (isName_iff.mp (hdistinct.valid name hname)).1
  · intro name i
    exact hdistinct.position?_eq_some
  · intro name command
    exact hdistinct.find?_eq_some
  · intro name hlasting
    have hname : isName name = true ↔ IsNamed name :=
      isName_iff.trans (and_iff_left hlasting)
    rw [← hname, hdistinct.draft_eq]
    cases isName name <;> cases registry.find? name <;> simp

def saved : Registry Unit :=
  (((Registry.empty .insensitive .single).declare ⟨"save", [.alias "s"], none⟩).1.declare
    ⟨"S", [], none⟩).1

theorem names_exact_saved :
    (saved.names.Pairwise fun a b => saved.caseRule.same a b = false) ∧
      saved.draft "-" = .error (.invalidName "-") ∧
      saved.draft "\u088f" = .error (.invalidName "\u088f") := by
  have hreach : saved.Reachable := ((Reachable.empty _ _).declare _).declare _
  obtain ⟨hapart, -, -, -, -, hlasting, hrecent⟩ := names_exact hreach
  refine ⟨hapart, (hlasting "-" ?_).1.mpr ?_, hrecent "\u088f" ?_⟩
  · simp
    decide
  · rintro ⟨-, hnamed⟩
    simpa using hnamed '-'
  · simp
    decide

/-- Not every text that a line may use as a name can be registered. -/
theorem recent_name_refused :
    ¬ ((∃ error, (Registry.empty .sensitive .single : Registry Unit).draft "\u088f" =
        .error error) ↔
      ¬ IsNamed "\u088f" ∨
        ((Registry.empty .sensitive .single : Registry Unit).find? "\u088f").isSome = true) := by
  have hnamed : IsNamed "\u088f" := ⟨by simp, by simp; decide +kernel⟩
  have hrefused := (Registry.empty .sensitive .single : Registry Unit).draft_recent
    "\u088f" ⟨'\u088f', by simp, by decide⟩
  intro h
  rcases h.mp ⟨_, hrefused⟩ with hfree | hfound
  · exact hfree hnamed
  · exact Bool.noConfusion hfound

end Registry

end CommandConsole
