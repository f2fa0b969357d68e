import CommandConsole.Proofs.Characters
import CommandConsole.Registry.Declaration

/-!
# What declarations do to a registry

A declaration goes step by step and may be refused at any of them. `Draft.add_eq_ok`
says when a step between the name and the handler is accepted and what it does, and
`Draft.Step` is what invariants need of it; `Draft.attach_cases` says the same of the
handler, and `Registry.declare_cases` puts a whole declaration together. A registry is
reachable if declarations, completed or not, removals and clearings lead to it from an
empty one, and its invariants are inductions on that.
-/

namespace CommandConsole

variable {σ : Type}

/-! ## Steps of a declaration -/

def Command.plus (command : Command σ) : DeclarationItem → Command σ
  | .alias name => { command with aliases := command.aliases ++ [name] }
  | .parameter added => { command with parameters := command.parameters ++ [added] }
  | .help text => { command with helpText := some text }

/-- What is asked of a step. -/
def Draft.Takes (draft : Draft σ) : DeclarationItem → Prop
  | .alias name => nameError? draft.caseRule draft.registry.commands name = none
  | .parameter added =>
      draft.command.parameters.length < maxParameters ∧
      added.spec.type.isAllowed draft.precision = true ∧
      (added.optional = true ∨ ∀ earlier ∈ draft.command.parameters, earlier.optional = false)
  | .help _ => True

theorem Draft.typeError?_eq_none {draft : Draft σ} {specs : List TypeSpec} :
    draft.typeError? specs = none ↔
      ∀ spec ∈ specs, spec.type.isAllowed draft.precision = true := by
  simp [Draft.typeError?]

/-- A step is accepted exactly if it may be taken, and then it adds to the command and
changes nothing else. -/
theorem Draft.add_eq_ok {draft next : Draft σ} {item : DeclarationItem} :
    draft.add item = .ok next ↔
      draft.Takes item ∧ next = { draft with command := draft.command.plus item } := by
  cases item with
  | «alias» name =>
      rw [add, addAlias]
      split
      · rename_i error hrefused
        simp [Takes, hrefused]
      · rename_i hfree
        have htakes : draft.Takes (.alias name) := hfree
        rw [Except.ok.injEq, and_iff_right htakes, eq_comm]
        rfl
  | parameter added =>
      simp only [add, addParameter]
      split
      · rename_i hfull
        simp [Takes, Nat.not_lt.mpr hfull]
      · rename_i hroom
        split
        · rename_i error hrefused
          refine iff_of_false (by simp) ?_
          rintro ⟨⟨-, hallowed, -⟩, -⟩
          rw [typeError?_eq_none.mpr (List.forall_mem_singleton.mpr hallowed)] at hrefused
          exact absurd hrefused (by simp)
        · rename_i hallowed
          have horder :
              (!added.optional && draft.command.parameters.any Parameter.optional) = false ↔
                added.optional = true ∨
                  ∀ earlier ∈ draft.command.parameters, earlier.optional = false := by
            cases added.optional <;> simp
          split
          · rename_i hlate
            refine iff_of_false (by simp) ?_
            rintro ⟨⟨-, -, htail⟩, -⟩
            rw [horder.mpr htail] at hlate
            exact Bool.noConfusion hlate
          · rename_i hlate
            have htakes : draft.Takes (.parameter added) :=
              ⟨Nat.lt_of_not_le hroom, typeError?_eq_none.mp hallowed _ List.mem_cons_self,
                horder.mp (Bool.eq_false_iff.mpr hlate)⟩
            rw [Except.ok.injEq, and_iff_right htakes, eq_comm]
            rfl
  | help text =>
      have htakes : draft.Takes (.help text) := trivial
      rw [add, Except.ok.injEq, and_iff_right htakes, eq_comm]
      rfl

inductive Draft.Step : Draft σ → Draft σ → Prop where
  | alias {draft : Draft σ} {name : String}
      (free : nameError? draft.caseRule draft.registry.commands name = none) :
      Step draft { draft with
        command := { draft.command with aliases := draft.command.aliases ++ [name] } }
  | parameter {draft : Draft σ} {parameter : Parameter}
      (room : draft.command.parameters.length < maxParameters)
      (allowed : parameter.spec.type.isAllowed draft.precision = true)
      (order : parameter.optional = true ∨
        ∀ earlier ∈ draft.command.parameters, earlier.optional = false) :
      Step draft { draft with
        command := { draft.command with
          parameters := draft.command.parameters ++ [parameter] } }
  | help {draft : Draft σ} (text : String) : Step draft (draft.setHelp text)

theorem Draft.step_of_add {draft next : Draft σ} {item : DeclarationItem}
    (h : draft.add item = .ok next) : Draft.Step draft next := by
  obtain ⟨htakes, rfl⟩ := add_eq_ok.mp h
  cases item with
  | «alias» name => exact .alias htakes
  | parameter added => exact .parameter htakes.1 htakes.2.1 htakes.2.2
  | help text => exact .help text

theorem Draft.steps_of_addAll (draft : Draft σ) (index : Nat) (items : List DeclarationItem) :
    Relation.ReflTransGen Draft.Step draft (draft.addAll index items).1 := by
  induction items generalizing draft index with
  | nil => exact .refl
  | cons item items ih =>
      rw [addAll]
      split
      · exact .refl
      · exact .head (step_of_add ‹_›) (ih _ _)

/-- Between the name and the handler nothing but the command changes, and it gets
no handler. -/
theorem Draft.frame_of_steps {start draft : Draft σ}
    (h : Relation.ReflTransGen Draft.Step start draft) :
    draft.others = start.others ∧ draft.caseRule = start.caseRule ∧
      draft.precision = start.precision ∧ draft.command.name = start.command.name ∧
      draft.command.handler = start.command.handler := by
  induction h with
  | refl => exact ⟨rfl, rfl, rfl, rfl, rfl⟩
  | tail _ hstep ih => cases hstep <;> exact ih

/-- An accepted handler: a raw one, one that settles the parameters, or one that
agrees with them. -/
theorem Draft.attach_cases {draft next : Draft σ} {handler : Handler σ}
    (h : draft.attach handler = .ok next) :
    (∃ run, handler = .raw run ∧
      next = { draft with command := { draft.command with handler := some handler } }) ∨
    (∃ signature run, handler = .typed signature run ∧ draft.command.parameters = [] ∧
      (∀ type ∈ signature, type.spec.type.isAllowed draft.precision = true) ∧
      next = { draft with
        command := { draft.command with
          parameters := signature.map fun type => ⟨type.spec, false⟩
          handler := some handler } }) ∨
    (∃ signature run, handler = .typed signature run ∧ draft.command.parameters ≠ [] ∧
      draft.command.parameters.map Parameter.spec = signature.map ParameterType.spec ∧
      next = { draft with command := { draft.command with handler := some handler } }) := by
  cases handler with
  | raw run =>
      obtain rfl := Except.ok.inj h
      exact Or.inl ⟨run, rfl, rfl⟩
  | typed signature run =>
      simp only [attach] at h
      split at h
      · rename_i hempty
        split at h
        · exact absurd h (by simp)
        · rename_i hallowed
          obtain rfl := Except.ok.inj h
          refine Or.inr (Or.inl ⟨signature, run, rfl, List.isEmpty_iff.mp hempty, ?_, ?_⟩)
          · exact fun type htype =>
              typeError?_eq_none.mp hallowed _ (List.mem_map_of_mem htype)
          · rw [List.map_map]
            rfl
      · rename_i hdeclared
        split at h
        · rename_i hagree
          obtain rfl := Except.ok.inj h
          exact Or.inr (Or.inr
            ⟨signature, run, rfl, fun he => hdeclared (by simp [he]), hagree, rfl⟩)
        · exact absurd h (by simp)

/-! ## Whole declarations -/

theorem Registry.draft_eq_ok {registry : Registry σ} {name : String} {start : Draft σ} :
    registry.draft name = .ok start ↔
      nameError? registry.caseRule registry.commands name = none ∧
      start = ⟨registry.commands, Command.named name, registry.caseRule, registry.precision⟩ := by
  unfold Registry.draft
  split
  · rename_i herror
    simp [herror]
  · rename_i hfree
    simp [hfree, eq_comm]

/-- How a declaration ends: at a name that is refused; with the command as the accepted
steps made it, because a step was refused or no handler was given; or with its handler. -/
theorem Registry.declare_ends (registry : Registry σ) (declaration : Declaration σ) :
    (∃ error, registry.declare declaration = (registry, some ⟨.name, error⟩)) ∨
    ∃ start draft, registry.draft declaration.name = .ok start ∧
      Relation.ReflTransGen Draft.Step start draft ∧
      ((∃ fault, registry.declare declaration = (draft.registry, fault) ∧
          (fault = none → declaration.handler = none)) ∨
        ∃ handler next, declaration.handler = some handler ∧
          draft.attach handler = .ok next ∧
          registry.declare declaration = (next.registry, none)) := by
  unfold declare
  split
  · exact Or.inl ⟨_, rfl⟩
  · rename_i start hstart
    have hsteps := start.steps_of_addAll 0 declaration.items
    right
    split
    · rename_i draft fault hadd
      rw [hadd] at hsteps
      exact ⟨start, draft, hstart, hsteps, Or.inl ⟨some fault, rfl, by simp⟩⟩
    · rename_i draft hadd
      rw [hadd] at hsteps
      refine ⟨start, draft, hstart, hsteps, ?_⟩
      cases declaration.handler with
      | none => exact Or.inl ⟨none, rfl, fun _ => rfl⟩
      | some handler =>
          cases hattach : draft.attach handler with
          | error e =>
              exact Or.inl ⟨some ⟨.handler, e⟩, by simp [Draft.finish, hattach], by simp⟩
          | ok next =>
              exact Or.inr ⟨handler, next, rfl, hattach, by simp [Draft.finish, hattach]⟩

/-- A declaration leaves the registry alone if its name is refused, and otherwise the
command as the accepted steps made it, with its handler if that was accepted, too. -/
theorem Registry.declare_cases (registry : Registry σ) (declaration : Declaration σ) :
    (registry.declare declaration).1 = registry ∨
    ∃ start draft, registry.draft declaration.name = .ok start ∧
      Relation.ReflTransGen Draft.Step start draft ∧
      ((registry.declare declaration).1 = draft.registry ∨
        ∃ handler next, draft.attach handler = .ok next ∧
          (registry.declare declaration).1 = next.registry) := by
  rcases registry.declare_ends declaration with
    ⟨error, hend⟩ | ⟨start, draft, hstart, hsteps, hend⟩
  · exact Or.inl (congrArg Prod.fst hend)
  · refine Or.inr ⟨start, draft, hstart, hsteps, ?_⟩
    rcases hend with ⟨fault, hend, -⟩ | ⟨handler, next, -, hattach, hend⟩
    · exact Or.inl (congrArg Prod.fst hend)
    · exact Or.inr ⟨handler, next, hattach, congrArg Prod.fst hend⟩

/-- The registries that declarations, removals and clearings lead to. -/
inductive Registry.Reachable : Registry σ → Prop where
  | empty (caseRule : CaseRule) (precision : Precision) :
      Reachable (Registry.empty caseRule precision)
  | declare {registry : Registry σ} (before : Reachable registry)
      (declaration : Declaration σ) : Reachable (registry.declare declaration).1
  | remove {registry : Registry σ} (before : Reachable registry) (name : String) :
      Reachable (registry.remove name).2
  | clear {registry : Registry σ} (before : Reachable registry) : Reachable registry.clear

theorem Registry.Reachable.of_declare {registry next : Registry σ} {declaration : Declaration σ}
    {fault : Option DeclarationFault} (h : registry.Reachable)
    (hnext : registry.declare declaration = (next, fault)) : next.Reachable := by
  have hreach := h.declare declaration
  rwa [hnext] at hreach

end CommandConsole
