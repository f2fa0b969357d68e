import CommandConsole.Proofs.Removal

/-!
# Refused declarations

A declaration whose name is refused leaves the registry alone. One that is refused
later leaves one more command, behind the others, with what was accepted up to then
and without a handler (`Command.incomplete`). Either way nothing is lost: removing the
name gives back the registry that was there before.

Main result (`Registry.declare_rollback`). It needs no invariant, so it holds of all
registries, not of those only that declarations lead to.
-/

namespace CommandConsole

variable {σ : Type}

/-! ## What steps make -/

def DeclarationItem.alias? : DeclarationItem → Option String
  | .alias name => some name
  | .parameter _ | .help _ => none

def DeclarationItem.parameter? : DeclarationItem → Option Parameter
  | .parameter added => some added
  | .alias _ | .help _ => none

def DeclarationItem.help? : DeclarationItem → Option String
  | .help text => some text
  | .alias _ | .parameter _ => none

/-- A command without a handler that holds what these steps say: all aliases, all
parameters, and the last help text. -/
def Command.incomplete (name : String) (items : List DeclarationItem) : Command σ where
  name := name
  aliases := items.filterMap DeclarationItem.alias?
  parameters := items.filterMap DeclarationItem.parameter?
  helpText := (items.filterMap DeclarationItem.help?).getLast?
  handler := none

def Registry.drafted (registry : Registry σ) (name : String) (items : List DeclarationItem) :
    Draft σ :=
  ⟨registry.commands, .incomplete name items, registry.caseRule, registry.precision⟩

theorem Command.incomplete_plus (name : String) (items : List DeclarationItem)
    (item : DeclarationItem) :
    (Command.incomplete name items : Command σ).plus item =
      .incomplete name (items ++ [item]) := by
  simp only [incomplete, List.filterMap_append]
  cases item <;>
    simp [plus, DeclarationItem.alias?, DeclarationItem.parameter?, DeclarationItem.help?]

theorem Draft.add_drafted {registry : Registry σ} {name : String}
    {items : List DeclarationItem} {item : DeclarationItem} {next : Draft σ}
    (h : (registry.drafted name items).add item = .ok next) :
    next = registry.drafted name (items ++ [item]) := by
  obtain ⟨-, rfl⟩ := add_eq_ok.mp h
  simp only [Registry.drafted, Command.incomplete_plus]

/-- Steps are all accepted, or the first that is refused ends them. -/
theorem Draft.addAll_drafted (registry : Registry σ) (name : String)
    (done : List DeclarationItem) (index : Nat) (items : List DeclarationItem) :
    (registry.drafted name done).addAll index items =
        (registry.drafted name (done ++ items), none) ∨
    ∃ k item error, items[k]? = some item ∧
      (registry.drafted name (done ++ items.take k)).add item = .error error ∧
      (registry.drafted name done).addAll index items =
        (registry.drafted name (done ++ items.take k), some ⟨.item (index + k), error⟩) ∧
      (registry.drafted name done).addAll index (items.take k) =
        (registry.drafted name (done ++ items.take k), none) := by
  induction items generalizing done index with
  | nil =>
      left
      rw [List.append_nil]
      rfl
  | cons item items ih =>
      cases hadd : (registry.drafted name done).add item with
      | error error =>
          right
          refine ⟨0, item, error, rfl, ?_, ?_, ?_⟩
          · rw [List.take_zero, List.append_nil]
            exact hadd
          · simp [addAll, hadd]
          · simp [addAll]
      | ok next =>
          obtain rfl := add_drafted hadd
          rcases ih (done ++ [item]) (index + 1) with
            hall | ⟨k, refused, error, hitem, herror, hends, htaken⟩
          · left
            rw [addAll, hadd]
            simpa using hall
          · right
            refine ⟨k + 1, refused, error, hitem, ?_, ?_, ?_⟩
            · simpa using herror
            · rw [addAll, hadd]
              simpa [Nat.add_assoc, Nat.add_comm 1 k] using hends
            · rw [List.take_succ_cons, addAll, hadd]
              simpa using htaken

/-! ## Where a declaration stops -/

/-- `declaration.Stops registry accepted fault`: the steps up to the one that the fault names
are accepted, and this one is refused for the command that they make. -/
inductive Declaration.Stops (registry : Registry σ) (declaration : Declaration σ) :
    List DeclarationItem → DeclarationFault → Prop where
  | item {k : Nat} {item : DeclarationItem} {error : DeclarationError}
      (named : declaration.items[k]? = some item)
      (refused : (registry.drafted declaration.name (declaration.items.take k)).add item =
        .error error) :
      Stops registry declaration (declaration.items.take k) ⟨.item k, error⟩
  | handler {handler : Handler σ} {error : DeclarationError}
      (given : declaration.handler = some handler)
      (refused : (registry.drafted declaration.name declaration.items).attach handler =
        .error error) :
      Stops registry declaration declaration.items ⟨.handler, error⟩

namespace Registry

theorem declare_drafted {registry : Registry σ} {name : String} {start : Draft σ}
    {items : List DeclarationItem} (hstart : registry.draft name = .ok start)
    (hitems : (registry.drafted name []).addAll 0 items = (registry.drafted name items, none)) :
    registry.declare ⟨name, items, none⟩ =
      ({ registry with commands := registry.commands ++ [.incomplete name items] }, none) := by
  obtain ⟨hfree, -⟩ := draft_eq_ok.mp hstart
  exact declare_complete.mpr ⟨draft_eq_ok.mpr ⟨hfree, rfl⟩, _, _, hitems, rfl, rfl⟩

/-- A declaration that is refused after its name leaves what the steps before that do without
the others. -/
theorem stops_of_declare {registry next : Registry σ} {declaration : Declaration σ}
    {start : Draft σ} {fault : DeclarationFault}
    (hstart : registry.draft declaration.name = .ok start)
    (h : registry.declare declaration = (next, some fault)) :
    ∃ accepted, declaration.Stops registry accepted fault ∧
      next = { registry with
        commands := registry.commands ++ [.incomplete declaration.name accepted] } ∧
      registry.declare ⟨declaration.name, accepted, none⟩ = (next, none) := by
  obtain ⟨-, rfl⟩ := draft_eq_ok.mp hstart
  simp only [declare, hstart] at h
  have hblank : (⟨registry.commands, Command.named declaration.name, registry.caseRule,
      registry.precision⟩ : Draft σ) = registry.drafted declaration.name [] := rfl
  rw [hblank] at h
  rcases Draft.addAll_drafted registry declaration.name [] 0 declaration.items with
    hall | ⟨k, item, error, hitem, herror, hends, htaken⟩
  · -- All steps were accepted, so it was the handler.
    rw [List.nil_append] at hall
    simp only [hall] at h
    cases hhandler : declaration.handler with
    | none => simp [hhandler, Draft.finish] at h
    | some handler =>
        simp only [hhandler, Draft.finish] at h
        split at h
        · rename_i error hrefused
          obtain ⟨rfl, hfault⟩ := Prod.mk.inj h
          obtain rfl := Option.some.inj hfault
          exact ⟨declaration.items, .handler hhandler hrefused, rfl,
            declare_drafted hstart hall⟩
        · exact absurd (congrArg Prod.snd h) (by simp)
  · rw [List.nil_append] at herror hends htaken
    simp only [hends, Nat.zero_add] at h
    obtain ⟨rfl, hfault⟩ := Prod.mk.inj h
    obtain rfl := Option.some.inj hfault
    exact ⟨_, .item hitem herror, rfl, declare_drafted hstart htaken⟩

/-! ## Taking a declaration back -/

theorem Makes.name_eq {registry : Registry σ} {declaration : Declaration σ}
    {command : Command σ} {fault : Option DeclarationFault}
    (h : registry.Makes declaration command fault) : command.name = declaration.name := by
  obtain ⟨draft, hsteps, hend⟩ := h.steps
  have hname : draft.command.name = declaration.name := (Draft.frame_of_steps hsteps).2.2.2.1
  rcases hend with ⟨rfl, -⟩ | ⟨handler, next, -, hattach, rfl, -⟩
  · exact hname
  · have hnames := Draft.names_of_attach hattach
    exact (List.cons.inj hnames).1.trans hname

/-- The name of a new command was free, so removing it takes no other one. -/
theorem Makes.remove_eq {registry : Registry σ} {declaration : Declaration σ}
    {command : Command σ} {fault : Option DeclarationFault} {start : Draft σ}
    (h : registry.Makes declaration command fault)
    (hstart : registry.draft declaration.name = .ok start) :
    (registry.push command).remove declaration.name = (true, registry) := by
  obtain ⟨hfree, -⟩ := draft_eq_ok.mp hstart
  have hsplit : (registry.push command).commands = registry.commands ++ command :: [] := rfl
  have hnamed : registry.caseRule.same command.name declaration.name = true := by
    rw [h.name_eq]
    exact CaseRule.same_iff.mpr rfl
  have hunnamed : ∀ other ∈ registry.commands ++ [],
      registry.caseRule.same other.name declaration.name = false := by
    intro other hother
    rw [List.append_nil] at hother
    refine (nameError?_eq_none.mp hfree).2 other.name ?_
    exact List.mem_flatMap.mpr ⟨other, hother, List.mem_cons_self⟩
  rw [remove_of_split hsplit hnamed hunnamed, List.append_nil]
  rfl

theorem exists_makes_of_draft {registry : Registry σ} {declaration : Declaration σ}
    {start : Draft σ} (hstart : registry.draft declaration.name = .ok start) :
    ∃ command fault, registry.Makes declaration command fault := by
  rcases registry.declare_makes declaration with
    ⟨error, hrefused⟩ | ⟨command, fault, -, hmakes, -, -⟩
  · obtain ⟨accepted, -, hnext, -⟩ := stops_of_declare hstart hrefused
    exact absurd (congrArg commands hnext) (by simp)
  · exact ⟨command, fault, hmakes⟩

/-- **A refused declaration does no damage.** If the name is refused, nothing changes. If a
later step is, the commands that were there stay as they are and in their order, and behind
them stands one without a handler that holds what was accepted before, just as if the
declaration had ended there. Once the name was accepted, however the rest went, removing it
gives back the registry as it was. -/
theorem declare_rollback (registry : Registry σ) (declaration : Declaration σ) :
    (∀ error, registry.draft declaration.name = .error error →
      registry.declare declaration = (registry, some ⟨.name, error⟩)) ∧
    ∀ start, registry.draft declaration.name = .ok start →
      (∀ next fault, registry.declare declaration = (next, some fault) →
        ∃ accepted, declaration.Stops registry accepted fault ∧
          next = { registry with
            commands := registry.commands ++ [.incomplete declaration.name accepted] } ∧
          registry.declare ⟨declaration.name, accepted, none⟩ = (next, none)) ∧
      (registry.declare declaration).1.remove declaration.name = (true, registry) := by
  constructor
  · intro error hrefused
    simp only [declare, hrefused]
  · intro start hstart
    refine ⟨fun next fault => stops_of_declare hstart, ?_⟩
    obtain ⟨command, fault, hmakes⟩ := exists_makes_of_draft hstart
    have hmade := hmakes
    unfold Makes at hmade
    rw [hmade]
    exact hmakes.remove_eq hstart

end Registry

end CommandConsole
