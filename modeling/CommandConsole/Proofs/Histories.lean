import CommandConsole.Proofs.Sessions

/-!
# Where commands come from

Every command of a session was made by one declaration and has stood in the
registry ever since (`Session.Built`). Nothing changes a command once its
declaration is over. So a statement about all commands of all sessions needs no
induction of its own: it follows from what one declaration can make
(`Registry.Makes`).
-/

namespace CommandConsole

variable {σ : Type}

/-! ## What a declaration makes -/

/-- `registry.Makes declaration command fault`: the declaration adds the command to those
that are there and changes nothing else; it ends with the fault, if any. -/
def Registry.Makes (registry : Registry σ) (declaration : Declaration σ) (command : Command σ)
    (fault : Option DeclarationFault) : Prop :=
  registry.declare declaration =
    ({ registry with commands := registry.commands ++ [command] }, fault)

def Registry.blank (registry : Registry σ) (name : String) : Draft σ :=
  ⟨registry.commands, Command.named name, registry.caseRule, registry.precision⟩

theorem Draft.registry_of_steps {registry : Registry σ} {name : String} {draft : Draft σ}
    (h : Relation.ReflTransGen Draft.Step (registry.blank name) draft) :
    draft.registry = { registry with commands := registry.commands ++ [draft.command] } := by
  obtain ⟨hothers, hrule, hprecision, -, -⟩ := Draft.frame_of_steps h
  rw [Draft.registry, hothers, hrule, hprecision]
  rfl

theorem Draft.registry_of_attach {draft next : Draft σ} {handler : Handler σ}
    (h : draft.attach handler = .ok next) :
    next.registry = { draft.registry with commands := draft.others ++ [next.command] } := by
  rcases attach_cases h with ⟨_, -, rfl⟩ | ⟨_, _, -, -, -, rfl⟩ | ⟨_, _, -, -, -, rfl⟩ <;> rfl

/-- A declaration is refused by its name, or it makes a command, in steps that were all
accepted. -/
theorem Registry.declare_makes (registry : Registry σ) (declaration : Declaration σ) :
    (∃ error, registry.declare declaration = (registry, some ⟨.name, error⟩)) ∨
    ∃ command fault draft, registry.Makes declaration command fault ∧
      Relation.ReflTransGen Draft.Step (registry.blank declaration.name) draft ∧
      ((command = draft.command ∧ (fault = none → declaration.handler = none)) ∨
        ∃ handler next, declaration.handler = some handler ∧ draft.attach handler = .ok next ∧
          command = next.command ∧ fault = none) := by
  rcases registry.declare_ends declaration with hrefused | ⟨start, draft, hstart, hsteps, hend⟩
  · exact Or.inl hrefused
  · right
    obtain rfl : start = registry.blank declaration.name := (draft_eq_ok.mp hstart).2
    have hdraft := Draft.registry_of_steps hsteps
    rcases hend with ⟨fault, hend, hfault⟩ | ⟨handler, next, hhandler, hattach, hend⟩
    · rw [hdraft] at hend
      exact ⟨draft.command, fault, draft, hend, hsteps, Or.inl ⟨rfl, hfault⟩⟩
    · have hothers : draft.others = registry.commands := (Draft.frame_of_steps hsteps).1
      rw [Draft.registry_of_attach hattach, hdraft, hothers] at hend
      exact ⟨next.command, none, draft, hend, hsteps,
        Or.inr ⟨handler, next, hhandler, hattach, rfl, rfl⟩⟩

theorem Registry.Makes.steps {registry : Registry σ} {declaration : Declaration σ}
    {command : Command σ} {fault : Option DeclarationFault}
    (h : registry.Makes declaration command fault) :
    ∃ draft, Relation.ReflTransGen Draft.Step (registry.blank declaration.name) draft ∧
      ((command = draft.command ∧ (fault = none → declaration.handler = none)) ∨
        ∃ handler next, declaration.handler = some handler ∧ draft.attach handler = .ok next ∧
          command = next.command ∧ fault = none) := by
  unfold Makes at h
  rcases registry.declare_makes declaration with
    ⟨error, hrefused⟩ | ⟨command', fault', draft, hmakes, hsteps, hend⟩
  · -- A refused name adds no command.
    rw [hrefused] at h
    have hcommands := congrArg Registry.commands (Prod.mk.inj h).1
    exact absurd hcommands (by simp)
  · unfold Makes at hmakes
    obtain ⟨hregistry, rfl⟩ := Prod.mk.inj (hmakes.symm.trans h)
    have hcommands := congrArg Registry.commands hregistry
    obtain rfl : command' = command := by simpa using hcommands
    exact ⟨draft, hsteps, hend⟩

theorem Draft.handler_of_attach {draft next : Draft σ} {handler : Handler σ}
    (h : draft.attach handler = .ok next) : next.command.handler = some handler := by
  rcases attach_cases h with ⟨_, -, rfl⟩ | ⟨_, _, -, -, -, rfl⟩ | ⟨_, _, -, -, -, rfl⟩ <;> rfl

/-- A command has the handler of its declaration if nothing was refused, and none
otherwise. -/
theorem Registry.Makes.handler_eq {registry : Registry σ} {declaration : Declaration σ}
    {command : Command σ} {fault : Option DeclarationFault}
    (h : registry.Makes declaration command fault) :
    command.handler = if fault = none then declaration.handler else none := by
  obtain ⟨draft, hsteps, hend⟩ := h.steps
  have hblank : draft.command.handler = none := (Draft.frame_of_steps hsteps).2.2.2.2
  rcases hend with ⟨rfl, hfault⟩ | ⟨handler, next, hhandler, hattach, rfl, rfl⟩
  · rw [hblank]
    split
    · rename_i hnone
      exact (hfault hnone).symm
    · rfl
  · rw [if_pos rfl, hhandler]
    exact Draft.handler_of_attach hattach

theorem Registry.precision_declare (registry : Registry σ) (declaration : Declaration σ) :
    (registry.declare declaration).1.precision = registry.precision := by
  rcases registry.declare_makes declaration with ⟨error, hrefused⟩ | ⟨_, _, _, hmakes, -, -⟩
  · rw [hrefused]
  · unfold Makes at hmakes
    rw [hmakes]

/-! ## Commands and their declarations -/

namespace Session

theorem run_snoc (session : Session σ) (events : List (Event σ)) (event : Event σ) :
    session.run (events ++ [event]) = (session.run events).step event := by
  unfold run
  rw [List.foldl_append]
  rfl

theorem run_start (settings : Settings) (host : σ) (events : List (Event σ)) :
    ((start settings host).run events).console.registry.Reachable ∧
      ((start settings host).run events).console.parser = settings.parser := by
  have hstart : (start settings host).console.registry.Reachable := .empty _ _
  exact run_console hstart events

theorem run_precision (session : Session σ) (events : List (Event σ)) :
    (session.run events).console.registry.precision = session.console.registry.precision := by
  induction events using List.reverseRecOn with
  | nil => rfl
  | append_singleton events event ih =>
      rw [run_snoc, ← ih]
      cases event with
      | declare declaration => exact Registry.precision_declare _ declaration
      | remove name => rfl
      | clear => rfl
      | execute line => rfl

/-- `session.Built events command declaration fault`: the command is there after the events.
The declaration made it, in one of them, and ended with the fault, if any; and no event
since then took the command away. -/
inductive Built (session : Session σ) :
    List (Event σ) → Command σ → Declaration σ → Option DeclarationFault → Prop where
  | declared {events : List (Event σ)} {declaration : Declaration σ} {command : Command σ}
      {fault : Option DeclarationFault}
      (made : (session.run events).console.registry.Makes declaration command fault) :
      Built session (events ++ [.declare declaration]) command declaration fault
  | kept {events : List (Event σ)} {event : Event σ} {command : Command σ}
      {declaration : Declaration σ} {fault : Option DeclarationFault}
      (built : Built session events command declaration fault)
      (stays : command ∈ (session.run (events ++ [event])).console.registry.commands) :
      Built session (events ++ [event]) command declaration fault

theorem Built.made {session : Session σ} {events : List (Event σ)} {command : Command σ}
    {declaration : Declaration σ} {fault : Option DeclarationFault}
    (h : session.Built events command declaration fault) :
    .declare declaration ∈ events ∧
      ∃ registry : Registry σ, registry.precision = session.console.registry.precision ∧
        registry.Makes declaration command fault := by
  induction h with
  | declared made => exact ⟨by simp, _, session.run_precision _, made⟩
  | kept _ _ ih => exact ⟨List.mem_append_left _ ih.1, ih.2⟩

/-- Every command of a session that began without commands comes from a declaration. -/
theorem exists_built {session : Session σ} (empty : session.console.registry.commands = [])
    {events : List (Event σ)} {command : Command σ}
    (h : command ∈ (session.run events).console.registry.commands) :
    ∃ declaration fault, session.Built events command declaration fault := by
  induction events using List.reverseRecOn with
  | nil =>
      have hmem : command ∈ session.console.registry.commands := h
      rw [empty] at hmem
      exact absurd hmem List.not_mem_nil
  | append_singleton events event ih =>
      by_cases hbefore : command ∈ (session.run events).console.registry.commands
      · obtain ⟨declaration, fault, hbuilt⟩ := ih hbefore
        exact ⟨declaration, fault, .kept hbuilt h⟩
      · -- A command that was not there before has just been declared.
        rw [run_snoc] at h
        cases event with
        | declare declaration =>
            have hmem : command ∈
                ((session.run events).console.registry.declare declaration).1.commands := h
            rcases (session.run events).console.registry.declare_makes declaration with
              ⟨error, hrefused⟩ | ⟨new, fault, _, hmakes, -, -⟩
            · rw [hrefused] at hmem
              exact absurd hmem hbefore
            · have hmade := hmakes
              unfold Registry.Makes at hmade
              rw [hmade, List.mem_append, List.mem_singleton] at hmem
              obtain rfl := hmem.resolve_left hbefore
              exact ⟨declaration, fault, .declared hmakes⟩
        | remove name => exact absurd (List.mem_of_mem_filter h) hbefore
        | clear => exact absurd h List.not_mem_nil
        | execute line => exact absurd h hbefore

end Session

namespace Sample

def say : Declaration String :=
  ⟨"say", [.parameter ⟨⟨.string, false⟩, false⟩, .parameter ⟨⟨.bool, true⟩, true⟩],
    some (.typed [.plain .string, .nullable .bool] fun arguments _ => arguments.1)⟩

def half : Declaration String :=
  ⟨"half", [.parameter ⟨⟨.single, false⟩, true⟩, .parameter ⟨⟨.double, false⟩, true⟩],
    some (.raw fun _ host => host)⟩

def scale : Declaration String :=
  ⟨"scale", [], some (.typed [.plain .single] fun _ host => host)⟩

def events : List (Event String) :=
  [.declare say, .declare half, .declare scale, .execute "say hello"]

def settings : Settings := ⟨⟨.single, true⟩, .sensitive⟩

def session : Session String := (Session.start settings "").run events

theorem signature_cases {declaration : Declaration String} (h : .declare declaration ∈ events)
    {signature : List ParameterType} {run : Arguments signature → String → String}
    (handler : declaration.handler = some (.typed signature run)) :
    signature = [.plain .string, .nullable .bool] ∨ signature = [.plain .single] := by
  simp only [events, List.mem_cons, Event.declare.injEq, reduceCtorEq, List.not_mem_nil,
    or_false] at h
  rcases h with rfl | rfl | rfl
  · cases handler
    exact Or.inl rfl
  · cases handler
  · cases handler
    exact Or.inr rfl

end Sample

end CommandConsole
