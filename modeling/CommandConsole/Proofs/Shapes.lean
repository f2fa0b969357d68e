import CommandConsole.Proofs.Histories

/-!
# The shape of parameters

Parameters come to a command in two ways: declared one by one, or taken over from
its handler. On both ways they stay few, with the optional ones at the end, and
of types that the precision of the console admits (`Command.Shaped`). A handler
is attached last, and only if it takes the declared parameters.

Main result (`Session.parameters_shaped`), for sessions that give no handler more
than `maxParameters` parameters. The limit on declared ones is checked; nothing
checks it where they are taken over.
-/

namespace CommandConsole

variable {σ : Type}

/-! ## The invariant -/

/-- The parameters of a command where numbers are held in `precision`. -/
structure Command.Shaped (precision : Precision) (command : Command σ) : Prop where
  tail : command.parameters.Pairwise fun earlier later =>
    earlier.optional = true → later.optional = true
  allowed : ∀ parameter ∈ command.parameters,
    parameter.spec.type.isAllowed precision = true

theorem Draft.Step.shaped {draft next : Draft σ} (h : Draft.Step draft next)
    (hdraft : draft.command.Shaped draft.precision) : next.command.Shaped next.precision := by
  cases h with
  | «alias» => exact ⟨hdraft.tail, hdraft.allowed⟩
  | help => exact ⟨hdraft.tail, hdraft.allowed⟩
  | @parameter parameter _ allowed order =>
      constructor
      · apply List.pairwise_append.mpr
        refine ⟨hdraft.tail, List.pairwise_singleton _ _, ?_⟩
        intro earlier hearlier later hlater hoptional
        rw [List.mem_singleton.mp hlater]
        rcases order with horder | hrequired
        · exact horder
        · rw [hrequired earlier hearlier] at hoptional
          exact Bool.noConfusion hoptional
      · intro other hother
        rcases List.mem_append.mp hother with hother | hother
        · exact hdraft.allowed other hother
        · rw [List.mem_singleton.mp hother]
          exact allowed

theorem Draft.shaped_of_steps {registry : Registry σ} {name : String} {draft : Draft σ}
    (h : Relation.ReflTransGen Draft.Step (registry.blank name) draft) :
    draft.command.Shaped draft.precision := by
  induction h with
  | refl => exact ⟨List.Pairwise.nil, by simp [Registry.blank, Command.named]⟩
  | tail _ hstep ih => exact hstep.shaped ih

/-- Parameters that are taken over from a handler are all required. -/
theorem Draft.shaped_of_attach {draft next : Draft σ} {handler : Handler σ}
    (h : draft.attach handler = .ok next) (hdraft : draft.command.Shaped draft.precision) :
    next.command.Shaped draft.precision := by
  rcases attach_cases h with
    ⟨_, -, rfl⟩ | ⟨signature, run, -, -, hallowed, rfl⟩ | ⟨_, _, -, -, -, rfl⟩
  · exact ⟨hdraft.tail, hdraft.allowed⟩
  · constructor
    · apply List.pairwise_map.mpr
      apply List.pairwise_of_forall
      intro earlier later hoptional
      exact hoptional
    · intro parameter hparameter
      obtain ⟨type, htype, rfl⟩ := List.mem_map.mp hparameter
      exact hallowed type htype
  · exact ⟨hdraft.tail, hdraft.allowed⟩

theorem Registry.Makes.shaped {registry : Registry σ} {declaration : Declaration σ}
    {command : Command σ} {fault : Option DeclarationFault}
    (h : registry.Makes declaration command fault) : command.Shaped registry.precision := by
  obtain ⟨draft, hsteps, hend⟩ := h.steps
  have hdraft := Draft.shaped_of_steps hsteps
  have hprecision : draft.precision = registry.precision := (Draft.frame_of_steps hsteps).2.2.1
  rw [← hprecision]
  rcases hend with ⟨rfl, -⟩ | ⟨handler, next, -, hattach, rfl, -⟩
  · exact hdraft
  · exact Draft.shaped_of_attach hattach hdraft

def Declaration.Bounded (declaration : Declaration σ) : Prop :=
  ∀ signature run, declaration.handler = some (.typed signature run) →
    signature.length ≤ maxParameters

theorem Draft.few_of_steps {registry : Registry σ} {name : String} {draft : Draft σ}
    (h : Relation.ReflTransGen Draft.Step (registry.blank name) draft) :
    draft.command.parameters.length ≤ maxParameters := by
  induction h with
  | refl => exact Nat.zero_le _
  | @tail draft _ _ hstep ih =>
      cases hstep with
      | «alias» => exact ih
      | help => exact ih
      | @parameter parameter room =>
          show (draft.command.parameters ++ [parameter]).length ≤ maxParameters
          rw [List.length_append, List.length_singleton]
          exact room

theorem Registry.Makes.few {registry : Registry σ} {declaration : Declaration σ}
    {command : Command σ} {fault : Option DeclarationFault}
    (h : registry.Makes declaration command fault) (bounded : declaration.Bounded) :
    command.parameters.length ≤ maxParameters := by
  obtain ⟨draft, hsteps, hend⟩ := h.steps
  have hdraft := Draft.few_of_steps hsteps
  rcases hend with ⟨rfl, -⟩ | ⟨handler, next, hhandler, hattach, rfl, -⟩
  · exact hdraft
  · rcases Draft.attach_cases hattach with
      ⟨_, -, rfl⟩ | ⟨signature, run, rfl, -, -, rfl⟩ | ⟨_, _, -, -, -, rfl⟩
    · exact hdraft
    · -- These parameters were counted by nobody but the handler.
      have htaken := bounded signature run hhandler
      show (signature.map fun type => (⟨type.spec, false⟩ : Parameter)).length ≤ maxParameters
      rwa [List.length_map]
    · exact hdraft

/-- With the optional parameters at the end, the required ones are those in front. -/
theorem Parameter.minArguments_eq_countP {parameters : List Parameter}
    (tail : parameters.Pairwise fun earlier later =>
      earlier.optional = true → later.optional = true) :
    Parameter.minArguments parameters =
      parameters.countP fun parameter => !parameter.optional := by
  unfold minArguments
  induction parameters with
  | nil => rfl
  | cons parameter parameters ih =>
      obtain ⟨hlater, htail⟩ := List.pairwise_cons.mp tail
      by_cases hoptional : parameter.optional = true
      · have hnone : parameters.countP (fun parameter => !parameter.optional) = 0 := by
          apply List.countP_eq_zero.mpr
          intro later hmem
          simp [hlater later hmem hoptional]
        simp [hoptional, hnone]
      · rw [List.takeWhile_cons_of_pos (by simpa using hoptional), List.length_cons,
          List.countP_cons_of_pos (by simpa using hoptional), ih htail]

theorem ValueType.isAllowed_iff {type : ValueType} {precision : Precision} :
    type.isAllowed precision = true ↔ ∀ own ∈ type.precision?, own = precision := by
  cases type <;> simp [isAllowed, precision?]

/-- The shape of a handler with as many types as there are parameters. -/
theorem Handler.kind_typed (signature : List ParameterType) (run : Arguments signature → σ → σ) :
    (Handler.typed signature run).kind =
      if signature.length = 0 then .noArguments else .typed signature.length := by
  cases signature <;> rfl

/-! ## All commands of all sessions -/

theorem Session.shaped_of_mem {settings : Settings} {host : σ} {events : List (Event σ)}
    {command : Command σ}
    (h : command ∈ ((start settings host).run events).console.registry.commands) :
    command.Shaped settings.parser.precision := by
  obtain ⟨declaration, fault, hbuilt⟩ := exists_built rfl h
  obtain ⟨-, registry, hprecision, hmakes⟩ := hbuilt.made
  have hshaped := hmakes.shaped
  rwa [hprecision] at hshaped

/-- **Parameters keep their shape.** In any session whose handlers take at most
`maxParameters` parameters, every command has at most so many; no required parameter
follows an optional one, so the least number of arguments is that of the required ones; the
numbers among the types are those of the console's precision. The command has a handler
exactly if the declaration that made it gives one and no step of it was refused, and a typed
handler takes the declared types in their order. -/
theorem Session.parameters_shaped (settings : Settings) (host : σ) (events : List (Event σ))
    (bounded : ∀ declaration, .declare declaration ∈ events → declaration.Bounded) :
    let session := (start settings host).run events
    ∀ command ∈ session.console.registry.commands,
      command.parameters.length ≤ maxParameters ∧
      (command.parameters.Pairwise fun earlier later =>
        earlier.optional = true → later.optional = true) ∧
      command.minArguments = command.parameters.countP (fun parameter => !parameter.optional) ∧
      (∀ parameter ∈ command.parameters, ∀ precision ∈ parameter.spec.type.precision?,
        precision = session.console.registry.precision) ∧
      (∃ declaration fault, (start settings host).Built events command declaration fault) ∧
      (∀ declaration fault, (start settings host).Built events command declaration fault →
        (command.isComplete = true ↔ declaration.handler.isSome = true ∧ fault = none)) ∧
      ∀ signature run, command.handler = some (.typed signature run) →
        signature.map ParameterType.spec = command.parameters.map Parameter.spec ∧
        command.handlerKind? = some
          (if command.parameters.length = 0 then .noArguments
            else .typed command.parameters.length) := by
  intro session command hcommand
  have hprecision : session.console.registry.precision = settings.parser.precision :=
    run_precision (start settings host) events
  have hshaped := shaped_of_mem hcommand
  obtain ⟨declaration, fault, hbuilt⟩ := exists_built rfl hcommand
  obtain ⟨hdeclared, registry, -, hmakes⟩ := hbuilt.made
  refine ⟨hmakes.few (bounded declaration hdeclared), hshaped.tail,
    Parameter.minArguments_eq_countP hshaped.tail, ?_, ⟨declaration, fault, hbuilt⟩, ?_, ?_⟩
  · intro parameter hparameter
    rw [hprecision]
    exact ValueType.isAllowed_iff.mp (hshaped.allowed parameter hparameter)
  · intro declaration fault hbuilt
    obtain ⟨-, registry, -, hmakes⟩ := hbuilt.made
    rw [Command.isComplete, hmakes.handler_eq]
    by_cases hfault : fault = none
    · simp [hfault]
    · simp [hfault]
  · intro signature run hhandler
    have hreach := (run_start settings host events).1
    have hagreed := hreach.agreed command hcommand signature run hhandler
    refine ⟨hagreed, ?_⟩
    have hlength : signature.length = command.parameters.length := by
      simpa using congrArg List.length hagreed
    rw [Command.handlerKind?, hhandler, Option.map_some, Handler.kind_typed, hlength]

theorem Session.parameters_shaped_sample :
    ∃ say half scale, Sample.session.console.registry.commands = [say, half, scale] ∧
      say.minArguments = say.parameters.countP (fun parameter => !parameter.optional) ∧
      half.isComplete = false ∧
      scale.handlerKind? = some (.typed scale.parameters.length) := by
  have hshaped := parameters_shaped Sample.settings "" Sample.events (by
    intro declaration hdeclaration signature run handler
    rcases Sample.signature_cases hdeclaration handler with rfl | rfl
    · decide
    · decide)
  refine ⟨_, _, _, rfl, ?_, ?_, ?_⟩
  · obtain ⟨-, -, hmin, -⟩ := hshaped _ (by exact .head _)
    exact hmin
  · obtain ⟨-, -, -, -, -, hcomplete, -⟩ := hshaped _ (by exact .tail _ (.head _))
    have hmade : (start Sample.settings "").Built
        ([.declare Sample.say] ++ [.declare Sample.half]) _ _ _ := .declared rfl
    have hkept : (start Sample.settings "").Built
        ([.declare Sample.say, .declare Sample.half] ++ [.declare Sample.scale]) _ _ _ :=
      .kept hmade (by exact .tail _ (.head _))
    have hbuilt := hcomplete _ _ (.kept hkept (by exact .tail _ (.head _)))
    simpa using hbuilt
  · obtain ⟨-, -, -, -, -, -, htyped⟩ := hshaped _ (by exact .tail _ (.tail _ (.head _)))
    exact (htyped _ _ rfl).2

end CommandConsole
