import CommandConsole.Proofs.Histories
import CommandConsole.Proofs.Parsing
import CommandConsole.Proofs.Shapes

/-!
# Typed commands

An argument is tested twice: against the declared type of its parameter when it is
put into a slot, and by the conversion of the handler's own type when the slots
become arguments. For the types of the console the second test can refuse nothing
that the first has accepted (`Session.dispatch_binds`).

The first test compares kinds of numbers, too. But a console reads its numbers and
declares its types in one precision, so only the categories can differ
(`Session.execute_categories`).
-/

namespace CommandConsole

variable {σ : Type}

/-- A type of the console, plain or nullable, and none that the host adds. -/
def ParameterType.BuiltIn (type : ParameterType) : Prop := ∃ spec, type = .ofSpec spec

def Declaration.BuiltIn (declaration : Declaration σ) : Prop :=
  ∀ signature run, declaration.handler = some (.typed signature run) →
    ∀ type ∈ signature, type.BuiltIn

theorem ValueType.isSome_convert? (type : ValueType) (value : Value) :
    (type.convert? value).isSome = type.accepts value := by
  apply Bool.eq_iff_iff.mpr
  rw [Option.isSome_iff_exists, accepts_iff]
  exact exists_congr fun x => denotes_iff.symm

namespace ParameterType

/-- A value that is there converts exactly if the declared type accepts it. -/
theorem BuiltIn.isSome_convert {type : ParameterType} (h : type.BuiltIn) (value : Value) :
    (type.convert (some value)).isSome = type.spec.type.accepts value := by
  obtain ⟨⟨valueType, nullable⟩, rfl⟩ := h
  cases nullable with
  | false => exact valueType.isSome_convert? value
  | true =>
      show ((valueType.convert? value).map some).isSome = valueType.accepts value
      rw [Option.isSome_map, valueType.isSome_convert?]

theorem BuiltIn.isSome_convert_none {type : ParameterType} (h : type.BuiltIn) :
    (type.convert none).isSome = true := by
  obtain ⟨⟨valueType, nullable⟩, rfl⟩ := h
  cases nullable <;> rfl

end ParameterType

/-! ## The conversion succeeds -/

theorem Arguments.exists_ofSlots {signature : List ParameterType} {index : Nat}
    {slots : List (Option Value)}
    (h : ∀ i : Fin signature.length,
      ((signature.get i).convert slots[i.val]?.join).isSome = true) :
    ∃ arguments, Arguments.ofSlots index signature slots = .ok arguments := by
  induction signature generalizing index slots with
  | nil => exact ⟨(), rfl⟩
  | cons type signature ih =>
      have hfirst : (type.convert slots.head?.join).isSome = true := by
        rw [List.head?_eq_getElem?]
        exact h 0
      have hrest : ∀ i : Fin signature.length,
          ((signature.get i).convert slots.tail[i.val]?.join).isSome = true := by
        intro i
        rw [List.getElem?_tail]
        exact h i.succ
      obtain ⟨argument, hargument⟩ := Option.isSome_iff_exists.mp hfirst
      obtain ⟨arguments, harguments⟩ :
          ∃ arguments, ofSlots (index + 1) signature slots.tail = .ok arguments := ih hrest
      refine ⟨(argument, arguments), ?_⟩
      simp only [ofSlots, hargument, harguments]

/-- Slots that were bound convert to arguments of a handler that takes the declared
parameters. -/
theorem exists_arguments_of_bindSlots {command : String} {parameters : List Parameter}
    {arguments : List Value} {slots : List (Option Value)} {signature : List ParameterType}
    (builtIn : ∀ type ∈ signature, type.BuiltIn)
    (declared : signature.map ParameterType.spec = parameters.map Parameter.spec)
    (h : bindSlots command parameters arguments = .ok slots) :
    ∃ converted, Arguments.ofSlots 0 signature slots = .ok converted := by
  obtain ⟨-, hfew, haccepted, rfl⟩ := bindSlots_eq_ok.mp h
  apply Arguments.exists_ofSlots
  intro i
  have htype : (signature.get i).BuiltIn := builtIn _ (List.get_mem signature i)
  rw [slot_eq_given? hfew]
  cases hgiven : given? arguments i with
  | none => exact htype.isSome_convert_none
  | some value =>
      rw [htype.isSome_convert]
      exact (Command.accepted_iff declared).mp haccepted i value hgiven

/-- A line calls a command with such a handler, or gives the error of binding the slots. -/
theorem Command.invocation_typed {command : Command σ} {signature : List ParameterType}
    {run : Arguments signature → σ → σ} (handler : command.handler = some (.typed signature run))
    (agreed : command.Agreed) (builtIn : ∀ type ∈ signature, type.BuiltIn) (line : CommandLine) :
    (∀ error, bindSlots command.name command.parameters line.arguments = .error error →
      command.invocation line = .error error) ∧
    ∀ slots, bindSlots command.name command.parameters line.arguments = .ok slots →
      ∃ arguments, Arguments.ofSlots 0 signature slots = .ok arguments ∧
        command.invocation line = .ok (.typed signature run arguments) := by
  unfold Command.invocation
  simp only [handler]
  constructor
  · intro error hbound
    simp only [hbound]
  · intro slots hbound
    obtain ⟨arguments, harguments⟩ :=
      exists_arguments_of_bindSlots builtIn (agreed signature run handler) hbound
    refine ⟨arguments, harguments, ?_⟩
    simp only [hbound, Handler.invocation, harguments]
    rfl

/-- Whether a typed command is called is settled by binding the slots. -/
theorem Registry.dispatch_typed {registry : Registry σ} {line : CommandLine}
    {command : Command σ} (named : registry.find? line.command = some command)
    {signature : List ParameterType} {run : Arguments signature → σ → σ}
    (handler : command.handler = some (.typed signature run)) (agreed : command.Agreed)
    (builtIn : ∀ type ∈ signature, type.BuiltIn) (host : σ) :
    (registry.dispatch line host).1 =
      (bindSlots command.name command.parameters line.arguments).map fun _ => () := by
  obtain ⟨hrefused, hcalled⟩ := Command.invocation_typed handler agreed builtIn line
  rw [dispatch, resolve_of_find? named]
  cases hbound : bindSlots command.name command.parameters line.arguments with
  | error error =>
      rw [hrefused error hbound]
      rfl
  | ok slots =>
      obtain ⟨arguments, -, hcall⟩ := hcalled slots hbound
      rw [hcall]
      rfl

namespace Session

theorem builtIn_of_mem {settings : Settings} {host : σ} {events : List (Event σ)}
    (builtIn : ∀ declaration, .declare declaration ∈ events → declaration.BuiltIn)
    {command : Command σ}
    (h : command ∈ ((start settings host).run events).console.registry.commands)
    {signature : List ParameterType} {run : Arguments signature → σ → σ}
    (handler : command.handler = some (.typed signature run)) :
    ∀ type ∈ signature, type.BuiltIn := by
  obtain ⟨declaration, fault, hbuilt⟩ := exists_built rfl h
  obtain ⟨hdeclared, registry, -, hmakes⟩ := hbuilt.made
  rw [hmakes.handler_eq] at handler
  split at handler
  · exact builtIn declaration hdeclared signature run handler
  · exact absurd handler (by simp)

theorem typed_of_find? {settings : Settings} {host : σ} {events : List (Event σ)}
    (builtIn : ∀ declaration, .declare declaration ∈ events → declaration.BuiltIn)
    {name : String} {command : Command σ}
    (named : ((start settings host).run events).console.registry.find? name = some command)
    {signature : List ParameterType} {run : Arguments signature → σ → σ}
    (handler : command.handler = some (.typed signature run)) :
    command.Agreed ∧ (∀ type ∈ signature, type.BuiltIn) := by
  have hreach := (run_start settings host events).1
  have hmem := (hreach.distinct.find?_eq_some.mp named).1
  exact ⟨hreach.agreed command hmem, builtIn_of_mem builtIn hmem handler⟩

/-- **The two tests of an argument agree.** In any session whose typed handlers take types
of the console only, a line that names a typed command is dispatched with success exactly
if its arguments bind to the declared parameters, and otherwise with the error of binding
them. What was bound always converts, so the handler is called with it: its types are the
declared ones, and each of them converts the values that it accepts and no other. -/
theorem dispatch_binds (settings : Settings) (host : σ) (events : List (Event σ))
    (builtIn : ∀ declaration, .declare declaration ∈ events → declaration.BuiltIn) :
    let registry := ((start settings host).run events).console.registry
    ∀ (line : CommandLine) (command : Command σ) (signature : List ParameterType)
      (run : Arguments signature → σ → σ) (now : σ),
      registry.find? line.command = some command →
      command.handler = some (.typed signature run) →
      let bound := bindSlots command.name command.parameters line.arguments
      (registry.dispatch line now).1 = bound.map (fun _ => ()) ∧
      (∀ slots, bound = .ok slots →
        ∃ arguments, Arguments.ofSlots 0 signature slots = .ok arguments ∧
          (registry.dispatch line now).2 = run arguments now) ∧
      signature.map ParameterType.spec = command.parameters.map Parameter.spec ∧
      ∀ type ∈ signature, ∀ value,
        type.spec.type.accepts value = (type.convert (some value)).isSome := by
  intro registry line command signature run now named handler bound
  obtain ⟨hagreed, hbuiltIn⟩ := typed_of_find? builtIn named handler
  refine ⟨Registry.dispatch_typed named handler hagreed hbuiltIn now, ?_,
    hagreed signature run handler, ?_⟩
  · intro slots hbound
    obtain ⟨arguments, harguments, hcall⟩ :=
      (Command.invocation_typed handler hagreed hbuiltIn line).2 slots hbound
    refine ⟨arguments, harguments, ?_⟩
    rw [Registry.dispatch, Registry.resolve_of_find? named, hcall]
    rfl
  · intro type htype value
    exact ((hbuiltIn type htype).isSome_convert value).symm

theorem builtIn_sample : ∀ declaration, .declare declaration ∈ Sample.events → declaration.BuiltIn := by
  intro declaration hdeclaration signature run handler type htype
  rcases Sample.signature_cases hdeclaration handler with rfl | rfl
  · rcases List.mem_pair.mp htype with rfl | rfl
    · exact ⟨⟨.string, false⟩, rfl⟩
    · exact ⟨⟨.bool, true⟩, rfl⟩
  · obtain rfl := List.mem_singleton.mp htype
    exact ⟨⟨.single, false⟩, rfl⟩

theorem dispatch_binds_sample :
    Sample.session.console.registry.dispatch ⟨"say", [.identifier "bob", .null]⟩ "" = (.ok (), "bob") ∧
    (Sample.session.console.registry.dispatch ⟨"say", [.bool true]⟩ "").1 =
      .error (.typeMismatch "say" 0 .string .bool) := by
  have hbinds := dispatch_binds Sample.settings "" Sample.events builtIn_sample
  constructor
  · obtain ⟨houtcome, hcall, -⟩ :=
      hbinds ⟨"say", [.identifier "bob", .null]⟩ _ _ _ "" rfl rfl
    obtain ⟨arguments, harguments, hhost⟩ := hcall _ rfl
    cases harguments
    exact Prod.ext houtcome hhost
  · exact (hbinds ⟨"say", [.bool true]⟩ _ _ _ "" rfl rfl).1

end Session

/-! ## Only categories can differ -/

theorem ValueType.accepts_number (type : ValueType) (number : Number) :
    type.accepts (.number number) = true ↔ type.precision? = some number.precision := by
  cases type <;> cases number <;> simp [accepts, precision?, Number.precision]

theorem ValueType.accepts_iff_category {type : ValueType} {value : Value}
    {precision : Precision} (allowed : type.isAllowed precision = true)
    (precise : value.Precise precision) :
    type.accepts value = true ↔ value.category = type.category := by
  cases value with
  | string | bool | null | identifier => cases type <;> simp [accepts, category, Value.category]
  | number number =>
      have hnumber : number.precision = precision := precise number rfl
      rw [accepts_number, hnumber]
      cases type with
      | string | bool => simp [precision?, category, Value.category]
      | single | double | decimal =>
          have htype := isAllowed_iff.mp allowed _ rfl
          simp [precision?, htype, category, Value.category]

/-- Argument number `i` is of the category of its parameter, if it is there and not null. -/
def Fits (parameters : List Parameter) (arguments : List Value) (i : Nat) : Prop :=
  ∀ parameter value, parameters[i]? = some parameter → given? arguments i = some value →
    value.category = parameter.spec.type.category

theorem mem_of_given? {arguments : List Value} {i : Nat} {value : Value}
    (h : given? arguments i = some value) : value ∈ arguments :=
  List.mem_of_getElem? (Option.filter_eq_some_iff.mp h).1

theorem fits_iff {parameters : List Parameter} {arguments : List Value}
    {precision : Precision}
    (allowed : ∀ parameter ∈ parameters, parameter.spec.type.isAllowed precision = true)
    (precise : ∀ value ∈ arguments, value.Precise precision) (i : Nat) :
    Fits parameters arguments i ↔
      ∀ parameter, parameters[i]? = some parameter → ∀ value ∈ given? arguments i,
        parameter.spec.type.accepts value = true := by
  constructor
  · intro hfits parameter hparameter value hvalue
    apply (ValueType.accepts_iff_category (allowed _ (List.mem_of_getElem? hparameter))
      (precise _ (mem_of_given? hvalue))).mpr
    exact hfits parameter value hparameter hvalue
  · intro haccepted parameter value hparameter hvalue
    apply (ValueType.accepts_iff_category (allowed _ (List.mem_of_getElem? hparameter))
      (precise _ (mem_of_given? hvalue))).mp
    exact haccepted parameter hparameter value hvalue

theorem FirstRefused.misfit {parameters : List Parameter} {arguments : List Value}
    {precision : Precision} {i : Nat} {parameter : Parameter} {value : Value}
    (h : FirstRefused parameters arguments i parameter value)
    (allowed : ∀ parameter ∈ parameters, parameter.spec.type.isAllowed precision = true)
    (precise : ∀ value ∈ arguments, value.Precise precision) :
    value.category ≠ parameter.spec.type.category ∧ ∀ j < i, Fits parameters arguments j := by
  constructor
  · intro hsame
    have hallowed := allowed parameter (List.mem_of_getElem? h.declared)
    have hprecise := precise value (mem_of_given? h.given)
    have haccepted := (ValueType.accepts_iff_category hallowed hprecise).mpr hsame
    rw [h.refused] at haccepted
    exact Bool.noConfusion haccepted
  · intro j hj
    exact (fits_iff allowed precise j).mpr (h.before j hj)

/-- With neither too few nor too many arguments, either all of them fit and are bound, or
binding fails at the first that does not fit. -/
theorem bindSlots_of_counts {command : String} {parameters : List Parameter}
    {arguments : List Value} {precision : Precision}
    (enough : Parameter.minArguments parameters ≤ arguments.length)
    (few : arguments.length ≤ parameters.length)
    (allowed : ∀ parameter ∈ parameters, parameter.spec.type.isAllowed precision = true)
    (precise : ∀ value ∈ arguments, value.Precise precision) :
    ((∀ i, Fits parameters arguments i) ∧
      ∃ slots, bindSlots command parameters arguments = .ok slots) ∨
    ∃ i parameter value, FirstRefused parameters arguments i parameter value ∧
      bindSlots command parameters arguments = .error
        (.typeMismatch command i parameter.spec.type.category value.category) := by
  rcases bindSlots_counted command enough few with ⟨slots, hbound⟩ | hfirst
  · obtain ⟨-, -, haccepted, -⟩ := bindSlots_eq_ok.mp hbound
    left
    refine ⟨?_, slots, hbound⟩
    intro i
    exact (fits_iff allowed precise i).mpr (haccepted i)
  · exact Or.inr hfirst

/-! ## Executing lines -/

theorem Console.execute_of_parse {console : Console σ} {line : String} {parsed : CommandLine}
    (h : console.parse line = .ok parsed) (host : σ) :
    (console.execute line host).1 =
      (console.registry.dispatch parsed host).1.mapError .dispatch := by
  simp only [execute, h]
  cases console.registry.dispatch parsed host with
  | mk outcome after => cases outcome <;> rfl

theorem Registry.typed_of_mismatch {registry : Registry σ} {line : CommandLine} {host : σ}
    {name : String} {index : Nat} {expected supplied : Category}
    (h : (registry.dispatch line host).1 = .error (.typeMismatch name index expected supplied)) :
    ∃ command signature run, registry.find? line.command = some command ∧
      command.handler = some (.typed signature run) := by
  cases hfind : registry.find? line.command with
  | none =>
      rw [find?_eq_position?] at hfind
      simp [dispatch, resolve, hfind] at h
  | some command =>
      rw [dispatch, resolve_of_find? hfind] at h
      cases hhandler : command.handler with
      | none => simp [Command.invocation, hhandler] at h
      | some handler =>
          cases handler with
          | raw run => simp [Command.invocation, hhandler] at h
          | typed signature run => exact ⟨command, signature, run, rfl, hhandler⟩

namespace Session

/-- What a session says of the numbers of a command and of a line. -/
theorem coherent {settings : Settings} {host : σ} {events : List (Event σ)} {line : String}
    {parsed : CommandLine} {command : Command σ}
    (parse : ((start settings host).run events).console.parse line = .ok parsed)
    (named : ((start settings host).run events).console.registry.find? parsed.command =
      some command) :
    (∀ parameter ∈ command.parameters,
      parameter.spec.type.isAllowed settings.parser.precision = true) ∧
    ∀ value ∈ parsed.arguments, value.Precise settings.parser.precision := by
  obtain ⟨hreach, hparser⟩ := run_start settings host events
  constructor
  · have hmem := (hreach.distinct.find?_eq_some.mp named).1
    exact (shaped_of_mem hmem).allowed
  · have hprecise := CommandLine.precise_of_parse parse
    rw [hparser] at hprecise
    exact hprecise

/-- A line that is refused for an argument is refused for its category. -/
theorem categories_of_mismatch {settings : Settings} {host : σ} {events : List (Event σ)}
    (builtIn : ∀ declaration, .declare declaration ∈ events → declaration.BuiltIn)
    {line : String} {now : σ} {name : String} {index : Nat} {expected supplied : Category}
    (h : (((start settings host).run events).console.execute line now).1 =
      .error (.dispatch (.typeMismatch name index expected supplied))) :
    supplied ≠ expected := by
  let console := ((start settings host).run events).console
  cases hparse : console.parse line with
  | error error => simp [Console.execute, console, hparse] at h
  | ok parsed =>
      rw [Console.execute_of_parse hparse] at h
      have hdispatch : (console.registry.dispatch parsed now).1 =
          .error (.typeMismatch name index expected supplied) := by
        cases hresult : (console.registry.dispatch parsed now).1 with
        | ok _ => simp [console, hresult, Except.mapError] at h
        | error error => simpa [console, hresult, Except.mapError] using h
      obtain ⟨command, signature, run, hnamed, hhandler⟩ := Registry.typed_of_mismatch hdispatch
      obtain ⟨hagreed, hbuiltIn⟩ := typed_of_find? builtIn hnamed hhandler
      obtain ⟨hallowed, hprecise⟩ := coherent hparse hnamed
      rw [Registry.dispatch_typed hnamed hhandler hagreed hbuiltIn, map_eq_error] at hdispatch
      rcases bindSlots_error_cases hdispatch with
        ⟨-, heq⟩ | ⟨-, -, heq⟩ | ⟨-, -, i, parameter, value, hrefused, heq⟩
      · exact absurd heq (by simp)
      · exact absurd heq (by simp)
      · obtain ⟨-, -, rfl, rfl⟩ := DispatchError.typeMismatch.inj heq
        exact (hrefused.misfit hallowed hprecise).1

/-- **Only a difference of categories is refused.** In any session whose typed handlers
take types of the console only, executing a line that names a typed command with neither
too few nor too many arguments succeeds exactly if every argument that is not null is of
the category of its parameter, and otherwise fails at the first one that is not. In
particular no line is refused for an argument of the right category. -/
theorem execute_categories (settings : Settings) (host : σ) (events : List (Event σ))
    (builtIn : ∀ declaration, .declare declaration ∈ events → declaration.BuiltIn) :
    let session := (start settings host).run events
    (∀ (line : String) (parsed : CommandLine) (command : Command σ)
      (signature : List ParameterType) (run : Arguments signature → σ → σ),
      session.console.parse line = .ok parsed →
      session.console.registry.find? parsed.command = some command →
      command.handler = some (.typed signature run) →
      command.minArguments ≤ parsed.arguments.length →
      parsed.arguments.length ≤ command.maxArguments →
      let outcome := (session.console.execute line session.host).1
      (outcome = .ok () ↔ ∀ i, Fits command.parameters parsed.arguments i) ∧
      ((¬ ∀ i, Fits command.parameters parsed.arguments i) →
        ∃ i parameter value, command.parameters[i]? = some parameter ∧
          given? parsed.arguments i = some value ∧
          value.category ≠ parameter.spec.type.category ∧
          (∀ j < i, Fits command.parameters parsed.arguments j) ∧
          outcome = .error (.dispatch (.typeMismatch command.name i
            parameter.spec.type.category value.category)))) ∧
    ∀ (line : String) (name : String) (index : Nat) (expected supplied : Category),
      (session.console.execute line session.host).1 =
        .error (.dispatch (.typeMismatch name index expected supplied)) →
      supplied ≠ expected := by
  intro session
  refine ⟨?_, fun line name index expected supplied => categories_of_mismatch builtIn⟩
  intro line parsed command signature run hparse hnamed hhandler henough hfew outcome
  obtain ⟨hagreed, hbuiltIn⟩ := typed_of_find? builtIn hnamed hhandler
  obtain ⟨hallowed, hprecise⟩ := coherent hparse hnamed
  have houtcome : outcome = ((bindSlots command.name command.parameters
      parsed.arguments).map fun _ => ()).mapError .dispatch := by
    rw [← Registry.dispatch_typed hnamed hhandler hagreed hbuiltIn session.host]
    exact Console.execute_of_parse hparse session.host
  rcases bindSlots_of_counts henough hfew hallowed hprecise with
    ⟨hall, slots, hbound⟩ | ⟨i, parameter, value, hrefused, hbound⟩
  · rw [hbound] at houtcome
    exact ⟨iff_of_true houtcome hall, fun hnot => absurd hall hnot⟩
  · rw [hbound] at houtcome
    obtain ⟨hmisfit, hbefore⟩ := hrefused.misfit hallowed hprecise
    have hnot : ¬ ∀ i, Fits command.parameters parsed.arguments i := by
      intro hall
      exact hmisfit (hall i parameter value hrefused.declared hrefused.given)
    have hfails : outcome ≠ .ok () := by
      rw [houtcome]
      simp [Except.map, Except.mapError]
    refine ⟨iff_of_false hfails hnot, ?_⟩
    intro _
    exact ⟨i, parameter, value, hrefused.declared, hrefused.given, hmisfit, hbefore, houtcome⟩

theorem execute_categories_sample :
    (Sample.session.console.execute "scale 2.50" Sample.session.host).1 = .ok () ∧
    (Sample.session.console.execute "say hi 1" Sample.session.host).1 =
      .error (.dispatch (.typeMismatch "say" 1 .bool .number)) := by
  obtain ⟨hexecute, -⟩ := execute_categories Sample.settings "" Sample.events builtIn_sample
  constructor
  · have hscale := hexecute "scale 2.50"
      ⟨"scale", [.number (.single ⟨false, 0x40200000, by decide⟩)]⟩ _ _ _
      (by decide +kernel) rfl rfl (by decide) (by decide)
    apply hscale.1.mpr
    intro i parameter value hparameter hvalue
    obtain rfl : i = 0 := Nat.lt_one_iff.mp (List.getElem?_eq_some_iff.mp hparameter).1
    cases hparameter
    cases hvalue
    rfl
  · have hsay := hexecute "say hi 1"
      ⟨"say", [.identifier "hi", .number (.single ⟨false, 0x3f800000, by decide⟩)]⟩ _ _ _
      (by decide +kernel) rfl rfl (by decide) (by decide)
    obtain ⟨i, parameter, value, hparameter, hvalue, hmisfit, -, houtcome⟩ := hsay.2 (by
      intro hfits
      exact absurd (hfits 1 _ _ rfl rfl) (by decide))
    have hi : i < 2 := (List.getElem?_eq_some_iff.mp hparameter).1
    match i with
    | 0 =>
        cases hparameter
        cases hvalue
        exact absurd rfl hmisfit
    | 1 =>
        cases hparameter
        cases hvalue
        exact houtcome

end Session

end CommandConsole
