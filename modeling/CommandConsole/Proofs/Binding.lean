import CommandConsole.Dispatch
import CommandConsole.Proofs.Declarations
import CommandConsole.Proofs.Results

/-!
# Binding arguments

What a typed handler receives, told without slots. A slot holds the argument
with its number unless that is missing or null (`given?`); what the handler
receives for it is the argument itself or a default, and for a type that the
host adds whatever its own conversion says (`ParameterType.Receives`).

`Command.Runs` puts this together to what a line does, and
`Command.invocation_eq_ok` says that dispatching does just this, provided the
handler agrees with the declared parameters. It always does
(`Registry.Reachable.agreed`).
-/

namespace CommandConsole

variable {σ : Type}

/-- Argument number `i`, unless it is missing or null. -/
def given? (arguments : List Value) (i : Nat) : Option Value :=
  arguments[i]?.filter (· ≠ .null)

/-! ## Values and types -/

/-- The values of a type, and what they are for a handler. A bare word is a string. -/
inductive ValueType.Denotes : (type : ValueType) → Value → type.Carrier → Prop where
  | string (text : String) : Denotes .string (.string text) text
  | word (text : String) : Denotes .string (.identifier text) text
  | bool (value : Bool) : Denotes .bool (.bool value) value
  | single (value : Binary .single) : Denotes .single (.number (.single value)) value
  | double (value : Binary .double) : Denotes .double (.number (.double value)) value
  | decimal (value : Decimal) : Denotes .decimal (.number (.decimal value)) value

theorem ValueType.denotes_iff {type : ValueType} {value : Value} {x : type.Carrier} :
    type.Denotes value x ↔ type.convert? value = some x := by
  constructor
  · intro h
    cases h <;> rfl
  · intro h
    unfold convert? at h
    split at h
    · exact Option.some.inj h ▸ .string _
    · exact Option.some.inj h ▸ .word _
    · exact Option.some.inj h ▸ .bool _
    · exact Option.some.inj h ▸ .single _
    · exact Option.some.inj h ▸ .double _
    · exact Option.some.inj h ▸ .decimal _
    · exact absurd h (by simp)

theorem ValueType.accepts_iff {type : ValueType} {value : Value} :
    type.accepts value = true ↔ ∃ x, type.Denotes value x := by
  constructor
  · intro h
    unfold accepts at h
    split at h
    · exact ⟨_, .string _⟩
    · exact ⟨_, .word _⟩
    · exact ⟨_, .bool _⟩
    · exact ⟨_, .single _⟩
    · exact ⟨_, .double _⟩
    · exact ⟨_, .decimal _⟩
    · exact Bool.noConfusion h
  · rintro ⟨x, h⟩
    cases h <;> rfl

/-! ## Arguments of a handler -/

/-- What a handler receives for a parameter of this type, given the argument, or
`none` for one that is missing or null. -/
inductive ParameterType.Receives : (type : ParameterType) → Option Value → type.Carrier → Prop where
  | plain {type : ValueType} {value : Value} {x : type.Carrier} (h : type.Denotes value x) :
      Receives (.plain type) (some value) x
  | plainDefault (type : ValueType) : Receives (.plain type) none type.default
  | nullable {type : ValueType} {value : Value} {x : type.Carrier} (h : type.Denotes value x) :
      Receives (.nullable type) (some value) (some x)
  | nullableDefault (type : ValueType) : Receives (.nullable type) none none
  | host {type : ParameterType} {given : Option Value} {x : type.Carrier}
      (own : ∀ spec, type ≠ .ofSpec spec) (h : type.convert given = some x) :
      Receives type given x

theorem ParameterType.receives_iff {type : ParameterType} {given : Option Value}
    {x : type.Carrier} : type.Receives given x ↔ type.convert given = some x := by
  constructor
  · intro h
    cases h with
    | plain h => exact ValueType.denotes_iff.mp h
    | plainDefault => rfl
    | nullable h =>
        simp only [nullable, ValueType.denotes_iff.mp h]
        rfl
    | nullableDefault => rfl
    | host _ h => exact h
  · intro h
    by_cases hown : ∃ spec, type = .ofSpec spec
    · obtain ⟨⟨valueType, isNullable⟩, rfl⟩ := hown
      cases isNullable with
      | false =>
          cases given with
          | none => exact Option.some.inj h ▸ .plainDefault valueType
          | some value => exact .plain (ValueType.denotes_iff.mpr h)
      | true =>
          cases given with
          | none => exact Option.some.inj h ▸ .nullableDefault valueType
          | some value =>
              obtain ⟨y, hy, heq⟩ := Option.map_eq_some_iff.mp h
              exact heq ▸ .nullable (ValueType.denotes_iff.mpr hy)
    · exact .host (fun spec hspec => hown ⟨spec, hspec⟩) h

def Arguments.get : {signature : List ParameterType} → Arguments signature →
    (i : Fin signature.length) → (signature.get i).Carrier
  | _ :: _, (argument, _), ⟨0, _⟩ => argument
  | _ :: _, (_, arguments), ⟨i + 1, h⟩ => get arguments ⟨i, Nat.lt_of_succ_lt_succ h⟩

theorem Arguments.ofSlots_eq_ok {signature : List ParameterType} {index : Nat}
    {slots : List (Option Value)} {arguments : Arguments signature} :
    Arguments.ofSlots index signature slots = .ok arguments ↔
      ∀ i : Fin signature.length,
        (signature.get i).convert slots[i.val]?.join = some (arguments.get i) := by
  induction signature generalizing index slots with
  | nil => exact ⟨fun _ i => i.elim0, fun _ => rfl⟩
  | cons type signature ih =>
      obtain ⟨argument, arguments⟩ := arguments
      have hhead : slots.head? = slots[0]? := List.head?_eq_getElem?
      have hrest : ofSlots (index + 1) signature slots.tail = .ok arguments ↔
          ∀ i : Fin signature.length,
            (signature.get i).convert slots[i.val + 1]?.join = some (arguments.get i) := by
        simp only [ih, List.getElem?_tail]
      simp only [ofSlots, hhead]
      constructor
      · intro h
        split at h
        · exact absurd h (by simp)
        · rename_i first hfirst
          split at h
          · exact absurd h (by simp)
          · rename_i others hothers
            obtain ⟨rfl, rfl⟩ := Prod.mk.inj (Except.ok.inj h)
            intro i
            cases i using Fin.cases with
            | zero => exact hfirst
            | succ i => exact hrest.mp hothers i
      · intro h
        have hfirst : type.convert slots[0]?.join = some argument := h 0
        simp only [hfirst, hrest.mpr fun i => h i.succ]

/-! ## Slots -/

theorem given?_tail (arguments : List Value) (i : Nat) :
    given? arguments.tail i = given? arguments (i + 1) := by
  rw [given?, given?, List.getElem?_tail]

theorem given?_length {arguments : List Value} {i : Nat} (h : arguments.length ≤ i) :
    given? arguments i = none := by
  rw [given?, List.getElem?_eq_none h]
  rfl

theorem slotsFrom_cons (command : String) (index : Nat) (parameter : Parameter)
    (parameters : List Parameter) (arguments : List Value) :
    slotsFrom command index (parameter :: parameters) arguments =
      match given? arguments 0 with
      | none => (slotsFrom command (index + 1) parameters arguments.tail).map (none :: ·)
      | some value =>
          if parameter.spec.type.accepts value = true then
            (slotsFrom command (index + 1) parameters arguments.tail).map (some value :: ·)
          else .error
            (.typeMismatch command index parameter.spec.type.category value.category) := by
  cases arguments with
  | nil => rfl
  | cons value arguments => cases value <;> rfl

/-- Slots are bound exactly if every argument that is there is accepted, and then each
slot holds the argument with its number. -/
theorem slotsFrom_eq_ok {command : String} {index : Nat} {parameters : List Parameter}
    {arguments : List Value} {slots : List (Option Value)} :
    slotsFrom command index parameters arguments = .ok slots ↔
      slots = (List.range parameters.length).map (given? arguments) ∧
      ∀ i parameter, parameters[i]? = some parameter → ∀ value ∈ given? arguments i,
        parameter.spec.type.accepts value = true := by
  induction parameters generalizing index arguments slots with
  | nil =>
      rw [slotsFrom]
      constructor
      · intro h
        exact ⟨(Except.ok.inj h).symm, by simp⟩
      · rintro ⟨rfl, -⟩
        rfl
  | cons parameter parameters ih =>
      have hslots : (List.range (parameter :: parameters).length).map (given? arguments) =
          given? arguments 0 ::
            (List.range parameters.length).map (given? arguments.tail) := by
        rw [List.length_cons, List.range_succ_eq_map, List.map_cons, List.map_map]
        exact congrArg _ (List.map_congr_left fun i _ => (given?_tail arguments i).symm)
      have haccepted : (∀ i p, (parameter :: parameters)[i]? = some p →
            ∀ value ∈ given? arguments i, p.spec.type.accepts value = true) ↔
          (∀ value ∈ given? arguments 0, parameter.spec.type.accepts value = true) ∧
          ∀ i p, parameters[i]? = some p →
            ∀ value ∈ given? arguments.tail i, p.spec.type.accepts value = true := by
        constructor
        · intro h
          refine ⟨h 0 parameter rfl, fun i p hp => ?_⟩
          rw [given?_tail]
          exact h (i + 1) p hp
        · rintro ⟨hzero, hsucc⟩ i p hp
          cases i with
          | zero =>
              obtain rfl := Option.some.inj hp
              exact hzero
          | succ i =>
              rw [← given?_tail]
              exact hsucc i p hp
      rw [slotsFrom_cons, hslots, haccepted]
      cases hgiven : given? arguments 0 with
      | none =>
          simp only [map_eq_ok, ih]
          constructor
          · rintro ⟨rest, ⟨rfl, hrest⟩, rfl⟩
            exact ⟨rfl, by simp, hrest⟩
          · rintro ⟨rfl, -, hrest⟩
            exact ⟨_, ⟨rfl, hrest⟩, rfl⟩
      | some value =>
          by_cases haccepts : parameter.spec.type.accepts value = true
          · simp only [if_pos haccepts, map_eq_ok, ih]
            constructor
            · rintro ⟨rest, ⟨rfl, hrest⟩, rfl⟩
              exact ⟨rfl, by simpa using haccepts, hrest⟩
            · rintro ⟨rfl, -, hrest⟩
              exact ⟨_, ⟨rfl, hrest⟩, rfl⟩
          · simp [haccepts]

/-- Argument number `i` is the first one that its parameter does not accept. -/
structure FirstRefused (parameters : List Parameter) (arguments : List Value) (i : Nat)
    (parameter : Parameter) (value : Value) : Prop where
  declared : parameters[i]? = some parameter
  given : given? arguments i = some value
  refused : parameter.spec.type.accepts value = false
  before : ∀ j < i, ∀ earlier, parameters[j]? = some earlier → ∀ value ∈ given? arguments j,
    earlier.spec.type.accepts value = true

theorem FirstRefused.cons {first parameter : Parameter} {parameters : List Parameter}
    {arguments : List Value} {i : Nat} {value : Value}
    (haccepted : ∀ value ∈ given? arguments 0, first.spec.type.accepts value = true)
    (h : FirstRefused parameters arguments.tail i parameter value) :
    FirstRefused (first :: parameters) arguments (i + 1) parameter value where
  declared := h.declared
  given := by rw [← given?_tail]; exact h.given
  refused := h.refused
  before := by
    intro j hj earlier hearlier
    cases j with
    | zero =>
        obtain rfl := Option.some.inj hearlier
        exact haccepted
    | succ j =>
        rw [← given?_tail]
        exact h.before j (Nat.lt_of_succ_lt_succ hj) earlier hearlier

/-- Slots that are not bound have the error of the first argument that is not accepted. -/
theorem firstRefused_of_slotsFrom {command : String} {index : Nat} {parameters : List Parameter}
    {arguments : List Value} {error : DispatchError}
    (h : slotsFrom command index parameters arguments = .error error) :
    ∃ i parameter value, FirstRefused parameters arguments i parameter value ∧
      error = .typeMismatch command (index + i) parameter.spec.type.category value.category := by
  induction parameters generalizing index arguments with
  | nil => exact absurd h (by simp [slotsFrom])
  | cons first parameters ih =>
      have hlater : slotsFrom command (index + 1) parameters arguments.tail = .error error →
          (∀ value ∈ given? arguments 0, first.spec.type.accepts value = true) →
          ∃ i parameter value, FirstRefused (first :: parameters) arguments i parameter value ∧
            error = .typeMismatch command (index + i) parameter.spec.type.category
              value.category := by
        intro hrest haccepted
        obtain ⟨i, parameter, value, hrefused, rfl⟩ := ih hrest
        refine ⟨i + 1, parameter, value, hrefused.cons haccepted, ?_⟩
        rw [Nat.add_assoc, Nat.add_comm 1 i]
      rw [slotsFrom_cons] at h
      cases hgiven : given? arguments 0 with
      | none =>
          rw [hgiven] at h
          exact hlater (map_eq_error.mp h) (by simp [hgiven])
      | some value =>
          simp only [hgiven] at h
          by_cases haccepts : first.spec.type.accepts value = true
          · rw [if_pos haccepts] at h
            exact hlater (map_eq_error.mp h) (by simpa [hgiven] using haccepts)
          · rw [if_neg haccepts] at h
            obtain rfl := Except.error.inj h
            exact ⟨0, first, value, ⟨rfl, hgiven, by simpa using haccepts, by simp⟩, rfl⟩

theorem bindSlots_eq_ok {command : String} {parameters : List Parameter}
    {arguments : List Value} {slots : List (Option Value)} :
    bindSlots command parameters arguments = .ok slots ↔
      Parameter.minArguments parameters ≤ arguments.length ∧
      arguments.length ≤ parameters.length ∧
      (∀ i parameter, parameters[i]? = some parameter → ∀ value ∈ given? arguments i,
        parameter.spec.type.accepts value = true) ∧
      slots = (List.range parameters.length).map (given? arguments) := by
  simp only [bindSlots]
  split
  · rename_i hmany
    simp [Nat.not_le.mpr hmany]
  · split
    · rename_i hfew
      simp [Nat.not_le.mpr hfew]
    · rw [slotsFrom_eq_ok]
      constructor
      · rintro ⟨hslots, haccepted⟩
        exact ⟨by omega, by omega, haccepted, hslots⟩
      · rintro ⟨-, -, haccepted, hslots⟩
        exact ⟨hslots, haccepted⟩

/-- Why arguments do not bind: there are too many of them, or too few, or one is not
accepted. -/
theorem bindSlots_error_cases {command : String} {parameters : List Parameter}
    {arguments : List Value} {error : DispatchError}
    (h : bindSlots command parameters arguments = .error error) :
    (parameters.length < arguments.length ∧
      error = .tooManyArguments command parameters.length arguments.length) ∨
    (arguments.length ≤ parameters.length ∧
      arguments.length < Parameter.minArguments parameters ∧
      error = .tooFewArguments command (Parameter.minArguments parameters) arguments.length) ∨
    (arguments.length ≤ parameters.length ∧
      Parameter.minArguments parameters ≤ arguments.length ∧
      ∃ i parameter value, FirstRefused parameters arguments i parameter value ∧
        error = .typeMismatch command i parameter.spec.type.category value.category) := by
  simp only [bindSlots] at h
  split at h
  · rename_i hmany
    exact Or.inl ⟨hmany, (Except.error.inj h).symm⟩
  · rename_i hmany
    right
    split at h
    · rename_i hfew
      exact Or.inl ⟨Nat.le_of_not_lt hmany, hfew, (Except.error.inj h).symm⟩
    · rename_i hfew
      obtain ⟨i, parameter, value, hrefused, rfl⟩ := firstRefused_of_slotsFrom h
      rw [Nat.zero_add]
      exact Or.inr ⟨Nat.le_of_not_lt hmany, Nat.le_of_not_lt hfew, i, parameter, value,
        hrefused, rfl⟩

/-- With neither too many nor too few arguments, they bind or one of them is refused. -/
theorem bindSlots_counted (command : String) {parameters : List Parameter}
    {arguments : List Value} (enough : Parameter.minArguments parameters ≤ arguments.length)
    (few : arguments.length ≤ parameters.length) :
    (∃ slots, bindSlots command parameters arguments = .ok slots) ∨
    ∃ i parameter value, FirstRefused parameters arguments i parameter value ∧
      bindSlots command parameters arguments = .error
        (.typeMismatch command i parameter.spec.type.category value.category) := by
  cases hbound : bindSlots command parameters arguments with
  | ok slots => exact Or.inl ⟨slots, rfl⟩
  | error error =>
      right
      rcases bindSlots_error_cases hbound with
        ⟨hmany, -⟩ | ⟨-, hless, -⟩ | ⟨-, -, i, parameter, value, hrefused, rfl⟩
      · exact absurd few (Nat.not_le_of_lt hmany)
      · exact absurd enough (Nat.not_le_of_lt hless)
      · exact ⟨i, parameter, value, hrefused, rfl⟩

/-- Each slot holds the argument with its number, also where there is no parameter. -/
theorem slot_eq_given? {parameters : List Parameter} {arguments : List Value}
    (h : arguments.length ≤ parameters.length) (i : Nat) :
    ((List.range parameters.length).map (given? arguments))[i]?.join = given? arguments i := by
  rw [List.getElem?_map]
  by_cases hi : i < parameters.length
  · rw [List.getElem?_range hi]
    rfl
  · rw [List.getElem?_eq_none (by rw [List.length_range]; omega), given?_length (by omega)]
    rfl

/-! ## What a command does -/

def Command.Agreed (command : Command σ) : Prop :=
  ∀ signature run, command.handler = some (.typed signature run) →
    signature.map ParameterType.spec = command.parameters.map Parameter.spec

/-- `command.Binds line arguments`: the line has neither too few nor too many arguments, each of
them is accepted, and `arguments` are what a typed handler receives for them. -/
structure Command.Binds (command : Command σ) (line : CommandLine)
    {signature : List ParameterType} (arguments : Arguments signature) : Prop where
  declared : signature.map ParameterType.spec = command.parameters.map Parameter.spec
  enough : command.minArguments ≤ line.arguments.length
  few : line.arguments.length ≤ command.maxArguments
  accepted : ∀ i : Fin signature.length, ∀ value ∈ given? line.arguments i,
    (signature.get i).spec.type.accepts value = true
  received : ∀ i : Fin signature.length,
    (signature.get i).Receives (given? line.arguments i) (arguments.get i)

/-- `command.Runs line effect`: the line, if it names the command, changes the host by one run of
its handler, of a raw one with the line as it is. -/
inductive Command.Runs (command : Command σ) (line : CommandLine) : (σ → σ) → Prop where
  | raw {run : CommandLine → σ → σ} (handler : command.handler = some (.raw run)) :
      Runs command line (run line)
  | typed {signature : List ParameterType} {run : Arguments signature → σ → σ}
      {arguments : Arguments signature} (handler : command.handler = some (.typed signature run))
      (binds : command.Binds line arguments) : Runs command line (run arguments)

theorem Command.accepted_iff {parameters : List Parameter} {signature : List ParameterType}
    {arguments : List Value}
    (h : signature.map ParameterType.spec = parameters.map Parameter.spec) :
    (∀ i parameter, parameters[i]? = some parameter → ∀ value ∈ given? arguments i,
        parameter.spec.type.accepts value = true) ↔
      ∀ i : Fin signature.length, ∀ value ∈ given? arguments i,
        (signature.get i).spec.type.accepts value = true := by
  have hspec : ∀ i : Fin signature.length, ∃ parameter,
      parameters[i.val]? = some parameter ∧ parameter.spec = (signature.get i).spec := by
    intro i
    have hi := congrArg (·[i.val]?) h
    simp only [List.getElem?_map, List.getElem?_eq_getElem i.isLt, Option.map_some] at hi
    exact Option.map_eq_some_iff.mp hi.symm
  constructor
  · intro haccepted i value hvalue
    obtain ⟨parameter, hparameter, heq⟩ := hspec i
    rw [← heq]
    exact haccepted i parameter hparameter value hvalue
  · intro haccepted i parameter hparameter value hvalue
    have hlen : signature.length = parameters.length := by
      simpa using congrArg List.length h
    have hi : i < signature.length := by
      rw [hlen]
      exact (List.getElem?_eq_some_iff.mp hparameter).1
    obtain ⟨found, hfound, heq⟩ := hspec ⟨i, hi⟩
    obtain rfl := Option.some.inj (hparameter.symm.trans hfound)
    rw [heq]
    exact haccepted ⟨i, hi⟩ value hvalue

/-- Slots convert to the arguments that a typed handler receives. -/
theorem Command.exists_slots_iff {command : Command σ} {line : CommandLine}
    {signature : List ParameterType} {arguments : Arguments signature}
    (declared : signature.map ParameterType.spec = command.parameters.map Parameter.spec) :
    (∃ slots, bindSlots command.name command.parameters line.arguments = .ok slots ∧
        Arguments.ofSlots 0 signature slots = .ok arguments) ↔ command.Binds line arguments := by
  constructor
  · rintro ⟨slots, hslots, harguments⟩
    obtain ⟨henough, hfew, haccepted, rfl⟩ := bindSlots_eq_ok.mp hslots
    refine ⟨declared, henough, hfew, (accepted_iff declared).mp haccepted, fun i => ?_⟩
    rw [ParameterType.receives_iff, ← slot_eq_given? hfew]
    exact Arguments.ofSlots_eq_ok.mp harguments i
  · rintro ⟨-, henough, hfew, haccepted, hreceived⟩
    refine ⟨_, bindSlots_eq_ok.mpr ⟨henough, hfew, (accepted_iff declared).mpr haccepted, rfl⟩, ?_⟩
    refine Arguments.ofSlots_eq_ok.mpr fun i => ?_
    rw [slot_eq_given? hfew, ← ParameterType.receives_iff]
    exact hreceived i

theorem Command.invocation_eq_ok {command : Command σ} (agreed : command.Agreed)
    {line : CommandLine} {effect : σ → σ} :
    (∃ invocation, command.invocation line = .ok invocation ∧ invocation.perform = effect) ↔
      command.Runs line effect := by
  constructor
  · rintro ⟨invocation, h, rfl⟩
    unfold Command.invocation at h
    split at h
    · exact absurd h (by simp)
    · rename_i run hhandler
      obtain rfl := Except.ok.inj h
      exact .raw hhandler
    · rename_i signature run hhandler
      split at h
      · exact absurd h (by simp)
      · rename_i slots hslots
        obtain ⟨arguments, harguments, rfl⟩ := map_eq_ok.mp (mapError_eq_ok.mp h)
        exact .typed hhandler
          ((exists_slots_iff (agreed signature run hhandler)).mp ⟨slots, hslots, harguments⟩)
  · intro h
    cases h with
    | raw hhandler =>
        refine ⟨.raw _ line, ?_, rfl⟩
        simp only [Command.invocation, hhandler]
    | @typed signature run arguments hhandler hbinds =>
        obtain ⟨slots, hslots, harguments⟩ := (exists_slots_iff hbinds.declared).mpr hbinds
        refine ⟨.typed signature run arguments, ?_, rfl⟩
        simp only [Command.invocation, hhandler, hslots]
        exact mapError_eq_ok.mpr (map_eq_ok.mpr ⟨arguments, harguments, rfl⟩)

/-! ## Handlers agree with their parameters -/

theorem Command.agreed_of_incomplete {command : Command σ} (h : command.handler = none) :
    command.Agreed := by
  intro signature run hhandler
  rw [h] at hhandler
  exact absurd hhandler (by simp)

/-- A handler is attached to the command only, and only if it agrees. -/
theorem Draft.agreed_of_attach {draft next : Draft σ} {handler : Handler σ}
    (h : draft.attach handler = .ok next) :
    next.others = draft.others ∧ next.command.Agreed := by
  rcases attach_cases h with
    ⟨raw, rfl, rfl⟩ | ⟨signature, run, rfl, -, -, rfl⟩ | ⟨signature, run, rfl, -, hagree, rfl⟩
  · exact ⟨rfl, fun _ _ hhandler => absurd hhandler (by simp)⟩
  · refine ⟨rfl, fun _ _ hhandler => ?_⟩
    obtain ⟨rfl, -⟩ := Handler.typed.inj (Option.some.inj hhandler)
    rw [List.map_map]
    rfl
  · refine ⟨rfl, fun _ _ hhandler => ?_⟩
    obtain ⟨rfl, -⟩ := Handler.typed.inj (Option.some.inj hhandler)
    exact hagree.symm

theorem Draft.forall_mem_registry {draft : Draft σ} {P : Command σ → Prop}
    (hothers : ∀ command ∈ draft.others, P command) (hcommand : P draft.command) :
    ∀ command ∈ draft.registry.commands, P command := by
  intro command hmem
  rcases List.mem_append.mp hmem with hmem | hmem
  · exact hothers command hmem
  · rwa [List.mem_singleton.mp hmem]

theorem Registry.Reachable.agreed {registry : Registry σ} (h : registry.Reachable) :
    ∀ command ∈ registry.commands, command.Agreed := by
  induction h with
  | empty => exact fun _ hmem => absurd hmem List.not_mem_nil
  | @declare registry _ declaration ih =>
      rcases registry.declare_cases declaration with
        hsame | ⟨start, draft, hstart, hsteps, hresult⟩
      · rwa [hsame]
      · obtain ⟨-, rfl⟩ := draft_eq_ok.mp hstart
        -- Up to the last step the new command has no handler to agree with.
        obtain ⟨hothers, -, -, -, hhandler⟩ := Draft.frame_of_steps hsteps
        rcases hresult with hresult | ⟨handler, next, hattach, hresult⟩
        · rw [hresult]
          exact Draft.forall_mem_registry (hothers ▸ ih) (Command.agreed_of_incomplete hhandler)
        · rw [hresult]
          obtain ⟨hnext, hagreed⟩ := Draft.agreed_of_attach hattach
          rw [hothers] at hnext
          exact Draft.forall_mem_registry (hnext ▸ ih) hagreed
  | remove _ name ih => exact fun command hmem => ih command (List.mem_of_mem_filter hmem)
  | clear => exact fun _ hmem => absurd hmem List.not_mem_nil

end CommandConsole
