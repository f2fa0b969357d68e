import CommandConsole.Registry

/-! # Declaring commands

A command is declared step by step: its name, then any number of aliases, parameters and help
texts, then its handler. It is in the registry from the moment its name is accepted. A step that
is refused ends the declaration and leaves what the steps before it did.

The handler settles the parameters if none was declared; otherwise it must agree with them.
-/

namespace CommandConsole

def maxParameters : Nat := 10

inductive DeclarationError where
  | invalidName (name : String)
  | duplicateName (name : String)
  | invalidArgumentType (command : String) (spec : TypeSpec) (precision : Precision)
  | requiredAfterOptional (command : String) (index : Nat)
  | tooManyParameters (command : String) (max : Nat)
  | signatureMismatch (command : String) (declared handler : List TypeSpec)
deriving DecidableEq

namespace DeclarationError

def listing (specs : List TypeSpec) : String := ", ".intercalate (specs.map TypeSpec.text)

def message : DeclarationError → String
  | .invalidName name =>
      s!"'{name}' is not a valid command name: only letters, digits and underscores are allowed"
  | .duplicateName name => s!"'{name}' is already registered as a command name or alias"
  | .invalidArgumentType command spec precision =>
      s!"invalid argument type '{spec.text}' for command '{command}': only string, bool and " ++
        s!"{precision.name} are allowed; use precision option to choose different numeric type"
  | .requiredAfterOptional command index =>
      s!"command '{command}': required parameter {index} cannot follow an optional parameter"
  | .tooManyParameters command max =>
      s!"command '{command}' cannot declare more than {max} parameters"
  | .signatureMismatch command declared handler =>
      s!"handler for command '{command}' takes ({listing handler}) " ++
        s!"but the declared parameters are ({listing declared})"

end DeclarationError

/-- A command under declaration, and the commands that were there before it. -/
structure Draft (σ : Type) where
  others : List (Command σ)
  command : Command σ
  caseRule : CaseRule
  precision : Precision

variable {σ : Type}

def nameError? (rule : CaseRule) (commands : List (Command σ)) (name : String) :
    Option DeclarationError :=
  if !isName name then some (.invalidName name)
  else if commands.any (·.answersTo rule name) then some (.duplicateName name)
  else none

namespace Draft

def registry (draft : Draft σ) : Registry σ :=
  ⟨draft.others ++ [draft.command], draft.caseRule, draft.precision⟩

def addAlias (draft : Draft σ) (name : String) : Except DeclarationError (Draft σ) :=
  match nameError? draft.caseRule draft.registry.commands name with
  | some error => .error error
  | none =>
      let command := draft.command
      .ok { draft with command := { command with aliases := command.aliases ++ [name] } }

/-- The error for the first type in a list that the precision does not admit. -/
def typeError? (draft : Draft σ) (specs : List TypeSpec) : Option DeclarationError :=
  (specs.find? fun spec => !spec.type.isAllowed draft.precision).map fun spec =>
    .invalidArgumentType draft.command.name spec draft.precision

/-- Adds a parameter. Of several faults the number of parameters is reported first, then the type,
then a required parameter after an optional one. -/
def addParameter (draft : Draft σ) (parameter : Parameter) : Except DeclarationError (Draft σ) :=
  let command := draft.command
  if maxParameters ≤ command.parameters.length then
    .error (.tooManyParameters command.name maxParameters)
  else
    match draft.typeError? [parameter.spec] with
    | some error => .error error
    | none =>
        if !parameter.optional && command.parameters.any Parameter.optional then
          .error (.requiredAfterOptional command.name command.parameters.length)
        else
          let parameters := command.parameters ++ [parameter]
          .ok { draft with command := { command with parameters } }

def setHelp (draft : Draft σ) (text : String) : Draft σ :=
  { draft with command := { draft.command with helpText := some text } }

def attach (draft : Draft σ) (handler : Handler σ) : Except DeclarationError (Draft σ) :=
  let command := draft.command
  match handler with
  | .raw _ => .ok { draft with command := { command with handler := some handler } }
  | .typed signature _ =>
      let specs := signature.map ParameterType.spec
      let declared := command.parameters.map Parameter.spec
      if command.parameters.isEmpty then
        match draft.typeError? specs with
        | some error => .error error
        | none =>
            let parameters := specs.map fun spec => ⟨spec, false⟩
            .ok { draft with command := { command with parameters, handler := some handler } }
      else if declared = specs then
        .ok { draft with command := { command with handler := some handler } }
      else .error (.signatureMismatch command.name declared specs)

end Draft

def Registry.draft (registry : Registry σ) (name : String) : Except DeclarationError (Draft σ) :=
  match nameError? registry.caseRule registry.commands name with
  | some error => .error error
  | none => .ok ⟨registry.commands, Command.named name, registry.caseRule, registry.precision⟩

/-! ## Whole declarations -/

inductive DeclarationItem where
  | alias (name : String)
  | parameter (parameter : Parameter)
  | help (text : String)
deriving DecidableEq

/-- All steps of a declaration. Without a handler the command stays incomplete. -/
structure Declaration (σ : Type) where
  name : String
  items : List DeclarationItem
  handler : Option (Handler σ)

inductive DeclarationStage where
  | name
  | item (index : Nat)
  | handler
deriving DecidableEq

structure DeclarationFault where
  stage : DeclarationStage
  error : DeclarationError
deriving DecidableEq

namespace Draft

def add (draft : Draft σ) : DeclarationItem → Except DeclarationError (Draft σ)
  | .alias name => draft.addAlias name
  | .parameter parameter => draft.addParameter parameter
  | .help text => .ok (draft.setHelp text)

def addAll (draft : Draft σ) (index : Nat) :
    List DeclarationItem → Draft σ × Option DeclarationFault
  | [] => (draft, none)
  | item :: rest =>
      match draft.add item with
      | .error error => (draft, some ⟨.item index, error⟩)
      | .ok next => next.addAll (index + 1) rest

def finish (draft : Draft σ) : Option (Handler σ) → Draft σ × Option DeclarationFault
  | none => (draft, none)
  | some handler =>
      match draft.attach handler with
      | .error error => (draft, some ⟨.handler, error⟩)
      | .ok next => (next, none)

end Draft

/-- Declares a command: the registry afterwards, and the step that was refused, if any. -/
def Registry.declare (registry : Registry σ) (declaration : Declaration σ) :
    Registry σ × Option DeclarationFault :=
  match registry.draft declaration.name with
  | .error error => (registry, some ⟨.name, error⟩)
  | .ok draft =>
      match draft.addAll 0 declaration.items with
      | (draft, some fault) => (draft.registry, some fault)
      | (draft, none) =>
          let (draft, fault) := draft.finish declaration.handler
          (draft.registry, fault)

/-- Declares commands in order, if no step of any declaration is refused. -/
def Registry.declareAll (registry : Registry σ) :
    List (Declaration σ) → Except DeclarationError (Registry σ)
  | [] => .ok registry
  | declaration :: rest =>
      match registry.declare declaration with
      | (_, some fault) => .error fault.error
      | (next, none) => next.declareAll rest

end CommandConsole
