import CommandConsole.Registry

/-! # Dispatching command lines

A command line is resolved to one invocation of one handler, or to an error; only then the handler
is called. So an error leaves the host as it was.

For a typed handler the arguments are first put into slots, one for each parameter: too many
arguments are refused, then too few, then the first argument that its parameter does not accept.
A slot stays empty where the argument is missing or null.
-/

namespace CommandConsole

/-- Why a command line cannot be executed. Errors name the command by its own name, whatever alias
was used. -/
inductive DispatchError where
  | commandNotFound (name : String)
  | incomplete (command : String)
  | tooManyArguments (command : String) (max supplied : Nat)
  | tooFewArguments (command : String) (min supplied : Nat)
  | typeMismatch (command : String) (index : Nat) (expected supplied : Category)
deriving DecidableEq

def DispatchError.message : DispatchError → String
  | .commandNotFound name => s!"command '{name}' not found"
  | .incomplete command => s!"command '{command}' has no execution handler"
  | .tooManyArguments command max supplied =>
      s!"too many arguments for command '{command}': expected at most {max}, got {supplied}"
  | .tooFewArguments command min supplied =>
      s!"too few arguments for command '{command}': expected at least {min}, got {supplied}"
  | .typeMismatch command index expected supplied =>
      s!"argument {index} of command '{command}': " ++
        s!"cannot assign {supplied.name} to {expected.name}"

/-- The slots of the parameters from number `index` on. -/
def slotsFrom (command : String) (index : Nat) :
    List Parameter → List Value → Except DispatchError (List (Option Value))
  | [], _ => .ok []
  | _ :: parameters, [] => (slotsFrom command (index + 1) parameters []).map (none :: ·)
  | _ :: parameters, .null :: arguments =>
      (slotsFrom command (index + 1) parameters arguments).map (none :: ·)
  | parameter :: parameters, value :: arguments =>
      let type := parameter.spec.type
      if type.accepts value then
        (slotsFrom command (index + 1) parameters arguments).map (some value :: ·)
      else .error (.typeMismatch command index type.category value.category)

def bindSlots (command : String) (parameters : List Parameter) (arguments : List Value) :
    Except DispatchError (List (Option Value)) :=
  let max := parameters.length
  let min := Parameter.minArguments parameters
  let supplied := arguments.length
  if max < supplied then .error (.tooManyArguments command max supplied)
  else if supplied < min then .error (.tooFewArguments command min supplied)
  else slotsFrom command 0 parameters arguments

variable {σ : Type}

/-- What a command line calls if it names this command. A conversion that fails although the
argument was accepted is reported like one that was not. -/
def Command.invocation (command : Command σ) (line : CommandLine) :
    Except DispatchError (Invocation σ) :=
  match command.handler with
  | none => .error (.incomplete command.name)
  | some (.raw run) => .ok (.raw run line)
  | some (.typed _ run) =>
      match bindSlots command.name command.parameters line.arguments with
      | .error error => .error error
      | .ok slots =>
          (Handler.invocation run slots).mapError fun error =>
            .typeMismatch command.name error.index error.expected error.supplied

namespace Registry

/-- What a command line calls. The command to be executed is taken by its place. -/
def resolve (registry : Registry σ) (line : CommandLine) : Except DispatchError (Invocation σ) :=
  match (registry.position? line.command).bind (registry.commands[·]?) with
  | none => .error (.commandNotFound line.command)
  | some command => command.invocation line

/-- Resolves a command line and calls the handler: whether there was something to call, and the host
afterwards. -/
def dispatch (registry : Registry σ) (line : CommandLine) (host : σ) :
    Except DispatchError Unit × σ :=
  match registry.resolve line with
  | .error error => (.error error, host)
  | .ok invocation => (.ok (), invocation.perform host)

end Registry

end CommandConsole
