import CommandConsole.Handler
import CommandConsole.Name
import CommandConsole.Text.Blank

/-! # Commands

A command: its name and aliases, its parameters, its help text, and its handler once it has one.
-/

namespace CommandConsole

structure Command (σ : Type) where
  name : String
  aliases : List String
  parameters : List Parameter
  helpText : Option String
  handler : Option (Handler σ)

namespace Command

variable {σ : Type}

def named (name : String) : Command σ := ⟨name, [], [], none, none⟩

def names (command : Command σ) : List String := command.name :: command.aliases

def answersTo (command : Command σ) (rule : CaseRule) (name : String) : Bool :=
  command.names.any (rule.same · name)

def isComplete (command : Command σ) : Bool := command.handler.isSome

def handlerKind? (command : Command σ) : Option HandlerKind := command.handler.map Handler.kind

def minArguments (command : Command σ) : Nat := Parameter.minArguments command.parameters

def maxArguments (command : Command σ) : Nat := command.parameters.length

/-- How the command is called. A raw handler takes anything. -/
def usage (command : Command σ) : String :=
  if command.handlerKind? = some .raw then command.name ++ " ..."
  else " ".intercalate (command.name :: command.parameters.map Parameter.usage)

/-- The help of the command: its name, its aliases if it has any, an empty line, and its text. -/
def help (command : Command σ) : String :=
  let aliases :=
    if command.aliases.isEmpty then ""
    else "\nAliases: " ++ ", ".intercalate command.aliases
  command.name ++ aliases ++ "\n\n" ++ command.helpText.getD ""

def summary (command : Command σ) : List Char :=
  (command.helpText.getD "").toList.takeWhile (· != '\n')

/-- The name padded to `width` characters, a blank, and the summary, without blanks at the end. -/
def overviewLine (width : Nat) (command : Command σ) : String :=
  let name := command.name.toList
  let padding := List.replicate (width - name.length) ' '
  String.ofList (Text.trimEnd (name ++ padding ++ ' ' :: command.summary))

end Command

end CommandConsole
