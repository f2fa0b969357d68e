import CommandConsole.Command

/-! # The registry

The commands of a console in the order in which they were declared, with the rule by which their
names are compared and the precision that their numbers must have.
-/

namespace CommandConsole

structure Registry (σ : Type) where
  commands : List (Command σ)
  caseRule : CaseRule
  precision : Precision

namespace Registry

variable {σ : Type}

def empty (caseRule : CaseRule) (precision : Precision) : Registry σ := ⟨[], caseRule, precision⟩

/-- The command called `name`: one whose name it is, else one that has it as an alias. -/
def find? (registry : Registry σ) (name : String) : Option (Command σ) :=
  (registry.commands.find? fun command => registry.caseRule.same command.name name).or
    (registry.commands.find? fun command => command.answersTo registry.caseRule name)

/-- The place of the command called `name`. Like `find?` it goes by names first and by aliases only
if no name is the one looked for. -/
def position? (registry : Registry σ) (name : String) : Option Nat :=
  (registry.commands.findIdx? fun command => registry.caseRule.same command.name name).or
    (registry.commands.findIdx? fun command => command.answersTo registry.caseRule name)

def isCommand (registry : Registry σ) (name : String) : Bool := (registry.find? name).isSome

/-- Removes the command whose name is `name`, aliases not considered, and says whether there was
one. -/
def remove (registry : Registry σ) (name : String) : Bool × Registry σ :=
  let kept := registry.commands.filter fun command => !registry.caseRule.same command.name name
  (kept.length != registry.commands.length, { registry with commands := kept })

def clear (registry : Registry σ) : Registry σ := { registry with commands := [] }

def help? (registry : Registry σ) (name : String) : Option String :=
  (registry.find? name).map Command.help

/-- One line for each command: its name padded to the longest name, and its summary. -/
def overview (registry : Registry σ) : List String :=
  let width := (registry.commands.map fun command => command.name.length).foldl max 0
  registry.commands.map (Command.overviewLine width)

end Registry

end CommandConsole
