import CommandConsole.CommandLine

/-! # Settings

What can be set about a console: how arguments are read, and how names are compared.
-/

namespace CommandConsole

structure Settings where
  parser : ParserSettings
  caseRule : CaseRule
deriving DecidableEq

namespace Settings

def default : Settings := ⟨.default, .sensitive⟩

def toToml (settings : Settings) : String :=
  let insensitive := settings.caseRule == .insensitive
  s!"[parser]\nnumber_precision = \"{settings.parser.precision.name}\"\n" ++
    s!"allow_null = {settings.parser.allowNull}\n\n" ++
    s!"[runner]\ncase_insensitive_command_names = {insensitive}\n"

end Settings

end CommandConsole
