import CommandConsole.Console

/-! # The help index

The help pages of a console, taken down at one moment. Handlers look pages up here, as the console
itself is not at hand when they run.
-/

namespace CommandConsole

structure HelpPage where
  names : List String
  text : String
deriving DecidableEq

structure HelpIndex where
  overview : String
  pages : List HelpPage
  caseRule : CaseRule
deriving DecidableEq

def HelpPage.ofCommand {σ : Type} (command : Command σ) : HelpPage :=
  ⟨command.names, command.help ++ "\n\nUsage: " ++ command.usage⟩

namespace HelpIndex

def empty : HelpIndex := ⟨"", [], .sensitive⟩

def capture {σ : Type} (console : Console σ) : HelpIndex where
  overview := console.overview
  pages := console.registry.commands.map HelpPage.ofCommand
  caseRule := console.registry.caseRule

def page? (index : HelpIndex) (name : String) : Option String :=
  (index.pages.find? fun page => page.names.any (index.caseRule.same · name)).map HelpPage.text

end HelpIndex

end CommandConsole
