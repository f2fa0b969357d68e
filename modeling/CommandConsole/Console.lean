import CommandConsole.Dispatch
import CommandConsole.Registry.Declaration
import CommandConsole.Settings

/-! # Consoles

A console reads lines and executes them: settings for reading, and a registry of commands.
-/

namespace CommandConsole

structure Console (σ : Type) where
  parser : ParserSettings
  registry : Registry σ

inductive ExecuteError where
  | parse (error : ParseError)
  | dispatch (error : DispatchError)
deriving DecidableEq

def ExecuteError.message : ExecuteError → String
  | .parse error => error.message
  | .dispatch error => error.message

namespace Console

variable {σ : Type}

/-- A console without commands. Numbers are declared in the precision in which they are read. -/
def ofSettings (settings : Settings) : Console σ :=
  ⟨settings.parser, .empty settings.caseRule settings.parser.precision⟩

def declareAll (console : Console σ) (declarations : List (Declaration σ)) :
    Except DeclarationError (Console σ) :=
  (console.registry.declareAll declarations).map fun registry => { console with registry }

def parse (console : Console σ) (line : String) : Except ParseError CommandLine :=
  CommandLine.parse console.parser line

/-- Executes a line: on success its command's handler has been called once, on an error no handler
has been called and the host is as before. -/
def execute (console : Console σ) (line : String) (host : σ) : Except ExecuteError Unit × σ :=
  match console.parse line with
  | .error error => (.error (.parse error), host)
  | .ok parsed =>
      match console.registry.dispatch parsed host with
      | (.error error, host) => (.error (.dispatch error), host)
      | (.ok (), host) => (.ok (), host)

def overview (console : Console σ) : String := "\n".intercalate console.registry.overview

end Console

end CommandConsole
