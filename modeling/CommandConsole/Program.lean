import CommandConsole.Demo
import CommandConsole.Options
import CommandConsole.Settings.File

/-! # The program

One run of the program: it reads its options, loads the settings, and executes the line with the
demonstration commands or lists its tokens. What the run depends on is an argument, and what it
does is a value.
-/

namespace CommandConsole.Program

structure Environment where
  /-- The path of the configuration file, if one is set. -/
  configPath : Option String
  /-- The configuration directory of the user. -/
  configDirectory : Option String
  /-- What is found at a path. -/
  content : String → Settings.FileContent

structure Outcome where
  exitCode : Nat
  output : String
  errors : String
deriving DecidableEq

def version : String := "typeshell 0.1.0\n"

def usage : String :=
  "Usage: typeshell [OPTIONS] <LINE>...\n\n" ++
    "Runs one command line. The words of LINE are joined with single blanks.\n\n" ++
    "  -c, --config <CONFIG>        path of a configuration file\n" ++
    "      --precision <PRECISION>  single, double or decimal\n" ++
    "      --allow-null             accept null as an argument\n" ++
    "      --case-insensitive       match command names ignoring case\n" ++
    "      --tokens                 list the tokens of the line\n" ++
    "  -h, --help                   show this help\n" ++
    "  -V, --version                show the version\n"

def complaint : UsageStop → String
  | .missingArgument => "a line is required"
  | .invalidValue => "an option has an invalid value"
  | .conflict => "an option is given twice"
  | .tooManyValues => "a flag takes no value"
  | .help | .version => ""

def stopped : UsageStop → Outcome
  | .help => ⟨0, usage, ""⟩
  | .version => ⟨0, version, ""⟩
  | stop => ⟨2, "", "error: " ++ complaint stop ++ "\n\n" ++ usage⟩

/-- A run that fails with messages, each the cause of the one before it. -/
def failure (messages : List String) : Outcome :=
  ⟨1, "", "\nError: " ++ ": ".intercalate messages ++ "\n"⟩

/-- The path from which settings are read, and whether there must be a file. -/
def settingsPath? (environment : Environment) (options : Options) : Option (String × Bool) :=
  match options.configPath with
  | some path => some (path, true)
  | none =>
      (Settings.configPath? environment.configPath environment.configDirectory).map (·, false)

def loadSettings (environment : Environment) (options : Options) :
    Except Settings.LoadError Settings :=
  match settingsPath? environment options with
  | none => .ok .default
  | some (path, true) => Settings.load path (environment.content path)
  | some (path, false) => Settings.loadOrDefault path (environment.content path)

def listTokens (line : String) : Outcome :=
  match tokens line with
  | .error error => failure ["Failed to tokenize the line", error.message]
  | .ok tokens => ⟨0, String.join (tokens.map fun token => token.display ++ "\n"), ""⟩

def executeLine (settings : Settings) (line : String) : Outcome :=
  match Demo.console settings with
  | .error error => failure ["Failed to register commands", error.message]
  | .ok console =>
      match Demo.execute console line with
      | (.error error, _) => failure [s!"Failed to execute '{line}'", error.message]
      | (.ok (), host) => ⟨0, host.output, ""⟩

def runOptions (environment : Environment) (options : Options) : Outcome :=
  match loadSettings environment options with
  | .error error => failure ["Failed to load configuration", error.message, error.cause]
  | .ok settings =>
      if options.listTokens then listTokens options.joinedLine
      else executeLine (options.override settings) options.joinedLine

def run (environment : Environment) (words : List String) : Outcome :=
  match Options.read words with
  | .error stop => stopped stop
  | .ok options => runOptions environment options

end CommandConsole.Program
