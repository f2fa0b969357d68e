import CommandConsole.Help

/-! # The demonstration commands

A console with five commands that print: `help`, `echo`, `add`, `toggle` and `args`. Their host is
the text printed so far, together with the help index.
-/

namespace CommandConsole.Demo

structure Host where
  index : HelpIndex
  output : String

def Host.print (host : Host) (line : String) : Host :=
  { host with output := host.output ++ line ++ "\n" }

def helpText (index : HelpIndex) : Option String → String
  | none => index.overview
  | some name => (index.page? name).getD s!"Unknown command '{name}'"

def help : Declaration Host where
  name := "help"
  items :=
    [.alias "h", .parameter ⟨⟨.string, true⟩, true⟩,
     .help "Lists the commands, or shows the help of one command."]
  handler := some <| .typed [.nullable .string] fun (name, ()) host =>
    host.print (helpText host.index name)

def echo : Declaration Host where
  name := "echo"
  items :=
    [.alias "say",
     .help "Prints its argument.\nBare words and quoted strings are both accepted."]
  handler := some <| .typed [.plain .string] fun (text, ()) host => host.print text

def decimalSum (x y : Decimal) : String :=
  match x.add? y with
  | some sum => sum.text
  | none => "overflow"

def addHandler : Precision → Handler Host
  | .single =>
      .typed [.plain .single, .plain .single] fun (x, y, ()) host => host.print (x.add y).text
  | .double =>
      .typed [.plain .double, .plain .double] fun (x, y, ()) host => host.print (x.add y).text
  | .decimal =>
      .typed [.plain .decimal, .plain .decimal] fun (x, y, ()) host => host.print (decimalSum x y)

def add (precision : Precision) : Declaration Host where
  name := "add"
  items := [.alias "sum", .help "Adds two numbers using the configured precision."]
  handler := some (addHandler precision)

def toggleText (flag : String) : Option Bool → String
  | some true => s!"{flag} on"
  | some false => s!"{flag} off"
  | none => s!"{flag} toggled"

def toggle : Declaration Host where
  name := "toggle"
  items :=
    [.parameter ⟨⟨.string, false⟩, false⟩, .parameter ⟨⟨.bool, true⟩, true⟩,
     .help "Switches a named flag on or off."]
  handler := some <| .typed [.plain .string, .nullable .bool] fun (flag, state, ()) host =>
    host.print (toggleText flag state)

def printArguments (index : Nat) : List Value → Host → Host
  | [], host => host
  | value :: rest, host =>
      printArguments (index + 1) rest
        (host.print s!"  {index}: {value.display} [{value.category.name}]")

def args : Declaration Host where
  name := "args"
  items := [.help "Prints the parsed arguments without checking them."]
  handler := some <| .raw fun line host =>
    printArguments 0 line.arguments
      (host.print s!"{line.command} ({line.arguments.length} argument(s))")

def declarations (precision : Precision) : List (Declaration Host) :=
  [help, echo, add precision, toggle, args]

def console (settings : Settings) : Except DeclarationError (Console Host) :=
  (Console.ofSettings settings).declareAll (declarations settings.parser.precision)

def execute (console : Console Host) (line : String) : Except ExecuteError Unit × Host :=
  console.execute line ⟨.capture console, ""⟩

end CommandConsole.Demo
