import CommandConsole.Settings

/-! # Command line options

The words given to the program: options, and then the line to execute. The line begins with the
first word that is no option, with a word that looks like an option and is none, or after `--`;
from there on every word belongs to it.

The value of an option is judged when the next word is taken, because that word may be at fault
itself.
-/

namespace CommandConsole

structure Options where
  configPath : Option String
  precision : Option Precision
  allowNull : Bool
  caseInsensitive : Bool
  listTokens : Bool
  line : List String
deriving DecidableEq

inductive UsageStop where
  | missingArgument
  | invalidValue
  | conflict
  | tooManyValues
  | help
  | version
deriving DecidableEq

namespace Options

def silent : Options := ⟨.none, .none, false, false, false, []⟩

def joinedLine (options : Options) : String := " ".intercalate options.line

/-- The settings of a file with those of the options over them. A flag that is absent changes
nothing, so a flag can only switch something on. -/
def override (options : Options) (settings : Settings) : Settings where
  parser :=
    { precision := options.precision.getD settings.parser.precision
      allowNull := options.allowNull || settings.parser.allowNull }
  caseRule := if options.caseInsensitive then .insensitive else settings.caseRule

/-! ## Reading words -/

inductive ValueOption where
  | config
  | precision
deriving DecidableEq

inductive Flag where
  | allowNull
  | caseInsensitive
  | tokens
  | help
  | version
deriving DecidableEq

inductive OptionName where
  | valued (option : ValueOption)
  | flag (flag : Flag)
deriving DecidableEq

def longOption? (name : String) : Option OptionName :=
  [("config", .valued .config), ("precision", .valued .precision),
    ("allow-null", .flag .allowNull), ("case-insensitive", .flag .caseInsensitive),
    ("tokens", .flag .tokens), ("help", .flag .help), ("version", .flag .version)].lookup name

def shortOption? (name : Char) : Option OptionName :=
  [('c', .valued .config), ('h', .flag .help), ('V', .flag .version)].lookup name

/-- How far words have been read: what they say so far, and an option whose value is still to be
judged, or to come. -/
structure Reading where
  options : Options
  pending : Option (ValueOption × Option String)

def giveValue (options : Options) : ValueOption → String → Except UsageStop Options
  | .config, value =>
      if options.configPath.isSome then .error .conflict
      else if value.isEmpty then .error .invalidValue
      else .ok { options with configPath := some value }
  | .precision, value =>
      if options.precision.isSome then .error .conflict
      else
        match Precision.ofName? value with
        | some precision => .ok { options with precision := some precision }
        | .none => .error .invalidValue

def raise (options : Options) : Flag → Except UsageStop Options
  | .allowNull =>
      if options.allowNull then .error .conflict else .ok { options with allowNull := true }
  | .caseInsensitive =>
      if options.caseInsensitive then .error .conflict
      else .ok { options with caseInsensitive := true }
  | .tokens =>
      if options.listTokens then .error .conflict else .ok { options with listTokens := true }
  | .help => .error .help
  | .version => .error .version

namespace Reading

def settle (reading : Reading) : Except UsageStop Options :=
  match reading.pending with
  | .none => .ok reading.options
  | some (_, .none) => .error .invalidValue
  | some (option, some value) => giveValue reading.options option value

def takeFlag (reading : Reading) (flag : Flag) : Except UsageStop Reading :=
  (reading.settle.bind (raise · flag)).map fun options => ⟨options, .none⟩

/-- Takes an option with the value that is attached to it, or waits for its value. -/
def takeValued (reading : Reading) (option : ValueOption) (value : Option String) :
    Except UsageStop Reading :=
  match reading.settle with
  | .error stop => .error stop
  | .ok options =>
      match value with
      | some value => (giveValue options option value).map fun options => ⟨options, .none⟩
      | .none => .ok ⟨options, some (option, .none)⟩

/-- Takes a word with a long name and what follows its equals sign. `none` if it names no option. -/
def takeLong (reading : Reading) (name : String) (value : Option String) :
    Option (Except UsageStop Reading) :=
  (longOption? name).map fun
    | .valued option => reading.takeValued option value
    | .flag flag => if value.isSome then .error .tooManyValues else reading.takeFlag flag

/-- Takes a word of one-letter names. What follows the name of an option with a value is that
value. -/
def takeShort (reading : Reading) : List Char → Except UsageStop Reading
  | [] => .ok reading
  | c :: rest =>
      match shortOption? c with
      | some (.valued option) =>
          reading.takeValued option (if rest.isEmpty then .none else some (String.ofList rest))
      | some (.flag flag) =>
          match reading.takeFlag flag with
          | .error stop => .error stop
          | .ok reading => reading.takeShort rest
      | .none => .ok reading

/-- Takes a word as an option. `none` if it is none: no dash in front, only a dash, or a name that
is not known. -/
def takeOption (reading : Reading) (word : String) : Option (Except UsageStop Reading) :=
  match word.toList with
  | '-' :: '-' :: rest =>
      let name := String.ofList (rest.takeWhile (· != '='))
      match rest.dropWhile (· != '=') with
      | [] => reading.takeLong name .none
      | _ :: value => reading.takeLong name (some (String.ofList value))
  | '-' :: names =>
      if !names.isEmpty && names.all fun c => (shortOption? c).isSome then
        some (reading.takeShort names)
      else .none
  | _ => .none

/-- Ends the options: the rest of the words is the line, which must not be empty. -/
def finish (reading : Reading) (line : List String) : Except UsageStop Options :=
  match reading.settle with
  | .error stop => .error stop
  | .ok options => if line.isEmpty then .error .missingArgument else .ok { options with line }

def takeAll (reading : Reading) : List String → Except UsageStop Options
  | [] => reading.finish []
  | word :: rest =>
      if word = "--" then reading.finish rest
      else
        match reading.takeOption word with
        | some (.error stop) => .error stop
        | some (.ok reading) => reading.takeAll rest
        | .none =>
            match reading.pending with
            | some (option, .none) => takeAll ⟨reading.options, some (option, some word)⟩ rest
            | _ => reading.finish (word :: rest)

end Reading

def read (words : List String) : Except UsageStop Options := Reading.takeAll ⟨silent, .none⟩ words

end Options

end CommandConsole
