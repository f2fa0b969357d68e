import CommandConsole.Settings
import CommandConsole.Number.Shortest
import CommandConsole.Toml.Document

/-! # Reading settings

Settings are read from a TOML document with the tables `parser` and `runner`. Everything may be left
out, and nothing else may be there: the first key that is unknown or has a value of the wrong kind
is reported, where keys are visited in alphabetical order.

A table of settings may also be an array of its values in their order, and the name of a precision
may also be the only key of a table with nothing in it.
-/

namespace CommandConsole.Settings

inductive Fault where
  /-- It is no TOML document. -/
  | notToml
  | unknownField (name : String) (known : List String)
  | unknownVariant (name : String) (known : List String)
  /-- A value, described as `found`, stands where something else was expected. -/
  | wrongType (found expected : String)
  /-- A value of a kind for which there is no description. -/
  | unsuitable
deriving DecidableEq

namespace Fault

def alternatives (names : List String) : String :=
  match names.map fun name => s!"`{name}`" with
  | [a] => a
  | [a, b] => s!"{a} or {b}"
  | quoted => "one of " ++ ", ".intercalate quoted

def message? : Fault → Option String
  | .unknownField name known => some s!"unknown field `{name}`, expected {alternatives known}"
  | .unknownVariant name known => some s!"unknown variant `{name}`, expected {alternatives known}"
  | .wrongType found expected => some s!"invalid type: {found}, expected {expected}"
  | .notToml | .unsuitable => none

def report (fault : Fault) : String :=
  match fault.message? with
  | some message => "TOML parse error: " ++ message
  | none => "TOML parse error"

end Fault

/-! ## Values -/

/-- A floating point value in a message; it has a point even if it is whole. -/
def describeFloat : Toml.FloatValue → Option String
  | .finite value =>
      let text := value.text
      let shown := if text.toList.contains '.' then text else text ++ ".0"
      some s!"floating point `{shown}`"
  | .infinite negative => some (if negative then "floating point `-inf`" else "floating point `inf`")
  | .notANumber => some "floating point `NaN`"
  | .outOfRange => none

/-- Whether an integer is at least minus two to the power `m` and below two to the power `n`. -/
def isWithin (m n : Nat) (x : Int) : Bool := -(Nat.pow 2 m : Int) ≤ x && x < (Nat.pow 2 n : Int)

/-- An integer in a message. One beyond 64 bits is marked as such, and one beyond 128 bits has no
description. -/
def describeInteger (n : Int) : Option String :=
  if isWithin 63 64 n then some s!"integer `{n}`"
  else if isWithin 127 127 n then some s!"integer `{n}` as i128"
  else if 0 ≤ n ∧ isWithin 0 128 n then some s!"integer `{n}` as u128"
  else none

def describe : Toml.Value → Option String
  | .string text => some s!"string {Text.quoted text}"
  | .integer n => n.bind describeInteger
  | .float x => describeFloat x
  | .boolean value => some s!"boolean `{value}`"
  | .datetime _ | .table _ _ => some "map"
  | .array _ _ => some "sequence"

def mismatch (expected : String) (value : Toml.Value) : Fault :=
  match describe value with
  | some found => .wrongType found expected
  | none => .unsuitable

def decodeFlag : Toml.Value → Except Fault Bool
  | .boolean value => .ok value
  | value => .error (mismatch "a boolean" value)

/-- Whether a value has nothing in it, as the value beside a variant must. -/
def isHollow : Toml.Value → Bool
  | .array _ items => items.isEmpty
  | .table _ entries => entries.isEmpty
  | _ => false

def precisionNamed (name : String) : Except Fault Precision :=
  match Precision.ofName? name with
  | some precision => .ok precision
  | none => .error (.unknownVariant name (Precision.all.map Precision.name))

def decodePrecision : Toml.Value → Except Fault Precision
  | .string name => precisionNamed name
  | .table _ [(name, content)] =>
      match precisionNamed name with
      | .error fault => .error fault
      | .ok precision => if isHollow content then .ok precision else .error .unsuitable
  | _ => .error .unsuitable

/-! ## Tables -/

def sorted (entries : List (String × Toml.Value)) : List (String × Toml.Value) :=
  entries.mergeSort fun a b => !(b.1 < a.1)

/-- The key under which a date passes for a table. -/
def datetimeKey : String := "$__toml_private_datetime"

/-- Visits the entries of a table of settings: `field` changes the settings by the value of a known
key and is `none` for any other key. -/
def decodeEntries {α : Type} (known : List String)
    (field : String → Toml.Value → α → Option (Except Fault α)) :
    List (String × Toml.Value) → α → Except Fault α
  | [], settings => .ok settings
  | (key, value) :: rest, settings =>
      match field key value settings with
      | none => .error (.unknownField key known)
      | some (.error fault) => .error fault
      | some (.ok settings) => decodeEntries known field rest settings

def parserKeys : List String := ["number_precision", "allow_null"]

def parserField (key : String) (value : Toml.Value) (settings : ParserSettings) :
    Option (Except Fault ParserSettings) :=
  if key = "number_precision" then
    some ((decodePrecision value).map fun precision => { settings with precision })
  else if key = "allow_null" then
    some ((decodeFlag value).map fun allowNull => { settings with allowNull })
  else none

def decodeParser : Toml.Value → Except Fault ParserSettings
  | .table _ entries => decodeEntries parserKeys parserField (sorted entries) .default
  | .array _ [] => .ok .default
  | .array _ [precision] =>
      (decodePrecision precision).map fun precision => { ParserSettings.default with precision }
  | .array _ (precision :: allowNull :: _) =>
      match decodePrecision precision with
      | .error fault => .error fault
      | .ok precision => (decodeFlag allowNull).map fun allowNull => ⟨precision, allowNull⟩
  | .datetime _ => .error (.unknownField datetimeKey parserKeys)
  | value => .error (mismatch "struct ParserOptions" value)

def runnerKeys : List String := ["case_insensitive_command_names"]

def decodeCaseRule (value : Toml.Value) : Except Fault CaseRule :=
  (decodeFlag value).map fun insensitive => if insensitive then .insensitive else .sensitive

def runnerField (key : String) (value : Toml.Value) (_ : CaseRule) :
    Option (Except Fault CaseRule) :=
  if key = "case_insensitive_command_names" then some (decodeCaseRule value) else none

def decodeRunner : Toml.Value → Except Fault CaseRule
  | .table _ entries => decodeEntries runnerKeys runnerField (sorted entries) .sensitive
  | .array _ [] => .ok .sensitive
  | .array _ (insensitive :: _) => decodeCaseRule insensitive
  | .datetime _ => .error (.unknownField datetimeKey runnerKeys)
  | value => .error (mismatch "struct RunnerOptions" value)

def tableKeys : List String := ["parser", "runner"]

def tableField (key : String) (value : Toml.Value) (settings : Settings) :
    Option (Except Fault Settings) :=
  if key = "parser" then some ((decodeParser value).map fun parser => { settings with parser })
  else if key = "runner" then
    some ((decodeRunner value).map fun caseRule => { settings with caseRule })
  else none

def decode (entries : List (String × Toml.Value)) : Except Fault Settings :=
  decodeEntries tableKeys tableField (sorted entries) .default

def ofToml (text : String) : Except Fault Settings :=
  match Toml.readDocument? text with
  | some (.table _ entries) => decode entries
  | _ => .error .notToml

end CommandConsole.Settings
