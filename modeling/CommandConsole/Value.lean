import CommandConsole.Number
import CommandConsole.Text.Quoted

/-! # Argument values

What the arguments of a line are read as. A bare word and a quoted string are kept apart here,
although both bind to a string parameter.
-/

namespace CommandConsole

inductive Value where
  | string (text : String)
  | number (value : Number)
  | bool (value : Bool)
  | null
  | identifier (text : String)
deriving DecidableEq

/-- The coarse type that messages name. A null has none. -/
inductive Category where
  | string
  | bool
  | number
  | unknown
deriving DecidableEq

def Category.name : Category → String
  | .string => "string"
  | .bool => "bool"
  | .number => "number"
  | .unknown => "unknown"

namespace Value

def category : Value → Category
  | .string _ | .identifier _ => .string
  | .number _ => .number
  | .bool _ => .bool
  | .null => .unknown

def text? : Value → Option String
  | .string text | .identifier text => some text
  | _ => none

def display : Value → String
  | .string text => Text.quoted text
  | .number value => value.text
  | .bool true => "true"
  | .bool false => "false"
  | .null => "null"
  | .identifier text => text

end Value

end CommandConsole
