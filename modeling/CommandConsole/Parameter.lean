import CommandConsole.Value

/-! # Parameters

What a command says about its arguments: a type for each, whether the argument may be null for the
handler to notice, and whether it may be left out.
-/

namespace CommandConsole

inductive ValueType where
  | string
  | bool
  | single
  | double
  | decimal
deriving DecidableEq

namespace ValueType

def name : ValueType → String
  | .string => "string"
  | .bool => "bool"
  | .single => "single"
  | .double => "double"
  | .decimal => "decimal"

def category : ValueType → Category
  | .string => .string
  | .bool => .bool
  | .single | .double | .decimal => .number

def precision? : ValueType → Option Precision
  | .single => some .single
  | .double => some .double
  | .decimal => some .decimal
  | .string | .bool => none

/-- Whether a parameter may have this type where numbers are held in `precision`. -/
def isAllowed (type : ValueType) (precision : Precision) : Bool :=
  type.precision?.all (· == precision)

/-- Whether a value may be assigned to a parameter of this type. A null may not: it stands for a
missing value and never reaches the test. -/
def accepts : ValueType → Value → Bool
  | .string, .string _ | .string, .identifier _ => true
  | .bool, .bool _ => true
  | .single, .number (.single _) => true
  | .double, .number (.double _) => true
  | .decimal, .number (.decimal _) => true
  | _, _ => false

end ValueType

structure TypeSpec where
  type : ValueType
  nullable : Bool
deriving DecidableEq

def TypeSpec.text (spec : TypeSpec) : String :=
  if spec.nullable then spec.type.name ++ "?" else spec.type.name

structure Parameter where
  spec : TypeSpec
  optional : Bool
deriving DecidableEq

namespace Parameter

def usage (parameter : Parameter) : String :=
  if parameter.optional then s!"[{parameter.spec.text}]" else s!"<{parameter.spec.text}>"

/-- How many arguments are required: the parameters before the first optional one. -/
def minArguments (parameters : List Parameter) : Nat :=
  (parameters.takeWhile fun parameter => !parameter.optional).length

end Parameter

end CommandConsole
