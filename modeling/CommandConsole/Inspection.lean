import CommandConsole.Console

/-! # Inspection

The listing of a console with all that is known about it, for diagnosis: records with their fields
in braces, lists in brackets, texts quoted. A handler is shown by its shape.
-/

namespace CommandConsole.Inspection

def record (name : String) (fields : List (String × String)) : String :=
  let shown := fields.map fun (field, content) => field ++ ": " ++ content
  name ++ " \x7b " ++ ", ".intercalate shown ++ " \x7d"

def list (items : List String) : String := "[" ++ ", ".intercalate items ++ "]"

def option : Option String → String
  | none => "None"
  | some content => "Some(" ++ content ++ ")"

def bool (value : Bool) : String := if value then "true" else "false"

def precision : Precision → String
  | .single => "Single"
  | .double => "Double"
  | .decimal => "Decimal"

def type : ValueType → String
  | .string => "String"
  | .bool => "Bool"
  | .single => "Single"
  | .double => "Double"
  | .decimal => "Decimal"

def parameter (p : Parameter) : String :=
  record "ParameterSpec"
    [("declared",
      record "ArgSpec" [("arg_type", type p.spec.type), ("nullable", bool p.spec.nullable)]),
     ("optional", bool p.optional)]

def handlerKind : HandlerKind → String
  | .noArguments => "NoArg"
  | .typed arity => s!"Typed({arity})"
  | .raw => "Raw"

variable {σ : Type}

def command (c : Command σ) : String :=
  record "CommandDefinition"
    [("name", Text.quoted c.name),
     ("aliases", list (c.aliases.map Text.quoted)),
     ("parameters", list (c.parameters.map parameter)),
     ("help_text", option (c.helpText.map Text.quoted)),
     ("handler", option (c.handlerKind?.map handlerKind))]

def draft (d : Draft σ) : String :=
  "CommandBuilder \x7b definition: " ++ command d.command ++ ", .. \x7d"

def registry (r : Registry σ) : String :=
  record "CommandRegistry"
    [("definitions", list (r.commands.map command)),
     ("case_insensitive", bool (r.caseRule == .insensitive)),
     ("precision", precision r.precision)]

def parserSettings (s : ParserSettings) : String :=
  record "ParserOptions"
    [("number_precision", precision s.precision), ("allow_null", bool s.allowNull)]

def console (c : Console σ) : String :=
  record "CommandRunner"
    [("options", parserSettings c.parser), ("registry", registry c.registry)]

end CommandConsole.Inspection
