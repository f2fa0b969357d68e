import CommandConsole.StringLiteral
import CommandConsole.Token.Lexer
import CommandConsole.Value

/-! # Command lines

A command line is the name of a command and its arguments. It is read from the tokens of a line:
the first one must be an identifier, and each further one is an argument. Of several faults the
leftmost is reported, but a line without tokens is refused before any argument is read.
-/

namespace CommandConsole

/-- How arguments are read: the precision of numbers, and whether `null` is an argument. -/
structure ParserSettings where
  precision : Precision
  allowNull : Bool
deriving DecidableEq

def ParserSettings.default : ParserSettings := ⟨.single, false⟩

structure CommandLine where
  command : String
  arguments : List Value
deriving DecidableEq

inductive ParseError where
  | lexical (error : LexError)
  | emptyLine
  | missingCommandName (token : Token)
  | nullNotAllowed (token : Token)
  | stringLiteral (error : StringLiteralError)
  | numberOutOfRange (literal : String) (precision : Precision)
deriving DecidableEq

def ParseError.message : ParseError → String
  | .lexical error => error.message
  | .emptyLine => "cannot parse an empty command line"
  | .missingCommandName token =>
      s!"expecting an identifier for command name, found {token.kind.name} '{token.text}'" ++
        s!" at line {token.position.line}, column {token.position.column}"
  | .nullNotAllowed token =>
      s!"unexpected character(s) '{token.text}' at line {token.position.line}, " ++
        s!"column {token.position.column}: null arguments are not allowed"
  | .stringLiteral error => error.message
  | .numberOutOfRange literal precision =>
      s!"number '{literal}' cannot be represented with {precision.name} precision"

def readNumber (precision : Precision) (literal : String) : Except ParseError Number :=
  match Number.read? precision literal.toList with
  | some number => .ok number
  | none => .error (.numberOutOfRange literal precision)

def Token.argument (settings : ParserSettings) (token : Token) : Except ParseError Value :=
  match token.kind with
  | .identifier => .ok (.identifier token.text)
  | .string =>
      match StringLiteral.decode token.text with
      | .ok text => .ok (.string text)
      | .error error => .error (.stringLiteral error)
  | .number => (readNumber settings.precision token.text).map .number
  | .trueWord => .ok (.bool true)
  | .falseWord => .ok (.bool false)
  | .nullWord => if settings.allowNull then .ok .null else .error (.nullNotAllowed token)
  | .endOfInput => .error .emptyLine

/-- The arguments that tokens stand for, up to the end of input. -/
def readArguments (settings : ParserSettings) : List Token → Except ParseError (List Value)
  | [] => .ok []
  | token :: rest =>
      if token.kind = .endOfInput then .ok []
      else
        match token.argument settings with
        | .error error => .error error
        | .ok value => (readArguments settings rest).map (value :: ·)

namespace CommandLine

def ofTokens (settings : ParserSettings) : List Token → Except ParseError CommandLine
  | [] => .error .emptyLine
  | first :: rest =>
      if first.kind = .identifier then
        (readArguments settings rest).map fun arguments => ⟨first.text, arguments⟩
      else .error (.missingCommandName first)

def parse (settings : ParserSettings) (line : String) : Except ParseError CommandLine :=
  if line.toList.all Text.isBlank then .error .emptyLine
  else
    match CommandConsole.tokens line with
    | .error error => .error (.lexical error)
    | .ok tokens => ofTokens settings tokens

end CommandLine

end CommandConsole
