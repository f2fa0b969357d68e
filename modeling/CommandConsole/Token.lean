/-! # Tokens

What a line consists of, and where each piece begins.
-/

namespace CommandConsole

/-- A place in a line. Lines and columns count from one; a column is one character. -/
structure Position where
  line : Nat
  column : Nat
deriving DecidableEq

namespace Position

def start : Position := ⟨1, 1⟩

def advance (p : Position) (c : Char) : Position :=
  if c = '\n' then ⟨p.line + 1, 1⟩ else ⟨p.line, p.column + 1⟩

def advanceBy (p : Position) (s : List Char) : Position := s.foldl advance p

end Position

inductive TokenKind where
  | number
  | string
  | identifier
  | trueWord
  | falseWord
  | nullWord
  | endOfInput
deriving DecidableEq

def TokenKind.name : TokenKind → String
  | .number => "number"
  | .string => "string"
  | .identifier => "identifier"
  | .trueWord => "true"
  | .falseWord => "false"
  | .nullWord => "null"
  | .endOfInput => "end of input"

/-- A token, the text it stands for and the place where it begins. The text of a number has lost
its separators; the text of a string still has its quotes and escapes. -/
structure Token where
  kind : TokenKind
  text : String
  position : Position
deriving DecidableEq

def Token.display (t : Token) : String :=
  if t.kind = .endOfInput then s!"{t.kind.name} at {t.position.line}:{t.position.column}"
  else s!"{t.kind.name} '{t.text}' at {t.position.line}:{t.position.column}"

end CommandConsole
