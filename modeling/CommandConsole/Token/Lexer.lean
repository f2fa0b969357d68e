import CommandConsole.Text.Blank
import CommandConsole.Token.Lexeme

/-! # The tokens of a line

A line is a sequence of lexemes with any number of blanks between them. Its tokens are the lexemes
with their positions and, after the last one, the end of input.
-/

namespace CommandConsole

inductive LexError where
  /-- No token starts with the characters `found`. -/
  | unexpectedCharacters (found : String) (position : Position)
  /-- A backslash at `position` is followed by the wrong character. -/
  | invalidEscape (found : Char) (position : Position)
  /-- The line ends inside the string that begins at `position`. -/
  | unterminatedString (position : Position)
deriving DecidableEq

namespace LexError

def message : LexError → String
  | .unexpectedCharacters found position =>
      s!"unexpected character(s) '{found}' at line {position.line}, column {position.column}"
  | .invalidEscape found position =>
      s!"'\\{found}' is not a valid escape sequence" ++
        s!" (line {position.line}, column {position.column})"
  | .unterminatedString position =>
      s!"unterminated string starting at line {position.line}, column {position.column}"

def ofStringFault (position : Position) : StringFault → LexError
  | .invalidEscape before found => .invalidEscape found (position.advanceBy before)
  | .unterminated => .unterminatedString position

end LexError

/-- The tokens of the rest of a line that stands at `position`, after its first `skip` characters,
which belong to a lexeme that was read before. -/
def tokensFrom (position : Position) (skip : Nat) : List Char → Except LexError (List Token)
  | [] => .ok [⟨.endOfInput, "", position⟩]
  | c :: rest =>
      match skip with
      | skip + 1 => tokensFrom (position.advance c) skip rest
      | 0 =>
          if Text.isBlank c then tokensFrom (position.advance c) 0 rest
          else
            match Lexeme.read? (c :: rest) with
            | .ok (some lexeme) =>
                (tokensFrom (position.advance c) (lexeme.width - 1) rest).map
                  (⟨lexeme.kind, String.ofList lexeme.text, position⟩ :: ·)
            | .ok none =>
                let found := (c :: rest).takeWhile fun d => !Text.isBlank d
                .error (.unexpectedCharacters (String.ofList found) position)
            | .error fault => .error (.ofStringFault position fault)

def tokens (line : String) : Except LexError (List Token) := tokensFrom .start 0 line.toList

end CommandConsole
