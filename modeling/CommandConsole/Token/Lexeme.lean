import CommandConsole.Name
import CommandConsole.Token

/-! # Lexemes

The longest piece of a line that is one token, as far as the start of a text decides it. Keywords
go before numbers, numbers before strings, strings before identifiers; each reader looks at the
text from its start and takes nothing if it fails.

* A keyword is `true`, `false` or `null` in any ASCII case, not followed by a name character.
* A number is an optional minus sign and digits with at most one point; separators `_` may follow
  the first digit and are dropped. A second point makes it no number at all.
* A string runs from quote to quote; inside, a backslash must be followed by a backslash or by `n`.
* An identifier is a run of name characters.
-/

namespace CommandConsole

/-- A piece of a text: its kind, the characters that are kept, and how many were read. -/
structure Lexeme where
  kind : TokenKind
  text : List Char
  width : Nat
deriving DecidableEq

inductive StringFault where
  /-- A backslash, after the text `before` it, is followed by the wrong character. -/
  | invalidEscape (before : List Char) (found : Char)
  /-- The text ends inside the string. -/
  | unterminated
deriving DecidableEq

namespace Lexeme

def keyword? (kind : TokenKind) (word s : List Char) : Option Lexeme :=
  let candidate := s.take word.length
  if candidate.map Char.toLower = word ∧ ¬ (s.drop word.length).head?.any isNameChar then
    some ⟨kind, candidate, word.length⟩
  else none

/-- The part of a number after its sign: what is kept, how much was read, whether it has a digit. -/
structure Digits where
  text : List Char
  width : Nat
  hasDigit : Bool

namespace Digits

def keep (c : Char) (d : Digits) : Digits := { d with text := c :: d.text, width := d.width + 1 }

def skip (d : Digits) : Digits := { d with width := d.width + 1 }

/-- Reads digits, a point and separators, given whether a digit and a point came before. -/
def read? (digit point : Bool) : List Char → Option Digits
  | [] => some ⟨[], 0, digit⟩
  | c :: rest =>
      if c.isDigit then (read? true point rest).map (keep c)
      else if c = '.' then if point then none else (read? digit true rest).map (keep c)
      else if c = '_' ∧ digit then (read? digit point rest).map skip
      else some ⟨[], 0, digit⟩

end Digits

def number? (s : List Char) : Option Lexeme :=
  let digits := match s with
    | '-' :: rest => (Digits.read? false false rest).map (Digits.keep '-')
    | _ => Digits.read? false false s
  (digits.filter Digits.hasDigit).map fun d => ⟨.number, d.text, d.width⟩

/-- What follows an opening quote, up to and including the closing one. -/
def stringTail : List Char → Except StringFault (List Char)
  | [] => .error .unterminated
  | c :: rest =>
      if c = '"' then .ok ['"']
      else if c = '\\' then
        match rest with
        | [] => .error .unterminated
        | e :: rest =>
            if e = '\\' ∨ e = 'n' then continued ['\\', e] (stringTail rest)
            else .error (.invalidEscape [] e)
      else continued [c] (stringTail rest)
where
  /-- Puts characters in front of the rest of a string, or in front of the place of its fault. -/
  continued (front : List Char) : Except StringFault (List Char) → Except StringFault (List Char)
    | .ok text => .ok (front ++ text)
    | .error (.invalidEscape before found) => .error (.invalidEscape (front ++ before) found)
    | .error .unterminated => .error .unterminated

def string? : List Char → Except StringFault (Option Lexeme)
  | [] => .ok none
  | c :: rest =>
      if c = '"' then
        match stringTail rest with
        | .ok text => .ok (some ⟨.string, '"' :: text, text.length + 1⟩)
        | .error (.invalidEscape before found) => .error (.invalidEscape ('"' :: before) found)
        | .error .unterminated => .error .unterminated
      else .ok none

def identifier? (s : List Char) : Option Lexeme :=
  let name := s.takeWhile isNameChar
  if name = [] then none else some ⟨.identifier, name, name.length⟩

/-- Reads the lexeme at the start of a text: none if the text starts like no token, and a fault if
it starts like a string that is none. -/
def read? (s : List Char) : Except StringFault (Option Lexeme) :=
  match keyword? .trueWord "true".toList s <|> keyword? .falseWord "false".toList s <|>
      keyword? .nullWord "null".toList s <|> number? s with
  | some lexeme => .ok (some lexeme)
  | none =>
      match string? s with
      | .ok none => .ok (identifier? s)
      | string => string

end Lexeme

end CommandConsole
