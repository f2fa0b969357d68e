import CommandConsole.Toml.Datetime
import CommandConsole.Toml.Numeral

/-! # TOML scalars

The values that are written without quotes and brackets: truth values, numbers, dates and times.
Such a value reaches up to the next blank, line break, bracket, brace, comma, equals sign or
comment. Its first characters say what it must be.
-/

namespace CommandConsole.Toml

def splitSign : List Char → Option Bool × List Char
  | '+' :: rest => (some false, rest)
  | '-' :: rest => (some true, rest)
  | text => (none, text)

def number? (sign : Option Bool) (text : List Char) : Option Value :=
  let rest := text.dropWhile Char.isDigit
  if rest.any isFloatMark then float? sign text
  else if text ≠ [] ∧ (rest = [] ∨ rest.head? = some '_') then decimalInteger? sign text
  else none

/-- The value that a run of characters without quotes spells. A hyphen or a colon behind the first
digits makes it a date or a time. -/
def scalar? (text : List Char) : Option Value :=
  let (sign, body) := splitSign text
  if text = "true".toList then some (.boolean true)
  else if text = "false".toList then some (.boolean false)
  else if body = "inf".toList then some (.float (.infinite (sign == some true)))
  else if body = "nan".toList then some (.float .notANumber)
  else
    match body with
    | '0' :: 'x' :: digits => if sign = none then integerInBase? 16 digits else none
    | '0' :: 'o' :: digits => if sign = none then integerInBase? 8 digits else none
    | '0' :: 'b' :: digits => if sign = none then integerInBase? 2 digits else none
    | _ =>
        match (body.dropWhile Char.isDigit).head? with
        | some '-' | some ':' =>
            if isDatetime text then some (.datetime (String.ofList text)) else none
        | _ => number? sign body

def isScalarChar (c : Char) : Bool :=
  !(['=', ',', '[', ']', '\x7b', '\x7d', '#', ' ', '\t', '\r', '\n'].contains c)

/-- The run at the start of a text. A blank belongs to it between a date and a time. -/
def scalarRun (text : List Char) : List Char × List Char :=
  let run := text.takeWhile isScalarChar
  let rest := text.dropWhile isScalarChar
  match rest with
  | ' ' :: next =>
      if afterDate? run = some [] ∧ next.head?.any Char.isDigit then
        (run ++ ' ' :: next.takeWhile isScalarChar, next.dropWhile isScalarChar)
      else (run, rest)
  | _ => (run, rest)

end CommandConsole.Toml
