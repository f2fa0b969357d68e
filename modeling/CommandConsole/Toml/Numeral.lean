import CommandConsole.Number.Literal
import CommandConsole.Toml.Value

/-! # TOML numbers

Integers in four bases and floating point numbers. Digits may be grouped by separators. An integer
is kept as it is written until someone asks for its value, and what was looked at until then is
little: behind its first separator a decimal integer may hold anything, and the digits after a
letter for a base may be missing. Such an integer is a value like others, but has no number.
-/

namespace CommandConsole.Toml

def hexValue? (c : Char) : Option Nat :=
  if c.isDigit then some (c.toNat - '0'.toNat)
  else if 'a' ≤ c ∧ c ≤ 'f' then some (c.toNat - 'a'.toNat + 10)
  else if 'A' ≤ c ∧ c ≤ 'F' then some (c.toNat - 'A'.toNat + 10)
  else none

def isHexDigit (c : Char) : Bool := (hexValue? c).isSome

def inBase (base : Nat) (digits : List Char) : Nat :=
  digits.foldl (fun n c => base * n + (hexValue? c).getD 0) 0

/-- Whether each separator stands between two digits, in a text that comes behind a digit or not. -/
def isGroupedAfter (isDigit : Char → Bool) (behindDigit : Bool) : List Char → Bool
  | [] => true
  | ['_'] => false
  | '_' :: c :: rest => behindDigit && isDigit c && isGroupedAfter isDigit true rest
  | c :: rest => isGroupedAfter isDigit (isDigit c) rest

def isGrouped (isDigit : Char → Bool) (text : List Char) : Bool :=
  isGroupedAfter isDigit false text

def ungroup (text : List Char) : List Char := text.filter (· != '_')

def isDigitPart (c : Char) : Bool := c.isDigit || c == '_'

/-- The decimal digits and separators in front of a text, if there is a digit among them, and what
follows. -/
def splitDigitPart? (text : List Char) : Option (List Char × List Char) :=
  let part := text.takeWhile isDigitPart
  if part.any Char.isDigit then some (part, text.dropWhile isDigitPart) else none

/-- An integer in base 16, 8 or 2, given by what follows the letter for the base. -/
def integerInBase? (base : Nat) (digits : List Char) : Option Value :=
  let plain := ungroup digits
  if plain.all (fun c => (hexValue? c).any (· < base)) ∧ isGrouped isHexDigit digits then
    some (.integer (if plain = [] then none else some (inBase base plain)))
  else none

/-- A decimal integer behind its sign. Nothing may follow a zero at the start. -/
def decimalInteger? (sign : Option Bool) (text : List Char) : Option Value :=
  if text.length ≠ 1 ∧ text.head? = some '0' then none
  else if isGrouped isHexDigit text then
    some (.integer ((readDigits? (ungroup text)).map fun n =>
      if sign = some true then -(n : Int) else n))
  else none

def isFloatMark (c : Char) : Bool := c == '.' || isExponentMark c

def fraction? : List Char → Option (List Char × List Char)
  | '.' :: rest => splitDigitPart? rest
  | text => some ([], text)

def exponent? : List Char → Option Int
  | [] => some 0
  | mark :: rest =>
      if isExponentMark mark then
        let (negative, digits) := readSign rest
        match splitDigitPart? digits with
        | some (digits, []) =>
            let magnitude : Int := inBase 10 (ungroup digits)
            some (if negative then -magnitude else magnitude)
        | _ => none
      else none

def float? (sign : Option Bool) (text : List Char) : Option Value := do
  let (whole, rest) ← splitDigitPart? text
  let (fraction, rest) ← fraction? rest
  let exponent ← exponent? rest
  if whole.head? = some '0' ∧ (ungroup whole).length ≠ 1 then none
  else if !isGrouped Char.isDigit text then none
  else
    let digits := ungroup (whole ++ fraction)
    let shift := exponent - (ungroup fraction).length
    match Binary.ofScientific .double (sign == some true) (inBase 10 digits) shift with
    | some value => some (.float (.finite value))
    | none => some (.float .outOfRange)

end CommandConsole.Toml
