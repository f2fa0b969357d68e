import CommandConsole.Number.Binary
import CommandConsole.Number.Decimal

/-! # Reading numbers

The spellings that a binary number and a decimal number may have. They differ: a binary number has
no separators and is rounded to the nearest number however long it is; a decimal takes its digits
one by one, keeps its trailing zeros, and allows `_` after the first digit.
-/

namespace CommandConsole

/-- Splits off a sign: `true` for a minus; a plus is dropped. -/
def readSign : List Char → Bool × List Char
  | '-' :: rest => (true, rest)
  | '+' :: rest => (false, rest)
  | text => (false, text)

def readDigits? (text : List Char) : Option Nat :=
  if text ≠ [] ∧ text.all Char.isDigit then some (Nat.ofDigitChars 10 text 0) else none

def isExponentMark (c : Char) : Bool := c == 'e' || c == 'E'

namespace Binary

/-- The exponent that follows the digits: none at all, or a mark, a sign and digits. -/
def readExponent : List Char → Option Int
  | [] => some 0
  | mark :: rest =>
      if isExponentMark mark then
        let (negative, digits) := readSign rest
        (readDigits? digits).map fun n => if negative then -(n : Int) else n
      else none

def splitDigits (text : List Char) : List Char × List Char :=
  (text.takeWhile Char.isDigit, text.dropWhile Char.isDigit)

def splitFraction : List Char → List Char × List Char
  | '.' :: rest => splitDigits rest
  | text => ([], text)

/-- The number nearest to a literal: a sign, digits with at most one point and at least one digit,
an exponent. `none` where the text is no such literal or no finite number is near. -/
def read? (f : Format) (text : List Char) : Option (Binary f) :=
  let (negative, unsigned) := readSign text
  let (whole, afterWhole) := splitDigits unsigned
  let (fraction, afterFraction) := splitFraction afterWhole
  if whole.isEmpty && fraction.isEmpty then none
  else
    (readExponent afterFraction).bind fun exponent =>
      ofScientific f negative (Nat.ofDigitChars 10 (whole ++ fraction) 0)
        (exponent - fraction.length)

end Binary

/-! ## Decimals -/

namespace Decimal

/-- Rounds a mantissa by the one digit that comes after it, five and up adding one. If that carries
the mantissa out of bounds, one place is given up. -/
def roundOff (digit mantissa scale : Nat) : Option (Nat × Nat) :=
  if digit < 5 then some (mantissa, scale)
  else if mantissa + 1 < mantissaBound then some (mantissa + 1, scale)
  else if scale = 0 then none
  else some ((mantissa + 5) / 10, scale - 1)

def isIgnorable (c : Char) : Bool := c.isDigit || c == '_'

/-- From here on a mantissa no longer takes another digit within 64 bits for certain. -/
def wideMantissa : Nat := (Nat.pow 2 64 - 1) / 10 - 255

/-- Takes the digits one by one. `point` says whether the point was passed, `seen` whether a digit
was. A digit that no longer fits ends the whole part in failure and the fraction in rounding; what
follows it must be digits and separators, and is ignored. A separator in the place of the rounded
digit is passed over once the mantissa is wide, and stands for a zero before. -/
def readMantissa (point seen : Bool) (mantissa scale : Nat) : List Char → Option (Nat × Nat)
  | [] => if seen then some (mantissa, scale) else none
  | c :: rest =>
      if point && scale == maxScale then
        if c.isDigit then
          if rest.all isIgnorable then roundOff (c.toNat - '0'.toNat) mantissa scale else none
        else if c == '_' then
          if wideMantissa ≤ mantissa / 10 then readMantissa point seen mantissa scale rest
          else if rest.all isIgnorable then some (mantissa, scale) else none
        else none
      else if c.isDigit then
        let next := 10 * mantissa + (c.toNat - '0'.toNat)
        if next < mantissaBound then
          readMantissa point true next (if point then scale + 1 else scale) rest
        else if point && rest.all isIgnorable then
          roundOff (c.toNat - '0'.toNat) mantissa scale
        else none
      else if c == '.' then
        if point then none else readMantissa true seen mantissa scale rest
      else if c == '_' && seen then readMantissa point seen mantissa scale rest
      else none

def readPlain? (text : List Char) : Option Decimal :=
  let (negative, unsigned) := readSign text
  (readMantissa false false 0 0 unsigned).bind fun (mantissa, scale) =>
    ofParts? negative mantissa scale

/-- The exponent of a decimal: digits, with a plus sign or not, after a minus sign or not. -/
def readExponent? (text : List Char) : Option (Bool × Nat) :=
  let (negative, rest) := match text with
    | '-' :: rest => (true, rest)
    | _ => (false, text)
  let digits := match rest with
    | '+' :: digits => digits
    | _ => rest
  (readDigits? digits).map (negative, ·)

/-- Moves the point to the right by the exponent: first into the places of the decimal, then by
zeros behind its mantissa, at most 28 places in all. -/
def raise? (x : Decimal) (exponent : Nat) : Option Decimal :=
  if exponent ≤ x.scale then ofParts? x.negative x.mantissa (x.scale - exponent)
  else if exponent ≤ maxScale then
    ofParts? x.negative (x.mantissa * Nat.pow 10 (exponent - x.scale)) 0
  else none

/-- Moves the point to the left, by at most 28 places. Digits beyond the last place are rounded away,
a half up, and the sign stays even if nothing else does. -/
def lower? (x : Decimal) (exponent : Nat) : Option Decimal :=
  if maxScale < exponent then none
  else
    let scale := x.scale + exponent
    let kept := roundHalfUp x.mantissa (Nat.pow 10 (scale - maxScale))
    (ofParts? x.negative kept (min scale maxScale)).map fun y => { y with negative := x.negative }

def read? (text : List Char) : Option Decimal :=
  match text.dropWhile (fun c => !isExponentMark c) with
  | [] => readPlain? text
  | _ :: exponentText =>
      (readPlain? (text.takeWhile fun c => !isExponentMark c)).bind fun x =>
        (readExponent? exponentText).bind fun (negative, exponent) =>
          if negative then x.lower? exponent else x.raise? exponent

end Decimal

end CommandConsole
