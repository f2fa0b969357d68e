import CommandConsole.Number.Literal

/-! # TOML dates and times

A date, a time of day, or both, with an offset from universal time or without. Only their form
matters here: the days of the month are counted, and leap seconds are allowed.
-/

namespace CommandConsole.Toml

/-- The number that the next `count` characters spell, all of them digits, if it is at most
`largest`. -/
def fixedNumber? (count largest : Nat) (text : List Char) : Option (Nat × List Char) :=
  if (text.take count).length = count then
    ((readDigits? (text.take count)).filter (· ≤ largest)).map (·, text.drop count)
  else none

def expect? (c : Char) : List Char → Option (List Char)
  | [] => none
  | d :: rest => if d = c then some rest else none

def daysIn (year month : Nat) : Nat :=
  if month = 2 then
    if year % 4 = 0 ∧ (year % 100 ≠ 0 ∨ year % 400 = 0) then 29 else 28
  else if month ∈ [4, 6, 9, 11] then 30
  else 31

def afterDate? (text : List Char) : Option (List Char) := do
  let (year, rest) ← fixedNumber? 4 9999 text
  let (month, rest) ← expect? '-' rest >>= fixedNumber? 2 12
  let (day, rest) ← expect? '-' rest >>= fixedNumber? 2 (daysIn year month)
  if month = 0 ∨ day = 0 then none else some rest

def afterFraction? : List Char → Option (List Char)
  | '.' :: rest => if rest.head?.any Char.isDigit then some (rest.dropWhile Char.isDigit) else none
  | text => some text

/-- Passes over a time of day. Seconds may be left out; a leap second is allowed. -/
def afterTime? (text : List Char) : Option (List Char) := do
  let (_, rest) ← fixedNumber? 2 23 text
  let (_, rest) ← expect? ':' rest >>= fixedNumber? 2 59
  match rest with
  | ':' :: rest =>
      let (_, rest) ← fixedNumber? 2 60 rest
      afterFraction? rest
  | _ => some rest

def afterOffset? (text : List Char) : Option (List Char) :=
  match text with
  | [] => some []
  | c :: rest =>
      if c = 'Z' ∨ c = 'z' then some rest
      else if c = '+' ∨ c = '-' then do
        let (_, rest) ← fixedNumber? 2 23 rest
        let (_, rest) ← expect? ':' rest >>= fixedNumber? 2 59
        some rest
      else some text

def isDatetime (text : List Char) : Bool :=
  let rest := match afterDate? text with
    | none => afterTime? text
    | some [] => some []
    | some (c :: rest) =>
        if c = 'T' ∨ c = 't' ∨ c = ' ' then afterTime? rest >>= afterOffset? else none
  rest == some []

end CommandConsole.Toml
