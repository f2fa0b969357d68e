/-! # Positional notation

A natural number `n` and a count of `places` stand for `n / 10 ^ places`. Two spellings: with
exactly that many fraction digits, and with no zero at the end of the fraction.
-/

namespace CommandConsole.Positional

/-- The decimal digits of `n`, filled up with leading zeros to at least `width` digits. -/
def digits (width n : Nat) : List Char :=
  List.replicate (width - (Nat.toDigits 10 n).length) '0' ++ Nat.toDigits 10 n

/-- `n / 10 ^ places` with exactly `places` fraction digits and at least one whole digit. -/
def fixed (places n : Nat) : List Char :=
  let all := digits (places + 1) n
  let whole := all.take (all.length - places)
  if places = 0 then whole else whole ++ '.' :: all.drop (all.length - places)

/-- `n / 10 ^ places` without zeros at the end of the fraction. -/
def trimmed : (places n : Nat) → List Char
  | 0, n => fixed 0 n
  | places + 1, n => if n % 10 = 0 then trimmed places (n / 10) else fixed (places + 1) n

def signed (negative : Bool) (magnitude : List Char) : List Char :=
  if negative then '-' :: magnitude else magnitude

end CommandConsole.Positional
