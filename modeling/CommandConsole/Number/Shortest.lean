import CommandConsole.Number.Binary
import CommandConsole.Number.Positional

/-! # The shortest decimal that reads back

A binary number is written with the fewest significant digits that still round to it, in
positional notation whatever its size, without a point if it is whole. Of two decimals of that
length the nearer one is taken, and of two equally near ones the larger.

Every number of a format is an exact decimal with one place more than the format has unit bits, so
the whole search is arithmetic on natural numbers.
-/

namespace CommandConsole.Binary

variable {f : Format}

/-- The interval of the reals that round to a number, around that number. Its ends round to the
number iff it is `closed`. -/
structure Interval where
  low : Nat
  centre : Nat
  high : Nat
  closed : Bool

namespace Interval

def contains (i : Interval) (x : Nat) : Bool :=
  if i.closed then i.low ≤ x && x ≤ i.high else i.low < x && x < i.high

/-- Of the two multiples of `step` around the centre, the one that rounds to it; if both do, the
nearer one, and above the centre where they are equally near. -/
def onGrid? (i : Interval) (step : Nat) : Option Nat :=
  let below := i.centre / step * step
  let above := below + step
  if i.contains below && (!i.contains above || i.centre - below < above - i.centre) then some below
  else if i.contains above then some above
  else none

/-- The point of the interval on the coarsest grid of powers of ten up to `10 ^ k`. -/
def shortest (i : Interval) : Nat → Nat
  | 0 => i.centre
  | k + 1 => (i.onGrid? (Nat.pow 10 (k + 1))).getD (i.shortest k)

end Interval

def places (f : Format) : Nat := f.unitPlaces + 1

/-- The interval that rounds to a positive number: from halfway to the number below up to halfway
to the number above, its ends included iff the last bit is zero. -/
def interval (x : Binary f) : Interval :=
  let scale := Nat.pow 5 (places f)
  let units := f.units x.magnitude
  { low := (f.units (x.magnitude - 1) + units) * scale
    centre := 2 * units * scale
    high := (units + f.units (x.magnitude + 1)) * scale
    closed := x.magnitude % 2 == 0 }

def magnitudeText (x : Binary f) : List Char :=
  if x.magnitude = 0 then ['0']
  else
    let i := x.interval
    Positional.trimmed (places f) (i.shortest ((Nat.toDigits 10 i.centre).length - 1))

def text (x : Binary f) : String :=
  String.ofList (Positional.signed x.negative x.magnitudeText)

end CommandConsole.Binary

namespace CommandConsole.Rounded

def text {f : Format} : Rounded f → String
  | .finite value => value.text
  | .infinite negative => String.ofList (Positional.signed negative ['i', 'n', 'f'])

end CommandConsole.Rounded
