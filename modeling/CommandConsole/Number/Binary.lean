import CommandConsole.Number.Rounding

/-! # Binary floating point

Finite floating point numbers of the interchange formats. A number is a sign and a magnitude, the
magnitude being the bit pattern below the sign bit: magnitudes are ordered like the numbers they
stand for, and the first pattern that stands for no finite number is `Format.infinity`.

All arithmetic is exact arithmetic on multiples of the least positive number of the format (its
unit), followed by one rounding, `Format.nearest`.
-/

namespace CommandConsole

/-- An interchange format: how many bits hold the fraction and how many the exponent. -/
structure Format where
  fractionBits : Nat
  exponentBits : Nat
deriving DecidableEq

namespace Format

def single : Format := ⟨23, 8⟩

def double : Format := ⟨52, 11⟩

def width (f : Format) : Nat := f.fractionBits + f.exponentBits + 1

/-- Every finite number lies below two to this power. -/
def overflowExponent (f : Format) : Nat := Nat.pow 2 (f.exponentBits - 1)

/-- The unit of the format is one over two to this power. -/
def unitPlaces (f : Format) : Nat := f.overflowExponent - 2 + f.fractionBits

/-- The pattern of infinity: all exponent bits set. -/
def infinity (f : Format) : Nat := (Nat.pow 2 f.exponentBits - 1) * Nat.pow 2 f.fractionBits

/-- The number that `magnitude` stands for, in units: the fraction alone where the exponent is
zero, else the fraction with its hidden bit, shifted by one less than the exponent. -/
def units (f : Format) (magnitude : Nat) : Nat :=
  let hidden := Nat.pow 2 f.fractionBits
  let exponent := magnitude / hidden
  let fraction := magnitude % hidden
  if exponent = 0 then fraction else (hidden + fraction) * Nat.pow 2 (exponent - 1)

/-- The magnitude nearest to `num / den` units, a half going to the even magnitude. With `shift`
low bits given up, the quotient keeps one bit more than the fraction has; a carry out of these
bits moves into the exponent by itself. The result may be `infinity` or above. -/
def nearest (f : Format) (num den : Nat) : Nat :=
  let shift := Nat.log2 (num / den) - f.fractionBits
  shift * Nat.pow 2 f.fractionBits + roundHalfEven num (den * Nat.pow 2 shift)

end Format

/-- A finite number of the format `f`; zero has both signs. -/
structure Binary (f : Format) where
  negative : Bool
  magnitude : Nat
  magnitude_lt : magnitude < f.infinity
deriving DecidableEq

/-- What an operation gives: a finite number, or an infinity where that would be too large. -/
inductive Rounded (f : Format) where
  | finite (value : Binary f)
  | infinite (negative : Bool)

namespace Binary

variable {f : Format}

def round (f : Format) (negative : Bool) (num den : Nat) : Rounded f :=
  if h : f.nearest num den < f.infinity then .finite ⟨negative, f.nearest num den, h⟩
  else .infinite negative

def bits (x : Binary f) : Nat :=
  (if x.negative then Nat.pow 2 (f.width - 1) else 0) + x.magnitude

def signedUnits (x : Binary f) : Int :=
  if x.negative then -(f.units x.magnitude : Int) else f.units x.magnitude

/-- The rounded sum. A sum of zero is negative only if both operands are. -/
def add (x y : Binary f) : Rounded f :=
  let sum := x.signedUnits + y.signedUnits
  round f (if sum = 0 then x.negative && y.negative else decide (sum < 0)) sum.natAbs 1

/-- The number nearest to `digits * 10 ^ exponent`, or `none` where that is too large. The first
two tests settle the exponents whose powers of ten need not be computed: from two to the
`overflowExponent` on nothing is finite, and below half a unit everything is zero. -/
def ofScientific (f : Format) (negative : Bool) (digits : Nat) (exponent : Int) :
    Option (Binary f) :=
  let rounded :=
    if digits = 0 ∨ exponent + Nat.log2 digits + f.unitPlaces + 2 ≤ 0 then round f negative 0 1
    else if f.overflowExponent ≤ exponent then .infinite negative
    else round f negative (digits * Nat.pow 10 exponent.toNat * Nat.pow 2 f.unitPlaces)
      (Nat.pow 10 (-exponent).toNat)
  match rounded with
  | .finite value => some value
  | .infinite _ => none

end Binary

end CommandConsole
