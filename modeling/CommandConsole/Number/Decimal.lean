import CommandConsole.Number.Positional
import CommandConsole.Number.Rounding

/-! # Fixed point decimals

Decimals with a mantissa of 96 bits and up to 28 places. The scale is part of the number: `1.50`
and `1.5` are two decimals, and the text of a decimal shows its scale. A zero is written without a
sign and has none; only a negative number that is rounded away to nothing leaves a zero with a
minus.
-/

namespace CommandConsole

namespace Decimal

def mantissaBound : Nat := Nat.pow 2 96

def maxScale : Nat := 28

end Decimal

/-- The decimal `± mantissa / 10 ^ scale`. -/
structure Decimal where
  negative : Bool
  mantissa : Nat
  scale : Nat
  mantissa_lt : mantissa < Decimal.mantissaBound
  scale_le : scale ≤ Decimal.maxScale
deriving DecidableEq

namespace Decimal

/-- The decimal with these parts, if they are within bounds; a zero drops its sign. -/
def ofParts? (negative : Bool) (mantissa scale : Nat) : Option Decimal :=
  if h : mantissa < mantissaBound ∧ scale ≤ maxScale then
    some ⟨negative && mantissa != 0, mantissa, scale, h.1, h.2⟩
  else none

def zero : Decimal := ⟨false, 0, 0, by decide, by decide⟩

/-- The text of a decimal, with as many fraction digits as its scale says. -/
def text (x : Decimal) : String :=
  String.ofList (Positional.signed x.negative (Positional.fixed x.scale x.mantissa))

def shifted (x : Decimal) (places : Nat) : Int :=
  let mantissa := x.mantissa * Nat.pow 10 places
  if x.negative then -(mantissa : Int) else mantissa

/-- The mantissa and the scale closest to `exact / 10 ^ (dropped + scale)` with at most `scale`
places: places are given up one by one until the mantissa is within bounds, and the exact
mantissa is rounded once, a half to the even neighbour. -/
def fit (exact dropped : Nat) : (scale : Nat) → Option (Nat × Nat)
  | 0 =>
      let mantissa := roundHalfEven exact (Nat.pow 10 dropped)
      if mantissa < mantissaBound then some (mantissa, 0) else none
  | scale + 1 =>
      let mantissa := roundHalfEven exact (Nat.pow 10 dropped)
      if mantissa < mantissaBound then some (mantissa, scale + 1)
      else fit exact (dropped + 1) scale

/-- The sum, or `none` where it is out of bounds. A zero gives the other operand as it is;
otherwise the sum has the larger scale of the two, or less where its mantissa needs it. -/
def add? (x y : Decimal) : Option Decimal :=
  if x.mantissa = 0 then some y
  else if y.mantissa = 0 then some x
  else
    let scale := max x.scale y.scale
    let sum := x.shifted (scale - x.scale) + y.shifted (scale - y.scale)
    (fit sum.natAbs 0 scale).bind fun (mantissa, places) =>
      ofParts? (decide (sum < 0)) mantissa places

end Decimal

end CommandConsole
