import CommandConsole.Number.Literal
import CommandConsole.Number.Shortest

/-! # Numbers

A number is held in one of three precisions. Which one is a choice for the whole console, so
every number carries the precision it was read in.
-/

namespace CommandConsole

inductive Precision where
  | single
  | double
  | decimal
deriving DecidableEq, Inhabited

namespace Precision

def name : Precision → String
  | .single => "single"
  | .double => "double"
  | .decimal => "decimal"

def all : List Precision := [.single, .double, .decimal]

def ofName? (name : String) : Option Precision := all.find? (·.name == name)

end Precision

inductive Number where
  | single (value : Binary .single)
  | double (value : Binary .double)
  | decimal (value : Decimal)
deriving DecidableEq

namespace Number

def precision : Number → Precision
  | .single _ => .single
  | .double _ => .double
  | .decimal _ => .decimal

def text : Number → String
  | .single value => value.text
  | .double value => value.text
  | .decimal value => value.text

/-- A literal with a digit on both sides of its point: one point at the end is dropped, and a zero
is put before a point at the start. A minus sign stays in front. -/
def normalize (literal : List Char) : List Char :=
  let (negative, body) := match literal with
    | '-' :: rest => (true, rest)
    | _ => (false, literal)
  let closed := if body.getLast? = some '.' then body.dropLast else body
  Positional.signed negative (if closed.head? = some '.' then '0' :: closed else closed)

/-- Reads a literal in the given precision. `none` where the literal is malformed or its value is
out of range. -/
def read? (precision : Precision) (literal : List Char) : Option Number :=
  match precision with
  | .single => (Binary.read? .single (normalize literal)).map .single
  | .double => (Binary.read? .double (normalize literal)).map .double
  | .decimal => (Decimal.read? (normalize literal)).map .decimal

end Number

end CommandConsole
