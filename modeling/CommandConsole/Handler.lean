import CommandConsole.CommandLine
import CommandConsole.Parameter

/-! # Handlers

What a command does to its host. A host is any type `σ` of states: a handler is a function that
changes it. A typed handler takes one argument for each type in its signature and is called only
when all of them convert; a raw handler takes the whole command line as it was read.

The types of a signature are those of the console and any that the host adds by giving a
conversion of its own.
-/

namespace CommandConsole

/-! ## Types of arguments -/

namespace ValueType

def Carrier : ValueType → Type
  | .string => String
  | .bool => Bool
  | .single => Binary .single
  | .double => Binary .double
  | .decimal => Decimal

def convert? : (type : ValueType) → Value → Option type.Carrier
  | .string, .string text | .string, .identifier text => some text
  | .bool, .bool value => some value
  | .single, .number (.single value) => some value
  | .double, .number (.double value) => some value
  | .decimal, .number (.decimal value) => some value
  | _, _ => none

/-- What stands for a missing value: the empty string, false or zero. -/
def default : (type : ValueType) → type.Carrier
  | .string => ""
  | .bool => false
  | .single => (⟨false, 0, by decide⟩ : Binary .single)
  | .double => (⟨false, 0, by decide⟩ : Binary .double)
  | .decimal => Decimal.zero

end ValueType

/-- A type that a parameter of a handler may have: how it is declared, and how the content of its
slot is converted, an empty slot included. -/
structure ParameterType where
  Carrier : Type
  spec : TypeSpec
  convert : Option Value → Option Carrier

namespace ParameterType

/-- A type of the console. An empty slot gives its default. -/
def plain (type : ValueType) : ParameterType where
  Carrier := type.Carrier
  spec := ⟨type, false⟩
  convert
    | some value => type.convert? value
    | none => some type.default

/-- The nullable form of a type of the console. An empty slot gives `none`. -/
def nullable (type : ValueType) : ParameterType where
  Carrier := Option type.Carrier
  spec := ⟨type, true⟩
  convert
    | some value => (type.convert? value).map some
    | none => some none

def ofSpec (spec : TypeSpec) : ParameterType :=
  if spec.nullable then nullable spec.type else plain spec.type

end ParameterType

def Arguments : List ParameterType → Type
  | [] => Unit
  | type :: rest => type.Carrier × Arguments rest

structure BindingError where
  index : Nat
  expected : Category
  supplied : Category
deriving DecidableEq

/-- Converts slots to arguments, from the slot number `index` on. A slot that is not there is
empty, and slots beyond the signature are ignored. -/
def Arguments.ofSlots (index : Nat) :
    (signature : List ParameterType) → List (Option Value) →
      Except BindingError (Arguments signature)
  | [], _ => .ok ()
  | type :: rest, slots =>
      let slot := slots.head?.join
      match type.convert slot with
      | none =>
          .error ⟨index, type.spec.type.category, (slot.map Value.category).getD .unknown⟩
      | some argument =>
          match ofSlots (index + 1) rest slots.tail with
          | .error error => .error error
          | .ok arguments => .ok (argument, arguments)

/-! ## Handlers -/

inductive Handler (σ : Type) where
  | typed (signature : List ParameterType) (run : Arguments signature → σ → σ)
  | raw (run : CommandLine → σ → σ)

inductive HandlerKind where
  | noArguments
  | typed (arity : Nat)
  | raw
deriving DecidableEq

inductive Invocation (σ : Type) where
  | typed (signature : List ParameterType) (run : Arguments signature → σ → σ)
      (arguments : Arguments signature)
  | raw (run : CommandLine → σ → σ) (line : CommandLine)

namespace Handler

def kind {σ : Type} : Handler σ → HandlerKind
  | .typed [] _ => .noArguments
  | .typed signature _ => .typed signature.length
  | .raw _ => .raw

end Handler

def Invocation.perform {σ : Type} : Invocation σ → σ → σ
  | .typed _ run arguments => run arguments
  | .raw run line => run line

namespace Handler

variable {σ : Type} {signature : List ParameterType}

/-- What a typed handler is called with. All slots are converted before it is called. -/
def invocation (run : Arguments signature → σ → σ) (slots : List (Option Value)) :
    Except BindingError (Invocation σ) :=
  (Arguments.ofSlots 0 signature slots).map (.typed signature run)

/-- Calls a typed handler with slots: whether it ran, and the host afterwards. -/
def call (run : Arguments signature → σ → σ) (slots : List (Option Value)) (host : σ) :
    Except BindingError Unit × σ :=
  match invocation run slots with
  | .error error => (.error error, host)
  | .ok invocation => (.ok (), invocation.perform host)

end Handler

end CommandConsole
