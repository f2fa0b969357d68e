import CommandConsole.Toml.Scalar

/-! # TOML strings and keys

Strings in double quotes have escapes and strings in single quotes have none; either kind may run
over several lines between three quotes. A key is a bare word or a string on one line.
-/

namespace CommandConsole.Toml

def isControl (c : Char) : Bool := (c.toNat < 0x20 && c != '\t') || c.toNat == 0x7f

def escaped? (c : Char) : Option Char :=
  match c with
  | 'b' => some '\x08'
  | 't' => some '\t'
  | 'n' => some '\n'
  | 'f' => some '\x0c'
  | 'r' => some '\r'
  | 'e' => some '\x1b'
  | '"' => some '"'
  | '\\' => some '\\'
  | _ => none

def codePointDigits? (c : Char) : Option Nat :=
  match c with
  | 'x' => some 2
  | 'u' => some 4
  | 'U' => some 8
  | _ => none

def scalarChar? (n : Nat) : Option Char :=
  if h : n.isValidChar then some (Char.ofNatAux n h) else none

inductive StringState where
  | plain
  /-- After a backslash. -/
  | escape
  /-- In a code point, with digits left to come. -/
  | codePoint (left value : Nat)
  /-- Behind a backslash at the end of a line; `passed` once the line has ended. -/
  | continued (passed : Bool)
deriving DecidableEq

def prepend (c : Char) (read : Option (List Char × List Char)) : Option (List Char × List Char) :=
  read.map fun (text, rest) => (c :: text, rest)

/-- What comes after three quotes that close a string: up to two more quotes belong to the string,
and the rest does not. -/
def closing (quote : Char) : List Char → List Char × List Char
  | a :: b :: rest =>
      if a = quote then if b = quote then ([quote, quote], rest) else ([quote], b :: rest)
      else ([], a :: b :: rest)
  | [a] => if a = quote then ([quote], []) else ([], [a])
  | [] => ([], [])

def closes (quote : Char) : List Char → Bool
  | a :: b :: _ => a == quote && b == quote
  | _ => false

/-- Reads a string in double quotes up to its end, `long` if three quotes close it. -/
def readBasic (long : Bool) : StringState → List Char → Option (List Char × List Char)
  | _, [] => none
  | state, c :: rest =>
      let isBlank := c == ' ' || c == '\t' || c == '\n' || (c == '\r' && rest.head? == some '\n')
      match if state = .continued true ∧ !isBlank then .plain else state with
      | .plain =>
          if c = '\\' then readBasic long .escape rest
          else if c = '"' then
            if !long then some ([], rest)
            else if closes '"' rest then some (closing '"' (rest.drop 2))
            else prepend c (readBasic long .plain rest)
          else if c = '\n' ∨ (c = '\r' ∧ rest.head? = some '\n') then
            if long then prepend c (readBasic long .plain rest) else none
          else if isControl c then none
          else prepend c (readBasic long .plain rest)
      | .escape =>
          match escaped? c, codePointDigits? c with
          | some d, _ => prepend d (readBasic long .plain rest)
          | none, some count => readBasic long (.codePoint count 0) rest
          | none, none =>
              if long && isBlank then readBasic long (.continued (c == '\n')) rest else none
      | .codePoint left value =>
          match hexValue? c with
          | none => none
          | some digit =>
              let value := 16 * value + digit
              if left = 1 then
                match scalarChar? value with
                | none => none
                | some d => prepend d (readBasic long .plain rest)
              else readBasic long (.codePoint (left - 1) value) rest
      | .continued passed =>
          if isBlank then readBasic long (.continued (passed || c == '\n')) rest else none

/-- Reads a string in single quotes up to its end, `long` if three quotes close it. -/
def readLiteral (long : Bool) : List Char → Option (List Char × List Char)
  | [] => none
  | c :: rest =>
      if c = '\'' then
        if !long then some ([], rest)
        else if closes '\'' rest then some (closing '\'' (rest.drop 2))
        else prepend c (readLiteral long rest)
      else if c = '\n' ∨ (c = '\r' ∧ rest.head? = some '\n') then
        if long then prepend c (readLiteral long rest) else none
      else if isControl c then none
      else prepend c (readLiteral long rest)

/-- A long string does not hold the line break that follows its opening quotes. -/
def dropFirstBreak : List Char → List Char
  | '\n' :: rest => rest
  | '\r' :: '\n' :: rest => rest
  | text => text

def readString? : List Char → Option (List Char × List Char)
  | '"' :: '"' :: '"' :: rest => readBasic true .plain (dropFirstBreak rest)
  | '"' :: rest => readBasic false .plain rest
  | '\'' :: '\'' :: '\'' :: rest => readLiteral true (dropFirstBreak rest)
  | '\'' :: rest => readLiteral false rest
  | _ => none

def isBareKeyChar (c : Char) : Bool := c.isAlphanum || c == '_' || c == '-'

def skipBlanks (text : List Char) : List Char := text.dropWhile fun c => c == ' ' || c == '\t'

def readKey? : List Char → Option (String × List Char)
  | '"' :: rest => (readBasic false .plain rest).map fun (key, rest) => (String.ofList key, rest)
  | '\'' :: rest => (readLiteral false rest).map fun (key, rest) => (String.ofList key, rest)
  | text =>
      let key := text.takeWhile isBareKeyChar
      if key = [] then none else some (String.ofList key, text.dropWhile isBareKeyChar)

def maxKeyParts : Nat := 80

/-- Reads a key of at most `parts` parts: the parts before the last one, the last one, and what
follows the key. -/
def readKeyPath? : (parts : Nat) → List Char → Option (List String × String × List Char)
  | 0, _ => none
  | parts + 1, text => do
      let (key, rest) ← readKey? (skipBlanks text)
      match skipBlanks rest with
      | '.' :: rest =>
          let (path, last, rest) ← readKeyPath? parts rest
          some (key :: path, last, rest)
      | rest => some ([], key, rest)

end CommandConsole.Toml
