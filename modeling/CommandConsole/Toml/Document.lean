import CommandConsole.Toml.Quoted

/-! # TOML documents

A document is a sequence of lines: entries of the table that the last header opened, headers, and
lines that are blank but for a comment. Values in brackets and braces run over several lines: line
breaks and comments may stand between any two of their parts, but not within a key.

Readers that call themselves have a budget. Every call takes at least one character, or is the
second one at its place, so twice the length of a text is enough for it.
-/

namespace CommandConsole.Toml

def afterComment? : List Char → Option (List Char)
  | [] => some []
  | c :: rest =>
      if c = '\n' then some rest
      else if c = '\r' ∧ rest.head? = some '\n' then some rest.tail
      else if isControl c then none
      else afterComment? rest

def afterLine? (text : List Char) : Option (List Char) :=
  match skipBlanks text with
  | [] => some []
  | '\n' :: rest => some rest
  | '\r' :: '\n' :: rest => some rest
  | '#' :: rest => afterComment? rest
  | _ => none

/-- Passes over blanks, line breaks and comments between the parts of a value. -/
def skipTrivia? (inComment : Bool) : List Char → Option (List Char)
  | [] => some []
  | c :: rest =>
      if c = '\n' then skipTrivia? false rest
      else if c = '\r' ∧ rest.head? = some '\n' then skipTrivia? inComment rest
      else if inComment then if isControl c then none else skipTrivia? true rest
      else if c = '#' then skipTrivia? true rest
      else if c = ' ' ∨ c = '\t' then skipTrivia? false rest
      else some (c :: rest)

def maxDepth : Nat := 80

mutual

def readValue? (budget depth : Nat) (text : List Char) : Option (Value × List Char) :=
  match budget with
  | 0 => none
  | budget + 1 =>
      match text with
      | [] => none
      | c :: rest =>
          if c = '"' ∨ c = '\'' then
            (readString? text).map fun (content, rest) => (.string (String.ofList content), rest)
          else if c = '[' then
            if maxDepth ≤ depth then none
            else (skipTrivia? false rest).bind (readItems? budget (depth + 1) [])
          else if c = '\x7b' then
            if maxDepth ≤ depth then none
            else (skipTrivia? false rest).bind (readEntries? budget (depth + 1) (.table .header []))
          else
            let (run, rest) := scalarRun text
            (scalar? run).map (·, rest)

/-- Reads the items of an array from the start of an item or the closing bracket on. -/
def readItems? (budget depth : Nat) (items : List Value) (text : List Char) :
    Option (Value × List Char) :=
  match budget with
  | 0 => none
  | budget + 1 =>
      match text with
      | ']' :: rest => some (.array false items, rest)
      | _ => do
          let (item, rest) ← readValue? budget depth text
          match ← skipTrivia? false rest with
          | ',' :: rest =>
              let rest ← skipTrivia? false rest
              readItems? budget depth (items ++ [item]) rest
          | ']' :: rest => some (.array false (items ++ [item]), rest)
          | _ => none

/-- Reads the entries of a table in braces from the start of an entry or the closing brace on. -/
def readEntries? (budget depth : Nat) (table : Value) (text : List Char) :
    Option (Value × List Char) :=
  match budget with
  | 0 => none
  | budget + 1 =>
      match text with
      | '\x7d' :: rest => some (close table, rest)
      | _ => do
          let (path, key, rest) ← readKeyPath? maxKeyParts text
          let rest ← skipTrivia? false rest >>= expect? '=' >>= skipTrivia? false
          let (value, rest) ← readValue? budget depth rest
          let table ← table.insert path key value
          match ← skipTrivia? false rest with
          | ',' :: rest =>
              let rest ← skipTrivia? false rest
              readEntries? budget depth table rest
          | '\x7d' :: rest => some (close table, rest)
          | _ => none
where
  /-- The table as a value to which nothing can be added. -/
  close : Value → Value
    | .table _ entries => .table .closed entries
    | value => value

end

def readLines? (budget : Nat) (header : List String) (root : Value) (text : List Char) :
    Option Value :=
  match budget with
  | 0 => none
  | budget + 1 =>
      match skipBlanks text with
      | [] => some root
      | '[' :: '[' :: rest => do
          let (path, key, rest) ← readKeyPath? maxKeyParts rest
          let rest ← expect? ']' rest >>= expect? ']' >>= afterLine?
          let root ← root.openItem path key
          readLines? budget (path ++ [key]) root rest
      | '[' :: rest => do
          let (path, key, rest) ← readKeyPath? maxKeyParts rest
          let rest ← expect? ']' rest >>= afterLine?
          let root ← root.openTable path key
          readLines? budget (path ++ [key]) root rest
      | text =>
          match afterLine? text with
          | some rest => readLines? budget header root rest
          | none => do
              let (path, key, rest) ← readKeyPath? maxKeyParts text
              let rest ← expect? '=' rest
              let (value, rest) ← readValue? (2 * rest.length) 0 (skipBlanks rest)
              let rest ← afterLine? rest
              let root ← root.update .implied (·.insert path key value) header
              readLines? budget header root rest

/-- The table that a document spells. A byte order mark at its start is passed over. -/
def readDocument? (text : String) : Option Value :=
  let body := match text.toList with
    | '\ufeff' :: rest => rest
    | chars => chars
  readLines? (body.length + 1) [] (.table .header []) body

end CommandConsole.Toml
