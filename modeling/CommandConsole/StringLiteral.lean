/-! # String literals

A string literal stands between double quotes. A backslash in it is written twice, and a line feed
may be written as `\n`; nothing else is escaped.
-/

namespace CommandConsole

inductive StringLiteralError where
  /-- It does not begin and end with a quote of its own. -/
  | malformed (literal : String)
  /-- A backslash in it starts no escape; `sequence` is the backslash and what follows it. -/
  | invalidEscape (literal sequence : String)
deriving DecidableEq

def StringLiteralError.message : StringLiteralError → String
  | .malformed literal => s!"malformed string literal {literal}"
  | .invalidEscape literal sequence =>
      s!"'{sequence}' is not a valid escape sequence in string {literal}"

namespace StringLiteral

def body? : List Char → Option (List Char)
  | [] => none
  | c :: rest => if c = '"' ∧ rest.getLast? = some '"' then some rest.dropLast else none

/-- The text that a body spells, or the first sequence in it that is no escape. -/
def decodeBody : List Char → Except (List Char) (List Char)
  | [] => .ok []
  | c :: rest =>
      if c = '\\' then
        match rest with
        | [] => .error ['\\']
        | e :: rest =>
            if e = '\\' then (decodeBody rest).map ('\\' :: ·)
            else if e = 'n' then (decodeBody rest).map ('\n' :: ·)
            else .error ['\\', e]
      else (decodeBody rest).map (c :: ·)

def decode (literal : String) : Except StringLiteralError String :=
  match body? literal.toList with
  | none => .error (.malformed literal)
  | some body =>
      match decodeBody body with
      | .ok text => .ok (String.ofList text)
      | .error found => .error (.invalidEscape literal (String.ofList found))

end StringLiteral

end CommandConsole
