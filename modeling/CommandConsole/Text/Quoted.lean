import CommandConsole.Text.Printable

/-! # Quoted text

The form in which reports show a text: between double quotes, with escapes for the quote, the
backslash and every character that cannot be seen. The apostrophe stands for itself.
-/

namespace CommandConsole.Text

/-- The hexadecimal code point between braces, in small letters and without padding. -/
def codePointEscape (c : Char) : List Char :=
  '\\' :: 'u' :: '\x7b' :: Nat.toDigits 16 c.toNat ++ ['\x7d']

def quotedChar (c : Char) : List Char :=
  if c = '\x00' then ['\\', '0']
  else if c = '\t' then ['\\', 't']
  else if c = '\r' then ['\\', 'r']
  else if c = '\n' then ['\\', 'n']
  else if c = '"' then ['\\', '"']
  else if c = '\\' then ['\\', '\\']
  else if isPrintable c then [c]
  else codePointEscape c

def quoted (s : String) : String :=
  String.ofList ('"' :: s.toList.flatMap quotedChar ++ ['"'])

end CommandConsole.Text
