import CommandConsole.Text.Alphabetic
import CommandConsole.Text.Lowercase
import CommandConsole.Text.Numeric
import CommandConsole.Text.Recent

/-! # Names

A line may call a command by any letters and digits of any script and underscores. A command and its
aliases are named by those of them that Unicode has had since version 16. Two names are compared as
they are or by their lower case, as the console is set up.
-/

namespace CommandConsole

/-- Whether `c` may occur in a bare word of a line. -/
def isNameChar (c : Char) : Bool := Text.isAlphabetic c || Text.isNumeric c || c == '_'

/-- Whether `c` may occur in the name of a command. -/
def isLastingNameChar (c : Char) : Bool := isNameChar c && !Text.isRecent c

/-- Whether `s` can name a command: at least one character, none of them recent. -/
def isName (s : String) : Bool := !s.toList.isEmpty && s.toList.all isLastingNameChar

inductive CaseRule where
  | sensitive
  | insensitive
deriving DecidableEq, Inhabited

def CaseRule.same : CaseRule → (a b : String) → Bool
  | .sensitive, a, b => a == b
  | .insensitive, a, b => Text.lowercase a.toList == Text.lowercase b.toList

end CommandConsole
