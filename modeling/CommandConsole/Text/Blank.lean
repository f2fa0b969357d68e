import CommandConsole.Text.CodePoints

/-! # Blank characters

The Unicode property White_Space. It holds the line breaks and the no-break space; it holds neither
the zero width space nor the byte order mark.
-/

namespace CommandConsole.Text

def blankRanges : List (Nat × Nat) :=
  [(0x9, 0xd), (0x20, 0x20), (0x85, 0x85), (0xa0, 0xa0), (0x1680, 0x1680), (0x2000, 0x200a),
   (0x2028, 0x2029), (0x202f, 0x202f), (0x205f, 0x205f), (0x3000, 0x3000)]

def isBlank (c : Char) : Bool := inRanges c.toNat blankRanges

def trimEnd (s : List Char) : List Char := (s.reverse.dropWhile isBlank).reverse

end CommandConsole.Text
