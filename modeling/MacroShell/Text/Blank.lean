/-! # Blank characters

The characters that separate words and that trimming removes: the Unicode property
`White_Space`. The zero-width characters and the separators U+001C to U+001F are not blank.
-/

namespace MacroShell.Text

def isBlank (c : Char) : Bool :=
  let n := c.toNat
  (0x09 ≤ n && n ≤ 0x0D) || n == 0x20 || n == 0x85 || n == 0xA0 || n == 0x1680 ||
    (0x2000 ≤ n && n ≤ 0x200A) || n == 0x2028 || n == 0x2029 || n == 0x202F || n == 0x205F ||
    n == 0x3000

def dropBlankStart (cs : List Char) : List Char := cs.dropWhile isBlank

def dropBlankEnd (cs : List Char) : List Char := (cs.reverse.dropWhile isBlank).reverse

/-- Removes the blanks at the end. -/
def trimEnd (s : String) : String := String.ofList (dropBlankEnd s.toList)

/-- Removes the blanks at both ends. -/
def trim (s : String) : String := String.ofList (dropBlankEnd (dropBlankStart s.toList))

/-- Holds of a text without a character that is not blank. -/
def isBlankLine (s : String) : Bool := s.toList.all isBlank

end MacroShell.Text
