import MacroShell.Text.Blank

/-! # Words

A line is a sequence of words. The space ends a word, except between a pair of double quotes; a
quote that has no partner to its right is an ordinary character. Other blanks are skipped in front
of a word and belong to it afterwards. A word that starts and ends with a quote stands for what is
between the two.
-/

namespace MacroShell.Words

open MacroShell.Text

/-- Splits into words with their quotes. `inside` tells whether the position lies between a pair
of quotes, and `reversed` holds the characters of the current word, last one first. -/
def splitFrom (inside : Bool) (reversed : List Char) : List Char → List (List Char)
  | [] => if reversed.isEmpty then [] else [reversed.reverse]
  | c :: rest =>
    if c = '"' ∧ inside then splitFrom false (c :: reversed) rest
    else if c = '"' ∧ '"' ∈ rest then splitFrom true (c :: reversed) rest
    else if c = ' ' ∧ !inside then
      if reversed.isEmpty then splitFrom false [] rest
      else reversed.reverse :: splitFrom false [] rest
    else if isBlank c ∧ !inside ∧ reversed.isEmpty then splitFrom false [] rest
    else splitFrom inside (c :: reversed) rest

/-- The words of a line, with their quotes. -/
def splitQuoted (cs : List Char) : List (List Char) := splitFrom false [] cs

/-- Removes a pair of quotes around a word. -/
def unwrap : List Char → List Char
  | '"' :: rest => if rest.getLast? = some '"' then rest.dropLast else '"' :: rest
  | word => word

/-- The words of a line. -/
def split (line : String) : List String :=
  (splitQuoted line.toList).map fun word => String.ofList (unwrap word)

/-- A word as it is written in a line: between quotes if it is empty or contains a space. -/
def quoteChars (word : List Char) : List Char :=
  if word.isEmpty ∨ ' ' ∈ word then ['"'] ++ word ++ ['"'] else word

def quote (word : String) : String := String.ofList (quoteChars word.toList)

/-- The words of a line, written one after the other with a space between them. -/
def joinChars (words : List (List Char)) : List Char :=
  dropBlankEnd ([' '].intercalate (words.map quoteChars))

def join (words : List String) : String := String.ofList (joinChars (words.map String.toList))

end MacroShell.Words
