import MacroShell.Slot.Table

/-! # Interpolation

In printed text, `@` and an ASCII letter stand for the text of the register that the letter names,
which is nothing if that register is empty. What is put in is not expanded again.
-/

namespace MacroShell.Interpolation

def expandChars (text : Char → List Char) : List Char → List Char
  | [] => []
  | '@' :: c :: rest =>
    if c.isAlpha then text c ++ expandChars text rest else '@' :: expandChars text (c :: rest)
  | c :: rest => c :: expandChars text rest

/-- The text that `@` and the letter `c` stand for. -/
def registerText (lookup : Slot .register → Option String) (c : Char) : String :=
  ((Slot.ofChar? .register c).bind lookup).getD ""

/-- Expands a text, with `lookup` for what the registers hold. -/
def expandBy (lookup : Slot .register → Option String) (text : String) : String :=
  String.ofList (expandChars (fun c => (registerText lookup c).toList) text.toList)

def expand (registers : SlotTable .register) (text : String) : String :=
  expandBy registers.get? text

end MacroShell.Interpolation
