import MacroShell.Error
import MacroShell.Text.Blank
import MacroShell.Text.Numeral

/-! # Input devices

What a device for keyboard and pointer has to offer, and the values exchanged with it. A device is
any type of states with the operations of `InputDevice`; every operation may fail, and may have
changed the state when it does.
-/

namespace MacroShell

inductive MouseButton where
  | left
  | right
  | middle
deriving DecidableEq, Repr

namespace MouseButton

def name : MouseButton → String
  | left => "Left"
  | right => "Right"
  | middle => "Middle"

def ofIndex? : Nat → Option MouseButton
  | 0 => some left
  | 1 => some right
  | 2 => some middle
  | _ => none

/-- Reads the index of a button, a number of one byte; blanks around it are ignored. -/
def parse (arg : String) : Except ShellError MouseButton :=
  match (Text.natural? 256 (Text.trim arg)).bind ofIndex? with
  | some button => .ok button
  | none => .error (.invalidArgument s!"button must be 0, 1 or 2, got '{arg}'")

end MouseButton

/-- The character that a key produces with shift on a US layout. -/
def shifted (key : Char) : Char :=
  if 'a' ≤ key ∧ key ≤ 'z' then key.toUpper
  else
    match key with
    | '1' => '!'
    | '2' => '@'
    | '3' => '#'
    | '4' => '$'
    | '5' => '%'
    | '6' => '^'
    | '7' => '&'
    | '8' => '*'
    | '9' => '('
    | '0' => ')'
    | '-' => '_'
    | '=' => '+'
    | '[' => '\x7b'
    | ']' => '\x7d'
    | '\\' => '|'
    | ';' => ':'
    | '\x27' => '"'
    | ',' => '<'
    | '.' => '>'
    | '/' => '?'
    | '\x60' => '~'
    | other => other

/-- A press of a physical key. -/
structure KeyPress where
  /-- What the key produces without shift. -/
  key : Char
  shift : Bool
deriving DecidableEq, Repr

/-- The character that a press produces. -/
def KeyPress.char (press : KeyPress) : Char :=
  if press.shift then shifted press.key else press.key

class InputDevice (δ : Type) where
  pressKey : Char → EStateM ShellError δ Unit
  releaseKey : Char → EStateM ShellError δ Unit
  pressButton : MouseButton → EStateM ShellError δ Unit
  releaseButton : MouseButton → EStateM ShellError δ Unit
  moveCursor : Int32 → Int32 → EStateM ShellError δ Unit
  queryCursor : EStateM ShellError δ (Int32 × Int32)

namespace InputDevice

variable {δ : Type} [InputDevice δ]

/-- Presses and releases a key. -/
def tapKey (key : Char) : EStateM ShellError δ Unit := do
  pressKey key
  releaseKey key

/-- Presses and releases a button. -/
def click (button : MouseButton) : EStateM ShellError δ Unit := do
  pressButton button
  releaseButton button

/-- Taps every key in turn and stops at the first that fails. -/
def typeKeys : List Char → EStateM ShellError δ Unit
  | [] => pure ()
  | key :: keys => do
    tapKey key
    typeKeys keys

/-- Types words in turn, with a space between them. -/
def typeWords : List String → EStateM ShellError δ Unit
  | [] => pure ()
  | [word] => typeKeys word.toList
  | word :: words => do
    typeKeys word.toList
    tapKey ' '
    typeWords words

theorem typeKeys_append (keys later : List Char) :
    (typeKeys (keys ++ later) : EStateM ShellError δ Unit) =
      (do typeKeys keys; typeKeys later) := by
  induction keys with
  | nil => simp [typeKeys]
  | cons key keys ih => simp [typeKeys, ih]

/-- Words are typed as one text in which a space stands between them. -/
theorem typeWords_eq (words : List String) :
    (typeWords words : EStateM ShellError δ Unit) = typeKeys (" ".intercalate words).toList := by
  induction words with
  | nil => rfl
  | cons word words ih =>
    cases words with
    | nil => simp [typeWords]
    | cons next words => simp [typeWords, ih, typeKeys_append, typeKeys]

end InputDevice

/-- A source of physical key presses. -/
class KeySource (δ : Type) where
  /-- The next press that waits to be handled. -/
  nextKey : δ → Option (KeyPress × δ)

end MacroShell
