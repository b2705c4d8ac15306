import MacroShell.Interpolation
import MacroShell.Registry
import MacroShell.Shell.Script
import MacroShell.Text.Lines

/-! # What the verbs do

Every verb is an action on a shell. Verbs that run stored text do so through the action `runText`
that they are given; how deep recalls may nest is not decided here. Operands are those that the
arity of the verb allows.
-/

namespace MacroShell.Execute

open ShellM

variable {δ : Type}

/-- The text of a register that has to hold one. -/
def require (slot : Slot .register) : ShellM δ String := do
  check ((← get).registers.require slot)

def parseRegister (arg : String) : ShellM δ (Slot .register) :=
  check (Slot.parse .register arg)

def parseRegisters (args : List String) : ShellM δ (List (Slot .register)) :=
  check (Slot.parseAll .register args)

/-- The file that an operand names, or else the dotfile. -/
def fileOperand (operands : List String) : ShellM δ String := do
  return operands.head?.getD (← get).dotfile

/-! ## Registers and hotkeys -/

def bind (key : String) (words : List String) : ShellM δ Output := do
  let slot ← check (Slot.parse .hotkey key)
  let text := Words.join words
  modify (·.setHotkey slot text)
  return .notice s!"Hotkey '{slot.char}' set to command: {text}"

def record (register : String) (words : List String) : ShellM δ Output := do
  let slot ← parseRegister register
  let text := Words.join words
  modify (·.setRegister slot text)
  return .notice s!"Recorded command in register '{slot.char}': {text}"

def clone (source target : String) : ShellM δ Output := do
  let source ← parseRegister source
  let target ← parseRegister target
  let text ← require source
  modify (·.setRegister target text)
  return .notice s!"Cloned register '{source.char}' to '{target.char}'"

/-- Recalls registers in order, each with the text that it holds when its turn comes. -/
def recallSlots (runText : String → ShellM δ Unit) : List (Slot .register) → ShellM δ Unit
  | [] => pure ()
  | slot :: rest => do
    let text ← require slot
    modify (·.notice s!"Recalling command in register '{slot.char}': {text}")
    runText text
    recallSlots runText rest

/-- Tells whether a register, which may not be empty, holds exactly `value`. -/
def conditionHolds (register value : String) : ShellM δ Bool := do
  let slot ← parseRegister register
  return (← require slot) = value

def recallAll (runText : String → ShellM δ Unit) (registers : List String) :
    ShellM δ Output := do
  let slots ← parseRegisters registers
  recallSlots runText slots
  return .none

def recallWhen (runText : String → ShellM δ Unit) (equal : Bool) (condition value : String)
    (registers : List String) : ShellM δ Output := do
  let slots ← parseRegisters registers
  if (← conditionHolds condition value) = equal then recallSlots runText slots
  return .none

def recallEither (runText : String → ShellM δ Unit) (condition value first second : String) :
    ShellM δ Output := do
  let first ← parseRegister first
  let second ← parseRegister second
  let chosen := if ← conditionHolds condition value then first else second
  recallSlots runText [chosen]
  return .none

/-! ## Background tasks -/

/-- The texts that registers hold now. -/
def snapshot (slots : List (Slot .register)) : ShellM δ (List String) := do
  check (slots.mapM (← get).registers.require)

def slotNames (slots : List (Slot .register)) : String := String.ofList (slots.map Slot.char)

def repetition (count : String) (registers : List String) : ShellM δ Output := do
  let some passes := (Text.natural? UInt64.size count).filter (0 < ·)
    | throw (.invalidArgument s!"repeat count must be a positive integer, got '{count}'")
  let slots ← parseRegisters registers
  let texts ← snapshot slots
  modify (·.spawn (.repetition texts passes))
  return .notice s!"Repeating registers '{slotNames slots}' {passes} times"

def watch (condition value : String) (registers : List String) : ShellM δ Output := do
  let condition ← parseRegister condition
  let slots ← parseRegisters registers
  let texts ← snapshot slots
  modify (·.spawn (.watch condition value texts))
  return .notice s!"Looping registers '{slotNames slots}' while '{condition.char}' is {value}"

/-! ## Options and files -/

def optionText (name value : String) : String := s!"{name} = {value}"

def option : List String → ShellM δ Output
  | [] => do
    let entries := (← get).options.entries
    return .text ("\n".intercalate (entries.map fun entry => optionText entry.1.name entry.2))
  | [name] => do
    let value ← check ((← get).options.getNamed name)
    return .text (optionText name value)
  | name :: value :: _ => do
    let options ← check ((← get).options.setNamed name value)
    modify ({ · with options })
    return .notice s!"Option {name} set to {value}"

def save (operands : List String) : ShellM δ Output := do
  let path ← fileOperand operands
  let shell ← get
  match shell.files.write path shell.script with
  | .ok files => modify fun shell => { shell with files }.log (.saved path shell.script)
  | .error e => throw (.file path e)
  return .notice s!"Saved state to {path}"

/-- Recalls every line that is not blank, and counts them. -/
def recallLines (runText : String → ShellM δ Unit) : List String → ShellM δ Nat
  | [] => return 0
  | line :: rest =>
    if Text.isBlankLine line then recallLines runText rest
    else do
      runText line
      return (← recallLines runText rest) + 1

/-- Runs the lines of a file and counts them. The whole file is read before anything runs. -/
def loadFile (runText : String → ShellM δ Unit) (path : String) : ShellM δ Nat := do
  match (← get).files.read path with
  | .ok content => recallLines runText (Text.lines content)
  | .error e => throw (.file path e)

def load (runText : String → ShellM δ Unit) (operands : List String) : ShellM δ Output := do
  let path ← fileOperand operands
  let count ← loadFile runText path
  return .notice s!"Loaded {count} commands from {path}"

/-! ## The device -/

section Device

variable [InputDevice δ]

def parseCoordinate (arg : String) : ShellM δ Int32 :=
  match Text.int32? arg with
  | some n => pure n
  | none => throw (.invalidArgument s!"invalid coordinate '{arg}'")

def moveTo (x y : String) : ShellM δ Output := do
  let x ← parseCoordinate x
  let y ← parseCoordinate y
  onDevice (InputDevice.moveCursor x y)
  return .none

/-- The command that moves the cursor to a position. -/
def moveText (position : Int32 × Int32) : String :=
  s!"M {position.1.toInt} {position.2.toInt}"

/-- Stores a command in register `L` that moves the cursor back to where it is. -/
def storeLocation : ShellM δ Output := do
  if (← get).options.isOn .lastLocation then
    let position ← onDevice InputDevice.queryCursor
    let text := moveText position
    modify (·.setRegister Slot.lastLocation text)
    return .notice s!"Recorded command in register 'L': {text}"
  else
    throw (.invalidArgument
      s!"MOVE needs coordinates unless {OptionKey.lastLocation.name} is true")

def strokeButton (stroke : Stroke) (arg : String) : ShellM δ Output := do
  let button ← check (MouseButton.parse arg)
  match stroke with
  | .tap =>
    onDevice (InputDevice.click button)
    modify fun shell => { shell with clicks := shell.clicks + 1 }
  | .down => onDevice (InputDevice.pressButton button)
  | .up => onDevice (InputDevice.releaseButton button)
  return .none

def strokeKey (stroke : Stroke) (arg : String) : ShellM δ Output := do
  let some key := arg.toList.head? | throw (.invalidArgument "empty key")
  match stroke with
  | .tap => onDevice (InputDevice.tapKey key)
  | .down => onDevice (InputDevice.pressKey key)
  | .up => onDevice (InputDevice.releaseKey key)
  return .none

/-- Types words with a space between them. -/
def sequence (words : List String) : ShellM δ Output := do
  onDevice (InputDevice.typeWords words)
  return .none

end Device

def delay (arg : String) : ShellM δ Output := do
  let some milliseconds := Text.natural? UInt64.size arg
    | throw (.invalidArgument s!"invalid number of milliseconds '{arg}'")
  modify (·.log (.slept milliseconds))
  return .none

def print (words : List String) : ShellM δ Output := do
  let text := Text.trim (" ".intercalate words)
  return .text (Interpolation.expand (← get).registers text)

/-- Runs a verb. -/
def run [InputDevice δ] (runText : String → ShellM δ Unit) (verb : Verb)
    (operands : List String) : ShellM δ Output :=
  match verb, operands with
  | .help, _ => return .text Registry.builtin.help
  | .bind, key :: words => bind key words
  | .record, register :: words => record register words
  | .clone, [source, target] => clone source target
  | .recallAll, registers => recallAll runText registers
  | .recallWhen equal, condition :: value :: registers =>
    recallWhen runText equal condition value registers
  | .recallEither, [condition, value, first, second] =>
    recallEither runText condition value first second
  | .repetition, count :: registers => repetition count registers
  | .watch, condition :: value :: registers => watch condition value registers
  | .option, operands => option operands
  | .save, operands => save operands
  | .load, operands => load runText operands
  | .move, [x, y] => moveTo x y
  | .move, _ => storeLocation
  | .button stroke, [arg] => strokeButton stroke arg
  | .key stroke, [arg] => strokeKey stroke arg
  | .sequence, words => sequence words
  | .delay, [arg] => delay arg
  | .print, words => print words
  | .quit, _ => return .quit
  | _, _ => return .none

end MacroShell.Execute
